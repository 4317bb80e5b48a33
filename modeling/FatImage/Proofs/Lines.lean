import Mathlib.Data.List.Induction
import Mathlib.Data.Nat.Digits.Defs
import FatImage.Manifest

/-!
# Lines, fields and numbers of a text

The rules for cutting a text are said here a second time, with the functions
that split a list at every place where something stands: at line feeds, and
at blanks. What is between two blanks that follow each other is empty and no
field. The two ways of cutting give the same.

A carriage return in front of a line feed belongs to the break and not to the
line. It is a blank, so nothing changes if it is left where it is: at the end
of a line blanks make no field.
-/

namespace FatImage.Text

variable {cs : List Char}

/-! ## Lines -/

/-- A line as it stands before its line feed, without the carriage return that may
belong to the break. -/
def withoutReturn (line : List Char) : List Char :=
  if line.getLast? = some '\r' then line.dropLast else line

/-- The lines of a text; what is behind the last line feed has no break. -/
def brokenLines (cs : List Char) : List (List Char) :=
  let pieces := cs.splitOn '\n'
  pieces.dropLast.map withoutReturn ++ pieces.getLast?.toList

theorem lines_eq_splitOn (cs : List Char) : lines cs = cs.splitOn '\n' := by
  induction cs with
  | nil => rfl
  | cons c cs ih =>
      have hstep : lines (c :: cs) = consLine c (cs.splitOn '\n') := by
        rw [← ih]
        rfl
      rw [hstep, List.splitOn_eq_splitOnP, List.splitOn_eq_splitOnP,
        List.splitOnP_cons_eq_if_modifyHead]
      by_cases hc : c = '\n'
      · simp [consLine, hc]
      · cases hs : List.splitOnP (· == '\n') cs with
        | nil => exact absurd hs (List.splitOnP_ne_nil _ _)
        | cons l ls => simp [consLine, hc]

/-! ## Fields -/

/-- The fields of a line: what stands before the first `#`, split at its blanks. -/
def row (line : List Char) : List (List Char) :=
  ((line.takeWhile (· ≠ '#')).splitOnP isBlank).filter (· ≠ [])

theorem splitOnP_eq_takeWhile (p : Char → Bool) (cs : List Char) :
    cs.splitOnP p =
      cs.takeWhile (!p ·) :: ((cs.dropWhile (!p ·)).splitOnP p).tail := by
  induction cs with
  | nil => rw [List.takeWhile_nil, List.dropWhile_nil, List.splitOnP_nil, List.tail_cons]
  | cons c cs ih =>
      rw [List.splitOnP_cons_eq_if_modifyHead]
      cases hc : p c with
      | true =>
          rw [List.takeWhile_cons_of_neg (by simp [hc]), List.dropWhile_cons_of_neg (by simp [hc]),
            List.splitOnP_cons_eq_if_modifyHead, if_pos hc]
          rfl
      | false =>
          rw [List.takeWhile_cons_of_pos (by simp [hc]), List.dropWhile_cons_of_pos (by simp [hc]),
            ih]
          rfl

/-- A rest that starts with a blank has an empty piece in front. -/
theorem filter_tail_splitOnP (p : Char → Bool) (cs : List Char) :
    (((cs.dropWhile (!p ·)).splitOnP p).tail).filter (· ≠ []) =
      ((cs.dropWhile (!p ·)).splitOnP p).filter (· ≠ []) := by
  cases hrest : cs.dropWhile (!p ·) with
  | nil => rfl
  | cons b rest =>
      have hb : p b = true := by
        have := List.head?_dropWhile_not (!p ·) cs
        rw [hrest] at this
        simpa using this
      rw [List.splitOnP_cons_eq_if_modifyHead, if_pos hb]
      rfl

theorem fields_eq_splitOnP (cs : List Char) :
    fields cs = (cs.splitOnP isBlank).filter (· ≠ []) := by
  fun_induction fields cs with
  | case1 => rfl
  | case2 c rest hc ih =>
      rw [List.splitOnP_cons_eq_if_modifyHead, if_pos hc, List.filter_cons_of_neg (by simp), ih]
  | case3 c rest hc ih =>
      have hrest := filter_tail_splitOnP isBlank rest
      rw [List.splitOnP_cons_eq_if_modifyHead, if_neg hc, splitOnP_eq_takeWhile,
        List.modifyHead_cons, List.filter_cons_of_pos (by simp), hrest, ih]

/-- A blank at the end makes one more piece, which is empty. -/
theorem filter_splitOnP_append {p : Char → Bool} {b : Char} (hb : p b = true)
    (cs : List Char) :
    ((cs ++ [b]).splitOnP p).filter (· ≠ []) = (cs.splitOnP p).filter (· ≠ []) := by
  rw [List.splitOnP_append_cons cs [] hb, List.splitOnP_nil, List.filter_append]
  exact List.append_nil _

theorem row_append_return (line : List Char) : row (line ++ ['\r']) = row line := by
  unfold row
  rw [List.takeWhile_append]
  split
  · next hall =>
      -- no comment, so the carriage return is a blank at the end
      have hline : line.takeWhile (· ≠ '#') = line :=
        (List.takeWhile_prefix _).eq_of_length hall
      rw [hline]
      exact filter_splitOnP_append (by decide) line
  · rfl

theorem row_withoutReturn (line : List Char) : row (withoutReturn line) = row line := by
  unfold withoutReturn
  split
  · next hlast =>
      obtain ⟨front, rfl⟩ := List.getLast?_eq_some_iff.1 hlast
      rw [List.dropLast_concat, row_append_return]
  · rfl

/-- The fields of the lines of a text, one row for each line. -/
def rows (cs : List Char) : List (List (List Char)) :=
  (brokenLines cs).map row

/-- It makes no difference to the rows whether breaks have carriage returns. -/
theorem rows_eq_map_row (cs : List Char) : rows cs = (lines cs).map row := by
  have hreturn : row ∘ withoutReturn = row := funext row_withoutReturn
  have hlast : ∀ ls : List (List Char), ls.dropLast ++ ls.getLast?.toList = ls := by
    intro ls
    induction ls using List.reverseRecOn with
    | nil => rfl
    | append_singleton front last _ =>
        rw [List.dropLast_concat, List.getLast?_concat, Option.toList_some]
  rw [lines_eq_splitOn, rows, brokenLines, List.map_append, List.map_map, hreturn,
    ← List.map_append, hlast]

theorem rows_eq (cs : List Char) :
    rows cs = (lines cs).map fun line => fields (line.takeWhile (· ≠ '#')) := by
  rw [rows_eq_map_row]
  exact List.map_congr_left fun line _ => (fields_eq_splitOnP _).symm

/-! ## Numbers -/

/-- The value of a character that is a digit. -/
def digitValue (c : Char) : Nat :=
  c.toNat - '0'.toNat

/-- A decimal and its value: at least one digit, and maybe a plus sign before them. -/
inductive Numeral : List Char → Nat → Prop where
  | unsigned {digits : List Char} (hne : digits ≠ []) (hdigits : ∀ c ∈ digits, c.isDigit) :
      Numeral digits (Nat.ofDigits 10 (digits.reverse.map digitValue))
  | signed {digits : List Char} (hne : digits ≠ []) (hdigits : ∀ c ∈ digits, c.isDigit) :
      Numeral ('+' :: digits) (Nat.ofDigits 10 (digits.reverse.map digitValue))

theorem decimalValue_eq (digits : List Char) :
    decimalValue digits = Nat.ofDigits 10 (digits.reverse.map digitValue) := by
  induction digits using List.reverseRecOn with
  | nil => rfl
  | append_singleton digits c ih =>
      rw [List.reverse_concat, List.map_cons, Nat.ofDigits_cons, ← ih, decimalValue,
        List.foldl_append, Nat.add_comm]
      rfl

theorem toNat_toUInt32 {n : Nat} (h : n < 0x100000000) : n.toUInt32.toNat = n :=
  UInt32.toNat_ofNat_of_lt' h

/-- The characters behind a plus sign, if there is one. -/
def withoutSign (cs : List Char) : List Char :=
  if cs.head? = some '+' then cs.tail else cs

theorem numeral_iff {v : Nat} : Numeral cs v ↔ withoutSign cs ≠ [] ∧
    (∀ c ∈ withoutSign cs, c.isDigit) ∧ v = decimalValue (withoutSign cs) := by
  constructor
  · intro h
    cases h with
    | @unsigned digits hne hdigits =>
        have hsign : withoutSign cs = cs := by
          refine if_neg fun hplus => ?_
          -- a plus sign is no digit
          have := hdigits '+' (List.mem_of_mem_head? hplus)
          exact absurd this (by decide)
        rw [hsign, decimalValue_eq]
        exact ⟨hne, hdigits, rfl⟩
    | @signed digits hne hdigits =>
        have hsign : withoutSign ('+' :: digits) = digits := if_pos rfl
        rw [hsign, decimalValue_eq]
        exact ⟨hne, hdigits, rfl⟩
  · rintro ⟨hne, hdigits, rfl⟩
    rw [decimalValue_eq]
    cases cs with
    | nil => exact absurd rfl hne
    | cons c digits =>
        by_cases hplus : c = '+'
        · subst hplus
          exact .signed hne hdigits
        · have hsign : withoutSign (c :: digits) = c :: digits :=
            if_neg fun h => hplus (Option.some.inj h)
          rw [hsign] at hne hdigits ⊢
          exact .unsigned hne hdigits

/-- What is read as a word of 32 bits is a decimal of that value, and every decimal whose
value is one is read. -/
theorem word32?_eq_some_iff {size : UInt32} :
    word32? cs = some size ↔ Numeral cs size.toNat := by
  rw [numeral_iff]
  show (if (withoutSign cs).isEmpty || !(withoutSign cs).all Char.isDigit then none
    else if decimalValue (withoutSign cs) < 0x100000000 then
      some (decimalValue (withoutSign cs)).toUInt32 else none) = some size ↔ _
  generalize withoutSign cs = digits
  constructor
  · intro h
    split at h
    · cases h
    · next hdigits =>
        split at h
        · next hlt =>
            simp only [Bool.or_eq_true, List.isEmpty_iff, Bool.not_eq_true',
              List.all_eq_false, not_or, not_exists, not_and, not_not] at hdigits
            cases h
            exact ⟨hdigits.1, hdigits.2, toNat_toUInt32 hlt⟩
        · cases h
  · rintro ⟨hne, hdigits, hvalue⟩
    have hlt := size.toNat_lt
    have hok : ¬ (digits.isEmpty || !digits.all Char.isDigit) = true := by
      simp only [Bool.or_eq_true, List.isEmpty_iff, hne, Bool.not_eq_true',
        List.all_eq_false, false_or, not_exists, not_and, not_not]
      exact hdigits
    rw [if_neg hok, if_pos (by omega), ← hvalue]
    simp

end FatImage.Text
