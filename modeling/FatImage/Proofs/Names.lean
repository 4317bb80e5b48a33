import Mathlib.Data.List.TakeWhile
import FatImage.Record

/-!
# The texts that are names

What an 8.3 name looks like is said without reading one. A text with at most
one dot has two parts, `Parts`: what stands before the dot and what stands
behind it. It `Spells` a name if the parts are not too long and hold permitted
characters only, and the bytes of the name are then the parts in capitals,
each filled up with spaces. `Applies` says what can be wrong with a text; more
than one thing may be, and the one that is told comes first in `rank`.

A text with two dots has no parts. So nothing else than the dots can be wrong
with it, and of a text that has parts there is no doubt which they are.

The first byte of a name comes from a permitted character. None of these is a
blank, none is a zero and none is above ASCII, so a record with the name does
not look like one that was never used or like one that was deleted.
-/

namespace FatImage.ShortName

variable {text base extension base' extension' cs : List Char} {c c' : Char}
variable {n n' : ShortName} {e e' : NameError}

/-! ## The grammar -/

/-- A text with at most one dot, what stands before the dot and what behind it. -/
inductive Parts : (text base extension : List Char) → Prop where
  | plain {base : List Char} (hbase : '.' ∉ base) : Parts base base []
  | dotted {base extension : List Char} (hbase : '.' ∉ base) (hextension : '.' ∉ extension) :
      Parts (base ++ '.' :: extension) base extension

/-- A character that a name may hold: printable ASCII, but for the space and fifteen others. -/
def Permitted (c : Char) : Prop :=
  0x21 ≤ c.toNat ∧ c.toNat ≤ 0x7E ∧ c ∉ "\x22*+,/:;<=>?[\\]|".toList

instance : DecidablePred Permitted := fun _ => inferInstanceAs (Decidable (_ ∧ _ ∧ _))

/-- The bytes of a part: its characters in capitals, filled up with spaces. -/
def padded (k : Nat) (cs : List Char) : List UInt8 :=
  cs.map (fun c => c.toUpper.toNat.toUInt8) ++ List.replicate (k - cs.length) 0x20

/-- Parts that make a name. -/
structure Fitting (base extension : List Char) : Prop where
  nonempty : base ≠ []
  permitted : ∀ c ∈ base ++ extension, Permitted c
  base_le : base.length ≤ 8
  extension_le : extension.length ≤ 3

/-- The text is of 8.3 form, and the name is the one that it stands for. -/
def Spells (text : List Char) (n : ShortName) : Prop :=
  ∃ base extension, Parts text base extension ∧ Fitting base extension ∧
    n.bytes = padded 8 base ++ padded 3 extension

/-- The leftmost character that a name may not hold. -/
def Offends (cs : List Char) (c : Char) : Prop :=
  ∃ front back, cs = front ++ c :: back ∧ (∀ d ∈ front, Permitted d) ∧ ¬ Permitted c

/-- What is wrong with a text. -/
def Applies (text : List Char) : NameError → Prop
  | .tooManyDots => 2 ≤ text.count '.'
  | .empty => ∃ extension, Parts text [] extension
  | .invalidCharacter c => ∃ base extension, Parts text base extension ∧
      Offends (base ++ extension) c
  | .baseTooLong length => ∃ base extension, Parts text base extension ∧
      8 < base.length ∧ length = base.length
  | .extensionTooLong length => ∃ base extension, Parts text base extension ∧
      3 < extension.length ∧ length = extension.length

/-- The order in which complaints about a text come. -/
def rank : NameError → Nat
  | .tooManyDots => 0
  | .empty => 1
  | .invalidCharacter _ => 2
  | .baseTooLong _ => 3
  | .extensionTooLong _ => 4

/-- The complaint applies to the text, and no other one that does comes before it. -/
def AppliesFirst (text : List Char) (e : NameError) : Prop :=
  Applies text e ∧ ∀ other, Applies text other → rank e ≤ rank other

theorem Fitting.permitted_base (h : Fitting base extension) : ∀ c ∈ base, Permitted c :=
  (List.forall_mem_append.1 h.permitted).1

theorem Fitting.permitted_extension (h : Fitting base extension) :
    ∀ c ∈ extension, Permitted c :=
  (List.forall_mem_append.1 h.permitted).2

/-! ## The parts of a text -/

theorem takeWhile_dotted (h : '.' ∉ base) (rest : List Char) :
    (base ++ '.' :: rest).takeWhile (· ≠ '.') = base := by
  rw [List.takeWhile_append_of_pos fun c hc => by simpa using ne_of_mem_of_not_mem hc h,
    List.takeWhile_cons_of_neg (by simp), List.append_nil]

theorem tail_dropWhile_dotted (h : '.' ∉ base) (rest : List Char) :
    ((base ++ '.' :: rest).dropWhile (· ≠ '.')).tail = rest := by
  rw [List.dropWhile_append_of_pos fun c hc => by simpa using ne_of_mem_of_not_mem hc h,
    List.dropWhile_cons_of_neg (by simp), List.tail_cons]

theorem Parts.takeWhile_eq (h : Parts text base extension) :
    text.takeWhile (· ≠ '.') = base := by
  cases h with
  | plain hbase =>
      rw [List.takeWhile_eq_self_iff]
      intro c hc
      simpa using ne_of_mem_of_not_mem hc hbase
  | dotted hbase _ => exact takeWhile_dotted hbase extension

theorem Parts.tail_dropWhile_eq (h : Parts text base extension) :
    (text.dropWhile (· ≠ '.')).tail = extension := by
  cases h with
  | plain hbase =>
      have hdrop : text.dropWhile (· ≠ '.') = [] := by
        rw [List.dropWhile_eq_nil_iff]
        intro c hc
        simpa using ne_of_mem_of_not_mem hc hbase
      rw [hdrop, List.tail_nil]
  | dotted hbase _ => exact tail_dropWhile_dotted hbase extension

theorem Parts.unique (h : Parts text base extension) (h' : Parts text base' extension') :
    base = base' ∧ extension = extension' :=
  ⟨h.takeWhile_eq.symm.trans h'.takeWhile_eq,
    h.tail_dropWhile_eq.symm.trans h'.tail_dropWhile_eq⟩

theorem Parts.not_mem_extension (h : Parts text base extension) : '.' ∉ extension := by
  cases h with
  | plain _ => exact List.not_mem_nil
  | dotted _ hextension => exact hextension

theorem Parts.count_le_one (h : Parts text base extension) : text.count '.' ≤ 1 := by
  cases h with
  | plain hbase =>
      rw [List.count_eq_zero.2 hbase]
      exact Nat.zero_le 1
  | dotted hbase hextension =>
      rw [List.count_append, List.count_cons_self, List.count_eq_zero.2 hbase,
        List.count_eq_zero.2 hextension]

/-- A text without parts has a second dot behind its first. -/
theorem parts_or_dotted (text : List Char) : (∃ base extension, Parts text base extension) ∨
    ∃ front back, text = front ++ '.' :: back ∧ '.' ∉ front ∧ '.' ∈ back := by
  by_cases hdot : '.' ∈ text
  · obtain ⟨front, back, rfl, hfront⟩ := List.eq_append_cons_of_mem hdot
    by_cases hback : '.' ∈ back
    · exact Or.inr ⟨front, back, rfl, hfront, hback⟩
    · exact Or.inl ⟨front, back, .dotted hfront hback⟩
  · exact Or.inl ⟨text, [], .plain hdot⟩

/-! ## Characters and bytes -/

theorem isAllowed_iff : isAllowed c = true ↔ Permitted c := by
  have hreserved : reserved = "\x22*+,/:;<=>?[\\]|".toList := by decide
  simp only [isAllowed, Permitted, hreserved, Bool.and_eq_true, decide_eq_true_eq,
    Bool.not_eq_true', List.contains_eq_mem, decide_eq_false_iff_not, and_assoc]

theorem find?_eq_none_iff :
    cs.find? (!isAllowed ·) = none ↔ ∀ c ∈ cs, Permitted c := by
  simp only [List.find?_eq_none, Bool.not_eq_true', Bool.not_eq_false, isAllowed_iff]

theorem find?_eq_some_iff : cs.find? (!isAllowed ·) = some c ↔ Offends cs c := by
  simp only [List.find?_eq_some_iff_append, Offends, Bool.not_eq_true', Bool.not_not,
    ← Bool.not_eq_true, isAllowed_iff]
  constructor
  · intro hfound
    obtain ⟨hc, front, back, rfl, hfront⟩ := hfound
    exact ⟨front, back, rfl, hfront, hc⟩
  · intro hoffends
    obtain ⟨front, back, rfl, hfront, hc⟩ := hoffends
    exact ⟨hc, front, back, rfl, hfront⟩

/-- A part that is short enough stands in its field as it is, in capitals. -/
theorem toList_field {k : Nat} (h : cs.length ≤ k) : (field k cs).toList = padded k cs := by
  refine List.ext_getElem (by simp [padded, Nat.add_sub_cancel' h]) fun i hi _ => ?_
  rw [Vector.getElem_toList]
  simp only [field, padded, Vector.getElem_ofFn, List.getElem_append, List.length_map,
    List.getElem_map, List.getElem_replicate]
  split
  · next hin =>
      obtain ⟨hlt, rfl⟩ := List.getElem?_eq_some_iff.1 hin
      rw [dif_pos hlt]
  · next hout =>
      rw [dif_neg (Nat.not_lt.2 (List.getElem?_eq_none_iff.1 hout))]
      rfl

/-- What holds of all of ASCII holds of a permitted character. -/
theorem Permitted.of_ascii {p : Char → Prop} (h : Permitted c)
    (hall : ∀ k < 127, p (Char.ofNat k)) : p c := by
  have hc := hall c.toNat (Nat.lt_succ_of_le h.2.1)
  rwa [Char.ofNat_toNat] at hc

theorem Permitted.toUpper_bounds (h : Permitted c) :
    0x21 ≤ c.toUpper.toNat ∧ c.toUpper.toNat ≤ 0x7E :=
  h.of_ascii (p := fun c => 0x21 ≤ c.toNat → 0x21 ≤ c.toUpper.toNat ∧ c.toUpper.toNat ≤ 0x7E)
    (by decide) h.1

theorem utf8ByteSize_of_permitted (h : ∀ c ∈ cs, Permitted c) :
    (String.ofList cs).utf8ByteSize = cs.length := by
  induction cs with
  | nil => rfl
  | cons c cs ih =>
      have hrest := ih fun d hd => h d (List.mem_cons_of_mem c hd)
      have hc : c.utf8Size = 1 := by
        rw [Char.utf8Size_eq_one_iff, UInt32.le_iff_toNat_le]
        exact Nat.le_succ_of_le (h c List.mem_cons_self).2.1
      rw [String.ofList_cons, String.utf8ByteSize_append, String.utf8ByteSize_singleton, hc, hrest,
        List.length_cons, Nat.add_comm]

/-! ## Reading a name -/

/-- The six ways in which reading a name can end, and what they say of the text. -/
inductive Reading (text : List Char) : Except NameError ShortName → Prop where
  | tooManyDots (hdots : 2 ≤ text.count '.') : Reading text (.error .tooManyDots)
  | empty {extension : List Char} (hparts : Parts text [] extension) :
      Reading text (.error .empty)
  | invalidCharacter {base extension : List Char} {c : Char} (hparts : Parts text base extension)
      (hbase : base ≠ []) (hc : Offends (base ++ extension) c) :
      Reading text (.error (.invalidCharacter c))
  | baseTooLong {base extension : List Char} (hparts : Parts text base extension)
      (hbase : base ≠ []) (hpermitted : ∀ c ∈ base ++ extension, Permitted c)
      (hlong : 8 < base.length) : Reading text (.error (.baseTooLong base.length))
  | extensionTooLong {base extension : List Char} (hparts : Parts text base extension)
      (hbase : base ≠ []) (hpermitted : ∀ c ∈ base ++ extension, Permitted c)
      (hle : base.length ≤ 8) (hlong : 3 < extension.length) :
      Reading text (.error (.extensionTooLong extension.length))
  | name {base extension : List Char} (hparts : Parts text base extension)
      (hfit : Fitting base extension) :
      Reading text (.ok ⟨field 8 base, field 3 extension⟩)

theorem reading_parse (text : List Char) : Reading text (parse text) := by
  rcases parts_or_dotted text with ⟨base, extension, hparts⟩ | ⟨front, back, rfl, hfront, hback⟩
  · have hdots : extension.contains '.' = false := by
      simpa using hparts.not_mem_extension
    unfold parse
    simp only [hparts.takeWhile_eq, hparts.tail_dropWhile_eq, hdots, bind, Except.bind, pure,
      Except.pure, throw, throwThe, MonadExceptOf.throw]
    rw [if_neg Bool.false_ne_true]
    split
    · next hempty =>
        rw [List.isEmpty_iff.1 hempty] at hparts
        exact .empty hparts
    · next hempty =>
        have hbase : base ≠ [] := fun h => hempty (List.isEmpty_iff.2 h)
        split
        · next c hfind => exact .invalidCharacter hparts hbase (find?_eq_some_iff.1 hfind)
        · next hfind =>
            have hpermitted := find?_eq_none_iff.1 (Option.eq_none_iff_forall_not_mem.2 hfind)
            split
            · next hlong => exact .baseTooLong hparts hbase hpermitted hlong
            · next hle =>
                split
                · next hlong =>
                    exact .extensionTooLong hparts hbase hpermitted (Nat.not_lt.1 hle) hlong
                · next hle' =>
                    exact .name hparts
                      ⟨hbase, hpermitted, Nat.not_lt.1 hle, Nat.not_lt.1 hle'⟩
  · have hdots : back.contains '.' = true := by simpa using hback
    unfold parse
    simp only [takeWhile_dotted hfront, tail_dropWhile_dotted hfront, hdots, bind, Except.bind,
      pure, Except.pure, throw, throwThe, MonadExceptOf.throw, if_true]
    refine .tooManyDots ?_
    rw [List.count_append, List.count_cons_self]
    have := List.one_le_count_iff.2 hback
    omega

/-! ## What comes first

The further a text is right, the later the first complaint about it can come. -/

section

variable (h : Applies text e) (hparts : Parts text base extension)
include h hparts

theorem Applies.one_le_rank : 1 ≤ rank e := by
  cases e with
  | tooManyDots =>
      have hdots : 2 ≤ text.count '.' := h
      have := hparts.count_le_one
      omega
  | empty | invalidCharacter | baseTooLong | extensionTooLong => simp [rank]

variable (hbase : base ≠ [])
include hbase

theorem Applies.two_le_rank : 2 ≤ rank e := by
  have hone := h.one_le_rank hparts
  cases e with
  | tooManyDots => simp [rank] at hone
  | empty =>
      obtain ⟨_, hparts'⟩ := h
      exact absurd (hparts.unique hparts').1 hbase
  | invalidCharacter | baseTooLong | extensionTooLong => simp [rank]

variable (hpermitted : ∀ c ∈ base ++ extension, Permitted c)
include hpermitted

theorem Applies.three_le_rank : 3 ≤ rank e := by
  have htwo := h.two_le_rank hparts hbase
  cases e with
  | tooManyDots | empty => simp [rank] at htwo
  | invalidCharacter c =>
      obtain ⟨_, _, hparts', front, back, heq, -, hc⟩ := h
      obtain ⟨rfl, rfl⟩ := hparts.unique hparts'
      rw [heq] at hpermitted
      exact absurd (hpermitted c (List.mem_append_right _ List.mem_cons_self)) hc
  | baseTooLong | extensionTooLong => simp [rank]

theorem Applies.four_le_rank (hle : base.length ≤ 8) : 4 ≤ rank e := by
  have hthree := h.three_le_rank hparts hbase hpermitted
  cases e with
  | tooManyDots | empty | invalidCharacter => simp [rank] at hthree
  | baseTooLong =>
      obtain ⟨_, _, hparts', hlong, -⟩ := h
      obtain ⟨rfl, rfl⟩ := hparts.unique hparts'
      omega
  | extensionTooLong => simp [rank]

end

/-- Nothing is wrong with a text that spells a name. -/
theorem Spells.not_applies (h : Spells text n) (e : NameError) : ¬ Applies text e := by
  intro happlies
  obtain ⟨base, extension, hparts, hfit, -⟩ := h
  have hfour := happlies.four_le_rank hparts hfit.nonempty hfit.permitted hfit.base_le
  cases e with
  | tooManyDots | empty | invalidCharacter | baseTooLong => simp [rank] at hfour
  | extensionTooLong =>
      obtain ⟨_, _, hparts', hlong, -⟩ := happlies
      obtain ⟨rfl, rfl⟩ := hparts.unique hparts'
      have := hfit.extension_le
      omega

/-- Two complaints of one rank are the same: they are about the same parts. -/
theorem Applies.unique (h : Applies text e) (h' : Applies text e') (hrank : rank e = rank e') :
    e = e' := by
  cases e with
  | tooManyDots => cases e' <;> simp [rank] at hrank; rfl
  | empty => cases e' <;> simp [rank] at hrank; rfl
  | invalidCharacter c =>
      cases e' with
      | invalidCharacter c' =>
          obtain ⟨_, _, hparts, hc⟩ := h
          obtain ⟨_, _, hparts', hc'⟩ := h'
          obtain ⟨rfl, rfl⟩ := hparts.unique hparts'
          rw [← find?_eq_some_iff] at hc hc'
          rw [Option.some.inj (hc.symm.trans hc')]
      | tooManyDots | empty | baseTooLong | extensionTooLong => simp [rank] at hrank
  | baseTooLong length =>
      cases e' with
      | baseTooLong length' =>
          obtain ⟨_, _, hparts, -, rfl⟩ := h
          obtain ⟨_, _, hparts', -, rfl⟩ := h'
          rw [(hparts.unique hparts').1]
      | tooManyDots | empty | invalidCharacter | extensionTooLong => simp [rank] at hrank
  | extensionTooLong length =>
      cases e' with
      | extensionTooLong length' =>
          obtain ⟨_, _, hparts, -, rfl⟩ := h
          obtain ⟨_, _, hparts', -, rfl⟩ := h'
          rw [(hparts.unique hparts').2]
      | tooManyDots | empty | invalidCharacter | baseTooLong => simp [rank] at hrank

theorem AppliesFirst.unique (h : AppliesFirst text e) (h' : AppliesFirst text e') : e = e' :=
  h.1.unique h'.1 (Nat.le_antisymm (h.2 e' h'.1) (h'.2 e h.1))

/-- No complaint about a length comes before one about a character. -/
theorem AppliesFirst.permitted (h : AppliesFirst text e) (hparts : Parts text base extension)
    (hrank : 3 ≤ rank e) : ∀ c ∈ base ++ extension, Permitted c := by
  cases hfind : (base ++ extension).find? (!isAllowed ·) with
  | none => exact find?_eq_none_iff.1 hfind
  | some c =>
      have hle : rank e ≤ 2 :=
        h.2 (.invalidCharacter c) ⟨base, extension, hparts, find?_eq_some_iff.1 hfind⟩
      omega

theorem Spells.unique (h : Spells text n) (h' : Spells text n') : n = n' := by
  obtain ⟨_, _, hparts, -, hbytes⟩ := h
  obtain ⟨_, _, hparts', -, hbytes'⟩ := h'
  obtain ⟨rfl, rfl⟩ := hparts.unique hparts'
  exact bytes_inj.1 (hbytes.trans hbytes'.symm)

theorem fields_of_parse (h : parse text = .ok n) : ∃ base extension,
    Parts text base extension ∧ Fitting base extension ∧ n = ⟨field 8 base, field 3 extension⟩ := by
  have hreading := reading_parse text
  rw [h] at hreading
  cases hreading with
  | name hparts hfit => exact ⟨_, _, hparts, hfit, rfl⟩

theorem spells_of_parse (h : parse text = .ok n) : Spells text n := by
  obtain ⟨base, extension, hparts, hfit, rfl⟩ := fields_of_parse h
  refine ⟨base, extension, hparts, hfit, ?_⟩
  rw [bytes, toList_field hfit.base_le, toList_field hfit.extension_le]

theorem appliesFirst_of_parse (h : parse text = .error e) : AppliesFirst text e := by
  have hreading := reading_parse text
  rw [h] at hreading
  cases hreading with
  | tooManyDots hdots => exact ⟨hdots, fun _ _ => Nat.zero_le _⟩
  | empty hparts => exact ⟨⟨_, hparts⟩, fun _ hother => hother.one_le_rank hparts⟩
  | invalidCharacter hparts hbase hc =>
      exact ⟨⟨_, _, hparts, hc⟩, fun _ hother => hother.two_le_rank hparts hbase⟩
  | baseTooLong hparts hbase hpermitted hlong =>
      exact ⟨⟨_, _, hparts, hlong, rfl⟩,
        fun _ hother => hother.three_le_rank hparts hbase hpermitted⟩
  | extensionTooLong hparts hbase hpermitted hle hlong =>
      exact ⟨⟨_, _, hparts, hlong, rfl⟩,
        fun _ hother => hother.four_le_rank hparts hbase hpermitted hle⟩

theorem parse_eq_ok_iff : parse text = .ok n ↔ Spells text n := by
  refine ⟨spells_of_parse, fun h => ?_⟩
  cases hparse : parse text with
  | ok n' => rw [h.unique (spells_of_parse hparse)]
  | error e => exact absurd (appliesFirst_of_parse hparse).1 (h.not_applies e)

theorem parse_eq_error_iff : parse text = .error e ↔ AppliesFirst text e := by
  refine ⟨appliesFirst_of_parse, fun h => ?_⟩
  cases hparse : parse text with
  | ok n => exact absurd h.1 ((spells_of_parse hparse).not_applies e)
  | error e' => rw [h.unique (appliesFirst_of_parse hparse)]

/-! ## The first byte of a name -/

/-- The first byte of a name is that of a permitted character, in capitals. -/
theorem Spells.first (h : Spells text n) :
    ∃ b, n.bytes[0]? = some b ∧ b ≠ 0x00 ∧ b ≠ 0x20 ∧ b ≠ 0xE5 := by
  obtain ⟨base, extension, hparts, hfit, hbytes⟩ := h
  obtain ⟨c, rest, rfl⟩ := List.exists_cons_of_ne_nil hfit.nonempty
  obtain ⟨hlow, hhigh⟩ := (hfit.permitted c List.mem_cons_self).toUpper_bounds
  have hnat : c.toUpper.toNat.toUInt8.toNat = c.toUpper.toNat :=
    UInt8.toNat_ofNat_of_lt' (by rw [UInt8.size]; omega)
  have hne : ∀ b : UInt8, b.toNat < 0x21 ∨ 0x7E < b.toNat → c.toUpper.toNat.toUInt8 ≠ b := by
    intro b hb heq
    rw [← heq, hnat] at hb
    omega
  refine ⟨c.toUpper.toNat.toUInt8, ?_, hne _ (by decide), hne _ (by decide), hne _ (by decide)⟩
  rw [hbytes]
  rfl

/-- A record with the name was used, and it was not deleted. -/
theorem Spells.record {record : Record} (h : Spells text record.name) :
    Record.isNeverUsed record.encode = false ∧ Bytes.byteAt record.encode 0 ≠ 0xE5 := by
  obtain ⟨b, hb, hunused, -, hdeleted⟩ := h.first
  have hbyte : Bytes.byteAt record.encode 0 = b := by
    rw [Record.byteAt_encode, if_pos (by omega), hb, Option.getD_some]
  have hsize : 0 < record.encode.size := by
    rw [Record.size_encode]
    omega
  rw [← Bool.not_eq_true, Record.isNeverUsed_iff hsize, hbyte]
  exact ⟨hunused, hdeleted⟩

/-- How reading a text as a name ends. -/
structure Reads (text : List Char) (r : Except NameError ShortName) : Prop where
  ok_iff : ∀ n, r = .ok n ↔ Spells text n
  error_iff : ∀ e, r = .error e ↔ AppliesFirst text e
  first : ∀ n, r = .ok n → ∃ b, n.bytes[0]? = some b ∧ b ≠ 0x00 ∧ b ≠ 0x20 ∧ b ≠ 0xE5
  record : ∀ record : Record, r = .ok record.name →
    Record.isNeverUsed record.encode = false ∧ Bytes.byteAt record.encode 0 ≠ 0xE5
  /-- The length that is told is the same in characters and in bytes. -/
  lengths : ∀ base extension, Parts text base extension → ∀ length,
    (r = .error (.baseTooLong length) → (String.ofList base).utf8ByteSize = length) ∧
    (r = .error (.extensionTooLong length) → (String.ofList extension).utf8ByteSize = length)

/-- A text is read as a name if it is of 8.3 form and else refused for what comes first of
all that is wrong with it; no name that is read makes a record look free or deleted. -/
theorem ofString_reads (text : String) : Reads text.toList (ofString text) where
  ok_iff _ := parse_eq_ok_iff
  error_iff _ := parse_eq_error_iff
  first _ h := (spells_of_parse h).first
  record _ h := (spells_of_parse h).record
  lengths base extension hparts length := by
    refine ⟨fun h => ?_, fun h => ?_⟩
    · have hfirst := appliesFirst_of_parse h
      have hpermitted := hfirst.permitted hparts (Nat.le_refl 3)
      obtain ⟨⟨_, _, hparts', -, rfl⟩, -⟩ := hfirst
      obtain ⟨rfl, rfl⟩ := hparts.unique hparts'
      exact utf8ByteSize_of_permitted (List.forall_mem_append.1 hpermitted).1
    · have hfirst := appliesFirst_of_parse h
      have hpermitted := hfirst.permitted hparts (Nat.le_succ 3)
      obtain ⟨⟨_, _, hparts', -, rfl⟩, -⟩ := hfirst
      obtain ⟨rfl, rfl⟩ := hparts.unique hparts'
      exact utf8ByteSize_of_permitted (List.forall_mem_append.1 hpermitted).2

end FatImage.ShortName
