import Mathlib.Data.List.Range
import FatImage.Proofs.Grammar

/-!
# Placeholders that are too large

A placeholder is held against the longest file only when the whole manifest
has been read, and by then the text is gone. What is left of it is the line
that every listing has kept, so a complaint is right if these are the lines
of the text, comments and blank ones counted.

The listings are those of the rows that count, and the rows are numbered as
the lines are. So every declared size is found in a listing with its line, no
listing has a size that its line does not declare, and since the numbers grow
along the listings, the first listing that is refused has the smallest line
of all that could be.

The check is given the manifest and answers whether it passes. There is no
other manifest that could come of it.
-/

namespace FatImage.Manifest

variable {rows : List Row} {row : Row} {ls : List Listing} {m : Manifest} {e : Entry}
variable {listing : Listing} {limit line : Nat} {size : UInt32}

/-- The row of a line declares a placeholder of this size; lines count from one. -/
def Declares (rows : List Row) (line : Nat) (size : UInt32) : Prop :=
  ∃ i row field, line = i + 1 ∧ rows[i]? = some row ∧ row[2]? = some field ∧
    DeclaresSize field size

/-! ## Lines and listings -/

theorem mem_numbered_iff :
    (row, line) ∈ numbered rows ↔ row ≠ [] ∧ ∃ i, line = i + 1 ∧ rows[i]? = some row := by
  rw [numbered, List.mem_filter, List.mk_mem_zipIdx_iff_le_and_getElem?_sub, and_comm]
  refine and_congr (by simp) ?_
  constructor
  · intro hindex
    obtain ⟨hle, hget⟩ := hindex
    exact ⟨line - 1, by omega, hget⟩
  · intro hindex
    obtain ⟨i, rfl, hget⟩ := hindex
    exact ⟨Nat.le_add_left _ _, hget⟩

theorem Describes.placeholder_iff (h : Describes row e) :
    e.placeholder = some size ↔ ∃ field, row[2]? = some field ∧ DeclaresSize field size := by
  cases h with
  | plain hname =>
      constructor
      · intro hnone
        cases hnone
      · intro hdeclares
        obtain ⟨_, hfield, -⟩ := hdeclares
        cases hfield
  | sized hname hsize =>
      constructor
      · intro hsome
        cases hsome
        exact ⟨_, rfl, hsize⟩
      · intro hdeclares
        obtain ⟨_, hfield, hsize'⟩ := hdeclares
        cases hfield
        exact congrArg some (hsize.unique hsize')

theorem Declares.unique {size' : UInt32} (h : Declares rows line size)
    (h' : Declares rows line size') : size = size' := by
  obtain ⟨i, row, field, rfl, hrow, hfield, hsize⟩ := h
  obtain ⟨j, row', field', hline, hrow', hfield', hsize'⟩ := h'
  obtain rfl := Nat.succ.inj hline
  obtain rfl := Option.some.inj (hrow.symm.trans hrow')
  obtain rfl := Option.some.inj (hfield.symm.trans hfield')
  exact hsize.unique hsize'

namespace Listed

/-- The sizes that lines declare are those of the listings. -/
theorem declares_iff (h : Listed rows ls) : Declares rows line size ↔
    ∃ listing ∈ ls, listing.line = line ∧ listing.entry.placeholder = some size := by
  constructor
  · intro hdeclares
    obtain ⟨i, row, field, rfl, hrow, hfield, hsize⟩ := hdeclares
    have hnumbered : (row, i + 1) ∈ numbered rows := by
      refine mem_numbered_iff.2 ⟨fun hnil => ?_, i, rfl, hrow⟩
      rw [hnil] at hfield
      cases hfield
    obtain ⟨listing, hlisting, hline, hdescribes⟩ := h.exists_listing hnumbered
    exact ⟨listing, hlisting, hline, hdescribes.placeholder_iff.2 ⟨field, hfield, hsize⟩⟩
  · intro hlisted
    obtain ⟨listing, hlisting, rfl, hsize⟩ := hlisted
    obtain ⟨row, hnumbered, hrow⟩ := h.exists_row hlisting
    obtain ⟨-, i, hline, hget⟩ := mem_numbered_iff.1 hnumbered
    obtain ⟨field, hfield, hdeclares⟩ := hrow.placeholder_iff.1 hsize
    exact ⟨i, row, field, hline, hget, hfield, hdeclares⟩

/-- The lines grow along the listings. -/
theorem pairwise_line (h : Listed rows ls) : ls.Pairwise fun a b => a.line < b.line := by
  have hlines : (numbered rows).map Prod.snd = ls.map Listing.line := by
    rw [← List.forall₂_eq_eq_eq, List.forall₂_map_left_iff, List.forall₂_map_right_iff]
    exact h.entries.imp fun _ _ hlisting => hlisting.1.symm
  have hnumbers : ((numbered rows).map Prod.snd).Pairwise (· < ·) := by
    have hsub : ((numbered rows).map Prod.snd).Sublist ((rows.zipIdx 1).map Prod.snd) :=
      List.filter_sublist.map _
    rw [List.zipIdx_map_snd] at hsub
    exact List.Pairwise.sublist hsub List.pairwise_lt_range'
  rwa [hlines, List.pairwise_map] at hnumbers

end Listed

/-! ## The check -/

theorem tooLarge?_eq_none_iff : tooLarge? limit listing = none ↔
    ∀ size, listing.entry.placeholder = some size → size.toNat ≤ limit := by
  unfold tooLarge?
  split <;> simp [*]

theorem tooLarge?_eq_some_iff {err : ManifestError} : tooLarge? limit listing = some err ↔
    ∃ size, listing.entry.placeholder = some size ∧ limit < size.toNat ∧
      err = ⟨listing.line, .placeholderTooLarge size limit⟩ := by
  unfold tooLarge?
  split <;> simp [*, eq_comm]

theorem checkPlaceholders_eq_ok_iff : m.checkPlaceholders limit = .ok () ↔
    ∀ e ∈ m.entries, ∀ size, e.placeholder = some size → size.toNat ≤ limit := by
  have hnone : m.checkPlaceholders limit = .ok () ↔
      m.listings.findSome? (tooLarge? limit) = none := by
    unfold checkPlaceholders
    split <;> simp [*]
  rw [hnone, List.findSome?_eq_none_iff]
  simp only [tooLarge?_eq_none_iff, entries, List.forall_mem_map]

/-- The first listing that is too large is refused. -/
theorem checkPlaceholders_eq_error_iff {err : ManifestError} :
    m.checkPlaceholders limit = .error err ↔ ∃ front listing back,
      m.listings = front ++ listing :: back ∧ tooLarge? limit listing = some err ∧
      ∀ before ∈ front, tooLarge? limit before = none := by
  rw [← List.findSome?_eq_some_iff]
  unfold checkPlaceholders
  split <;> simp [*]

section

variable (h : Listed rows m.listings)
include h

theorem Listed.checkPlaceholders_ok_iff : m.checkPlaceholders limit = .ok () ↔
    ∀ line size, Declares rows line size → size.toNat ≤ limit := by
  rw [checkPlaceholders_eq_ok_iff, Manifest.entries, List.forall_mem_map]
  simp only [h.declares_iff]
  constructor
  · intro hall line size hdeclares
    obtain ⟨listing, hlisting, -, hsize⟩ := hdeclares
    exact hall listing hlisting size hsize
  · intro hall listing hlisting size hsize
    exact hall listing.line size ⟨listing, hlisting, rfl, hsize⟩

/-- The line that is told declares a size above the limit, and no line before it does. -/
theorem Listed.of_checkPlaceholders_error {err : ManifestError}
    (herror : m.checkPlaceholders limit = .error err) : ∃ size,
      err.cause = .placeholderTooLarge size limit ∧ Declares rows err.line size ∧
      limit < size.toNat ∧ ∀ line size', Declares rows line size' → limit < size'.toNat →
        err.line ≤ line := by
  obtain ⟨front, listing, back, hls, hlarge, hfront⟩ := checkPlaceholders_eq_error_iff.1 herror
  obtain ⟨size, hsize, hlimit, rfl⟩ := tooLarge?_eq_some_iff.1 hlarge
  refine ⟨size, rfl, h.declares_iff.2 ⟨listing, by simp [hls], rfl, hsize⟩, hlimit, ?_⟩
  intro line size' hdeclares hlimit'
  obtain ⟨other, hother, rfl, hsize'⟩ := h.declares_iff.1 hdeclares
  have hsorted := h.pairwise_line
  rw [hls, List.pairwise_append] at hsorted
  rw [hls, List.mem_append, List.mem_cons] at hother
  rcases hother with hbefore | rfl | hbehind
  · exact absurd (tooLarge?_eq_none_iff.1 (hfront other hbefore) size' hsize') (by omega)
  · exact Nat.le_refl _
  · exact Nat.le_of_lt ((List.pairwise_cons.1 hsorted.2.1).1 other hbehind)

end

/-- The placeholders of a text pass just if no line declares one above the limit. If one
does, the first line that does is told, with what it declares and the limit. -/
theorem checkPlaceholders_firstLine {text : String} (h : ofText text = .ok m) (limit : Nat) :
    (m.checkPlaceholders limit = .ok () ↔
      ∀ line size, Declares (Text.rows text.toList) line size → size.toNat ≤ limit) ∧
    ∀ err, m.checkPlaceholders limit = .error err ↔ ∃ size,
      err.cause = .placeholderTooLarge size limit ∧
      Declares (Text.rows text.toList) err.line size ∧ limit < size.toNat ∧
      ∀ line size', Declares (Text.rows text.toList) line size' → limit < size'.toNat →
        err.line ≤ line := by
  have hlisted := listed_of_ofText h
  refine ⟨hlisted.checkPlaceholders_ok_iff, fun err => ?_⟩
  refine ⟨hlisted.of_checkPlaceholders_error, fun hfirst => ?_⟩
  obtain ⟨size, hcause, hdeclares, hlimit, hleast⟩ := hfirst
  cases hcheck : m.checkPlaceholders limit with
  | ok _ =>
      have hsmall := hlisted.checkPlaceholders_ok_iff.1 hcheck err.line size hdeclares
      omega
  | error err' =>
      obtain ⟨size', hcause', hdeclares', hlimit', hleast'⟩ :=
        hlisted.of_checkPlaceholders_error hcheck
      -- both lines are the first
      have hline := Nat.le_antisymm (hleast' err.line size hdeclares hlimit)
        (hleast err'.line size' hdeclares' hlimit')
      rw [hline] at hdeclares'
      rw [hdeclares'.unique hdeclares] at hcause'
      cases err
      cases err'
      cases hline
      cases hcause
      cases hcause'
      rfl

/-- Files on the lines 2 and 4, behind a comment and a blank line. -/
def twoFiles : String :=
  "#\r\nA a placeholder=7\n\nB b placeholder=9\n"

def twoFilesRead : Manifest where
  listings := [⟨2, ⟨⟨ShortName.field 8 ['A'], ShortName.field 3 []⟩, "a", some 7⟩⟩,
    ⟨4, ⟨⟨ShortName.field 8 ['B'], ShortName.field 3 []⟩, "b", some 9⟩⟩]

theorem checkPlaceholders_firstLine_twoFiles :
    ofText twoFiles = .ok twoFilesRead ∧
    twoFilesRead.checkPlaceholders 8 = .error ⟨4, .placeholderTooLarge 9 8⟩ ∧
    ∀ line size, Declares (Text.rows twoFiles.toList) line size → 8 < size.toNat → 4 ≤ line := by
  have hread : ofText twoFiles = .ok twoFilesRead := by
    have hlines : Text.lines twoFiles.toList = ["#\r".toList, "A a placeholder=7".toList, [],
        "B b placeholder=9".toList, []] := by
      decide
    simp only [ofText, hlines, readLines, entryOfLine, Text.fields_eq_splitOnP]
    decide
  have hcheck : twoFilesRead.checkPlaceholders 8 = .error ⟨4, .placeholderTooLarge 9 8⟩ := by
    decide
  obtain ⟨_, -, -, -, hleast⟩ := ((checkPlaceholders_firstLine hread 8).2 _).1 hcheck
  exact ⟨hread, hcheck, hleast⟩

end FatImage.Manifest
