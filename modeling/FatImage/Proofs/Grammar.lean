import Mathlib.Data.List.Forall2
import Mathlib.Data.List.Nodup
import FatImage.Proofs.Lines

/-!
# The texts that are manifests

What a manifest looks like is said without reading one. The rows of a text
are the fields of its lines; a row without a field is a blank line and does
not count. `Describes` says which rows stand for which entry, a list of rows
is `Acceptable` if every row that counts describes an entry and no name comes
twice, and `Applies` says what can be wrong with a row behind those before it.
More than one thing may be; the one that is told comes first in `rank`.

The two agree line by line. What was read so far is a list of rows that is
acceptable, together with their entries, and the next line either goes on
like this or is the first that makes the text up to it unacceptable. A row
describes one entry at most, so there is no other way to accept what the
reader has refused.
-/

namespace FatImage.Manifest

/-- The fields of a line. -/
abbrev Row := List (List Char)

/-! ## The grammar -/

/-- A field that declares a placeholder of this size. -/
def DeclaresSize (field : List Char) (size : UInt32) : Prop :=
  ∃ number, field = "placeholder=".toList ++ number ∧ Text.Numeral number size.toNat

/-- A row that stands for an entry. -/
inductive Describes : Row → Entry → Prop where
  | plain {first source : List Char} {name : ShortName}
      (hname : ShortName.parse first = .ok name) :
      Describes [first, source] ⟨name, String.ofList source, none⟩
  | sized {first source field : List Char} {name : ShortName} {size : UInt32}
      (hname : ShortName.parse first = .ok name) (hsize : DeclaresSize field size) :
      Describes [first, source, field] ⟨name, String.ofList source, some size⟩

/-- The rows with at least one field, and the number of the line of each. -/
def numbered (rows : List Row) : List (Row × Nat) :=
  (rows.zipIdx 1).filter fun r => r.1 ≠ []

/-- The listings are those of the rows: as many as there are rows with a field, in
order, with their line and their entry, and no name twice. -/
structure Listed (rows : List Row) (listings : List Listing) : Prop where
  entries : List.Forall₂ (fun r listing => listing.line = r.2 ∧ Describes r.1 listing.entry)
    (numbered rows) listings
  distinct : (listings.map fun listing => listing.entry.name).Nodup

def Acceptable (rows : List Row) : Prop :=
  ∃ listings, Listed rows listings

/-- What is wrong with a row behind the rows before it. -/
def Applies (before : List Row) (row : Row) : LineError → Prop
  | .missingSource => row.length = 1
  | .invalidName why => ∃ first ∈ row.head?, ShortName.parse first = .error why
  | .invalidPlaceholder => ∃ field, row[2]? = some field ∧ ∀ size, ¬ DeclaresSize field size
  | .unexpectedField => 3 < row.length
  | .duplicateName name => ∃ first ∈ row.head?, ShortName.parse first = .ok name ∧
      ∃ earlier ∈ before, ∃ first' ∈ earlier.head?, ShortName.parse first' = .ok name
  | .placeholderTooLarge _ _ => False

/-- The order in which complaints about a line come. -/
def rank : LineError → Nat
  | .missingSource => 0
  | .invalidName _ => 1
  | .invalidPlaceholder => 2
  | .unexpectedField => 3
  | .duplicateName _ => 4
  | .placeholderTooLarge _ _ => 5

/-- The complaint applies to the row, and no other one that does comes before it. -/
def AppliesFirst (before : List Row) (row : Row) (cause : LineError) : Prop :=
  Applies before row cause ∧ ∀ other, Applies before row other → rank cause ≤ rank other

/-! ## A row describes one entry -/

theorem DeclaresSize.unique {field : List Char} {size size' : UInt32}
    (h : DeclaresSize field size) (h' : DeclaresSize field size') : size = size' := by
  obtain ⟨number, rfl, hnumber⟩ := h
  obtain ⟨number', heq, hnumber'⟩ := h'
  obtain rfl := List.append_cancel_left heq
  exact Option.some.inj ((Text.word32?_eq_some_iff.2 hnumber).symm.trans
    (Text.word32?_eq_some_iff.2 hnumber'))

theorem placeholderSize?_eq_some_iff {field : List Char} {size : UInt32} :
    placeholderSize? field = some size ↔ DeclaresSize field size := by
  unfold placeholderSize? DeclaresSize
  constructor
  · intro h
    split at h
    · next hmark =>
        obtain ⟨number, rfl⟩ := List.isPrefixOf_iff_prefix.1 hmark
        rw [List.drop_left, Text.word32?_eq_some_iff] at h
        exact ⟨number, rfl, h⟩
    · cases h
  · rintro ⟨number, rfl, hnumber⟩
    have hmark : placeholderMark.isPrefixOf ("placeholder=".toList ++ number) = true :=
      List.isPrefixOf_iff_prefix.2 (List.prefix_append _ _)
    rw [if_pos hmark]
    show Text.word32? ((placeholderMark ++ number).drop placeholderMark.length) = some size
    rw [List.drop_left]
    exact Text.word32?_eq_some_iff.2 hnumber

theorem Describes.unique {row : Row} {e e' : Entry} (h : Describes row e)
    (h' : Describes row e') : e = e' := by
  cases h with
  | plain hname =>
      cases h' with
      | plain hname' =>
          rw [hname, Except.ok.injEq] at hname'
          rw [hname']
  | sized hname hsize =>
      cases h' with
      | sized hname' hsize' =>
          rw [hname, Except.ok.injEq] at hname'
          rw [hname', hsize.unique hsize']

theorem Describes.parse {row : Row} {e : Entry} (h : Describes row e) :
    ∃ first ∈ row.head?, ShortName.parse first = .ok e.name := by
  cases h with
  | plain hname => exact ⟨_, rfl, hname⟩
  | sized hname _ => exact ⟨_, rfl, hname⟩

/-! ## What comes first

The further a row is right, the later the first complaint about it can come. -/

section

variable {before : List Row} {row : Row} {cause : LineError} {first : List Char}
  {name : ShortName}

theorem Applies.one_le_rank (h : Applies before row cause) (hsource : 2 ≤ row.length) :
    1 ≤ rank cause := by
  cases cause with
  | missingSource =>
      have hlength : row.length = 1 := h
      omega
  | invalidName | invalidPlaceholder | unexpectedField | duplicateName
  | placeholderTooLarge => simp [rank]

theorem Applies.two_le_rank (h : Applies before row cause) (hsource : 2 ≤ row.length)
    (hfirst : first ∈ row.head?) (hname : ShortName.parse first = .ok name) :
    2 ≤ rank cause := by
  have hone := h.one_le_rank hsource
  cases cause with
  | missingSource => simp [rank] at hone
  | invalidName why =>
      obtain ⟨first', hfirst', hwhy⟩ := h
      rw [Option.mem_unique hfirst' hfirst, hname] at hwhy
      cases hwhy
  | invalidPlaceholder | unexpectedField | duplicateName | placeholderTooLarge =>
      simp [rank]

theorem Applies.three_le_rank (h : Applies before row cause) (hsource : 2 ≤ row.length)
    (hfirst : first ∈ row.head?) (hname : ShortName.parse first = .ok name)
    (hthird : ∀ field, row[2]? = some field → ∃ size, DeclaresSize field size) :
    3 ≤ rank cause := by
  have htwo := h.two_le_rank hsource hfirst hname
  cases cause with
  | missingSource | invalidName => simp [rank] at htwo
  | invalidPlaceholder =>
      obtain ⟨field, hfield, hnone⟩ := h
      obtain ⟨size, hsize⟩ := hthird field hfield
      exact absurd hsize (hnone size)
  | unexpectedField | duplicateName | placeholderTooLarge => simp [rank]

/-- With a row that describes an entry nothing is wrong but that its name may have
come before. -/
theorem Describes.four_le_rank {e : Entry} (hrow : Describes row e)
    (h : Applies before row cause) : 4 ≤ rank cause := by
  have hthree : 3 ≤ rank cause := by
    cases hrow with
    | plain hname => exact h.three_le_rank (Nat.le_refl _) rfl hname nofun
    | sized hname hsize =>
        refine h.three_le_rank (Nat.le_succ _) rfl hname ?_
        rintro _ ⟨⟩
        exact ⟨_, hsize⟩
  cases cause with
  | missingSource | invalidName | invalidPlaceholder => simp [rank] at hthree
  | unexpectedField =>
      have hlength : 3 < row.length := h
      cases hrow <;> simp at hlength
  | duplicateName | placeholderTooLarge => simp [rank]

end

/-! ## Reading a row -/

/-- The five ways in which reading the fields of a line can end, and what they say of
the fields. -/
inductive Reading : Row → Except LineError (Option Entry) → Prop where
  | blank : Reading [] (.ok none)
  | entry {row : Row} {e : Entry} (h : Describes row e) : Reading row (.ok (some e))
  | missingSource (first : List Char) : Reading [first] (.error .missingSource)
  | invalidName {first source : List Char} {rest : Row} {why : NameError}
      (hname : ShortName.parse first = .error why) :
      Reading (first :: source :: rest) (.error (.invalidName why))
  | invalidPlaceholder {first source field : List Char} {rest : Row} {name : ShortName}
      (hname : ShortName.parse first = .ok name) (hfield : ∀ size, ¬ DeclaresSize field size) :
      Reading (first :: source :: field :: rest) (.error .invalidPlaceholder)
  | unexpectedField {first source field : List Char} {rest : Row} {name : ShortName}
      {size : UInt32} (hname : ShortName.parse first = .ok name)
      (hsize : DeclaresSize field size) (hrest : rest ≠ []) :
      Reading (first :: source :: field :: rest) (.error .unexpectedField)

theorem reading_entryOfFields (row : Row) : Reading row (entryOfFields row) := by
  match row with
  | [] => exact .blank
  | [first] => exact .missingSource first
  | first :: source :: rest =>
      simp only [entryOfFields]
      cases hname : ShortName.parse first with
      | error why => exact .invalidName hname
      | ok name =>
          cases rest with
          | nil => exact .entry (.plain hname)
          | cons field more =>
              simp only [Except.mapError, bind, Except.bind]
              cases hsize : placeholderSize? field with
              | none =>
                  refine .invalidPlaceholder hname fun size hdeclares => ?_
                  rw [placeholderSize?_eq_some_iff.2 hdeclares] at hsize
                  cases hsize
              | some size =>
                  have hdeclares := placeholderSize?_eq_some_iff.1 hsize
                  cases more with
                  | nil => exact .entry (.sized hname hdeclares)
                  | cons more rest => exact .unexpectedField hname hdeclares nofun

theorem entryOfFields_eq_some {row : Row} {e : Entry}
    (h : entryOfFields row = .ok (some e)) : Describes row e := by
  have hreading := reading_entryOfFields row
  rw [h] at hreading
  cases hreading with
  | entry hrow => exact hrow

theorem entryOfFields_eq_none {row : Row} (h : entryOfFields row = .ok none) : row = [] := by
  have hreading := reading_entryOfFields row
  rw [h] at hreading
  cases hreading
  rfl

/-- A row that is refused describes no entry, and the cause comes first. -/
theorem entryOfFields_eq_error {row : Row} {cause : LineError}
    (h : entryOfFields row = .error cause) (before : List Row) :
    row ≠ [] ∧ (∀ e, ¬ Describes row e) ∧ AppliesFirst before row cause := by
  have hreading := reading_entryOfFields row
  rw [h] at hreading
  have hfirst : row ≠ [] ∧ rank cause < 4 ∧ AppliesFirst before row cause := by
    cases hreading with
    | missingSource first =>
        exact ⟨nofun, by decide, rfl, fun _ _ => Nat.zero_le _⟩
    | invalidName hname =>
        refine ⟨nofun, by simp [rank], ⟨_, rfl, hname⟩, fun _ hother => ?_⟩
        exact hother.one_le_rank (by simp)
    | invalidPlaceholder hname hfield =>
        refine ⟨nofun, by decide, ⟨_, rfl, hfield⟩, fun _ hother => ?_⟩
        exact hother.two_le_rank (by simp) rfl hname
    | @unexpectedField _ _ _ rest _ size hname hsize hrest =>
        have hlength := List.length_pos_of_ne_nil hrest
        refine ⟨nofun, by decide, ?_, fun _ hother => ?_⟩
        · simp only [Applies, List.length_cons]
          omega
        · refine hother.three_le_rank (by simp) rfl hname ?_
          rintro _ ⟨⟩
          exact ⟨size, hsize⟩
  obtain ⟨hne, hrank, happlies⟩ := hfirst
  refine ⟨hne, fun e he => ?_, happlies⟩
  have := he.four_le_rank happlies.1
  omega

/-! ## Rows that were read

Rows that are listed are listed in one way only, so what cannot go on with the
listings that were made cannot go on at all. -/

theorem numbered_append (before rest : List Row) :
    numbered (before ++ rest) =
      numbered before ++ (rest.zipIdx (before.length + 1)).filter fun r => r.1 ≠ [] := by
  rw [numbered, List.zipIdx_append, List.filter_append, numbered, Nat.add_comm]

theorem numbered_concat_nil (before : List Row) : numbered (before ++ [[]]) = numbered before := by
  rw [numbered_append]
  exact List.append_nil _

theorem numbered_concat {row : Row} (hrow : row ≠ []) (before : List Row) :
    numbered (before ++ [row]) = numbered before ++ [(row, before.length + 1)] := by
  rw [numbered_append, List.zipIdx_singleton,
    List.filter_cons_of_pos (by simpa using hrow), List.filter_nil]

theorem Describes.ne_nil {row : Row} {e : Entry} (h : Describes row e) : row ≠ [] := by
  cases h <;> nofun

namespace Listed

variable {before rows : List Row} {row : Row} {ls ls' : List Listing} {e : Entry}

theorem nil : Listed [] [] :=
  ⟨.nil, List.nodup_nil⟩

theorem unique (h : Listed rows ls) (h' : Listed rows ls') : ls = ls' := by
  have hunique : Relator.RightUnique fun (r : Row × Nat) (listing : Listing) =>
      listing.line = r.2 ∧ Describes r.1 listing.entry := by
    rintro r ⟨line, e⟩ ⟨line', e'⟩ ⟨rfl, he⟩ ⟨rfl, he'⟩
    rw [show e = e' from he.unique he']
  exact List.right_unique_forall₂' hunique h.entries h'.entries

theorem blank (h : Listed before ls) : Listed (before ++ [[]]) ls := by
  refine ⟨?_, h.distinct⟩
  rw [numbered_concat_nil]
  exact h.entries

theorem push (h : Listed before ls) (hrow : Describes row e)
    (hnew : ∀ listing ∈ ls, listing.entry.name ≠ e.name) :
    Listed (before ++ [row]) (ls ++ [⟨before.length + 1, e⟩]) := by
  refine ⟨?_, ?_⟩
  · rw [numbered_concat hrow.ne_nil]
    exact List.rel_append h.entries (.cons ⟨rfl, hrow⟩ .nil)
  · rw [List.map_append, List.map_singleton, List.nodup_append]
    refine ⟨h.distinct, List.nodup_singleton _, ?_⟩
    intro name hname name' hname'
    obtain ⟨listing, hlisting, rfl⟩ := List.mem_map.1 hname
    rw [List.mem_singleton.1 hname']
    exact hnew listing hlisting

/-- The listings of rows begin with those of the rows before the last. -/
theorem of_concat (h : Listed (before ++ [row]) ls) (hrow : row ≠ []) :
    ∃ front e, ls = front ++ [⟨before.length + 1, e⟩] ∧ Listed before front ∧
      Describes row e ∧ ∀ listing ∈ front, listing.entry.name ≠ e.name := by
  obtain ⟨hentries, hdistinct⟩ := h
  rw [numbered_concat hrow] at hentries
  have hfront := List.forall₂_take (numbered before).length hentries
  have hlast := List.forall₂_drop (numbered before).length hentries
  rw [List.take_left] at hfront
  rw [List.drop_left, List.forall₂_cons_left_iff] at hlast
  obtain ⟨⟨line, e⟩, rest, ⟨hline, hrow'⟩, hnil, hdrop⟩ := hlast
  rw [List.forall₂_nil_left_iff.1 hnil] at hdrop
  have hls := List.take_append_drop (numbered before).length ls
  rw [hdrop] at hls
  rw [← hls, List.map_append, List.map_singleton, List.nodup_append] at hdistinct
  obtain ⟨hdistinct, -, hnew⟩ := hdistinct
  rw [show line = before.length + 1 from hline] at hls
  refine ⟨_, e, hls.symm, ⟨hfront, hdistinct⟩, hrow', ?_⟩
  · intro listing hlisting
    exact hnew _ (List.mem_map_of_mem hlisting) _ (List.mem_singleton_self _)

theorem take (h : Listed rows ls) (i : Nat) : Acceptable (rows.take i) := by
  have hentries := h.entries
  rw [← List.take_append_drop i rows, numbered_append] at hentries
  have hfront := List.forall₂_take (numbered (rows.take i)).length hentries
  rw [List.take_left] at hfront
  refine ⟨_, hfront, ?_⟩
  rw [List.map_take]
  exact h.distinct.sublist (List.take_sublist _ _)

/-- A listing comes from one of the rows. -/
theorem exists_row (h : Listed rows ls) {listing : Listing} (hlisting : listing ∈ ls) :
    ∃ row, (row, listing.line) ∈ numbered rows ∧ Describes row listing.entry := by
  obtain ⟨hlength, hget⟩ := List.forall₂_iff_get.1 h.entries
  obtain ⟨i, hi, rfl⟩ := List.getElem_of_mem hlisting
  have hi' : i < (numbered rows).length := by omega
  obtain ⟨hline, hrow⟩ := hget i hi' hi
  refine ⟨_, ?_, hrow⟩
  rw [show ls[i].line = _ from hline]
  exact List.getElem_mem hi'

/-- Every row that counts is listed. -/
theorem exists_listing (h : Listed rows ls) {line : Nat} (hrow : (row, line) ∈ numbered rows) :
    ∃ listing ∈ ls, listing.line = line ∧ Describes row listing.entry := by
  obtain ⟨hlength, hget⟩ := List.forall₂_iff_get.1 h.entries
  obtain ⟨i, hi', hnumber⟩ := List.getElem_of_mem hrow
  have hi : i < ls.length := by omega
  have hlisting := hget i hi' hi
  simp only [List.get_eq_getElem, hnumber] at hlisting
  exact ⟨ls[i], List.getElem_mem hi, hlisting⟩

end Listed

/-! ## Reading a text -/

/-- How reading a text ends that has these rows: with the listings of all of them, if they
are acceptable, and else at the first row with which they no longer are. -/
structure Reads (rows : List Row) (r : Except ManifestError Manifest) : Prop where
  accepts_iff : (∃ m, r = .ok m) ↔ Acceptable rows
  listings : ∀ m, r = .ok m → Listed rows m.listings
  refused : ∀ e, r = .error e → ∃ i row, rows[i]? = some row ∧ e.line = i + 1 ∧
    (∀ j ≤ i, Acceptable (rows.take j)) ∧ ¬ Acceptable (rows.take (i + 1)) ∧
    AppliesFirst (rows.take i) row e.cause

section

variable {before rest : List Row} {row : Row} {m : Manifest} {cause : LineError} {e : Entry}

theorem Listed.reads_ok (h : Listed before m.listings) : Reads before (.ok m) where
  accepts_iff := ⟨fun _ => ⟨_, h⟩, fun _ => ⟨m, rfl⟩⟩
  listings m' hm := by
    cases hm
    exact h
  refused e he := by cases he

/-- A row that does not go on with what was read is the first with which the rows are
not acceptable. -/
theorem Listed.reads_error {ls : List Listing} (h : Listed before ls)
    (hrow : ¬ Acceptable (before ++ [row])) (hcause : AppliesFirst before row cause) :
    Reads (before ++ row :: rest) (.error ⟨before.length + 1, cause⟩) := by
  have htake : (before ++ row :: rest).take (before.length + 1) = before ++ [row] := by
    rw [← List.singleton_append, ← List.append_assoc, List.take_left' (by simp)]
  have hnot : ¬ Acceptable (before ++ row :: rest) := by
    rintro ⟨ls', hls'⟩
    have := hls'.take (before.length + 1)
    rw [htake] at this
    exact hrow this
  refine ⟨⟨?_, fun hrows => absurd hrows hnot⟩, ?_, ?_⟩
  · rintro ⟨_, hm⟩
    cases hm
  · intro _ hm
    cases hm
  · rintro _ ⟨⟩
    refine ⟨before.length, row, ?_, rfl, ?_, ?_, ?_⟩
    · rw [List.getElem?_append_right (Nat.le_refl _), Nat.sub_self, List.getElem?_cons_zero]
    · intro j hj
      rw [List.take_append_of_le_length hj]
      exact h.take j
    · rw [htake]
      exact hrow
    · rw [List.take_left]
      exact hcause

theorem lists_iff {name : ShortName} :
    m.lists name = true ↔ ∃ listing ∈ m.listings, listing.entry.name = name := by
  rw [Manifest.lists, List.any_eq_true]
  simp

/-- A name that was listed before cannot be listed again. -/
theorem Listed.not_acceptable_of_lists (h : Listed before m.listings) (hrow : Describes row e)
    (hlisted : m.lists e.name = true) :
    ¬ Acceptable (before ++ [row]) ∧ AppliesFirst before row (.duplicateName e.name) := by
  obtain ⟨listing, hlisting, hname⟩ := lists_iff.1 hlisted
  refine ⟨?_, ?_, fun _ hother => hrow.four_le_rank hother⟩
  · rintro ⟨ls, hls⟩
    obtain ⟨front, e', rfl, hfront, hrow', hnew⟩ := hls.of_concat hrow.ne_nil
    rw [← hfront.unique h] at hlisting
    rw [hrow.unique hrow'] at hname
    exact hnew listing hlisting hname
  · obtain ⟨first, hfirst, hparse⟩ := hrow.parse
    obtain ⟨earlier, hnumbered, hdescribes⟩ := h.exists_row hlisting
    have hearlier := List.fst_mem_of_mem_zipIdx (List.mem_of_mem_filter hnumbered)
    obtain ⟨first', hfirst', hparse'⟩ := hdescribes.parse
    rw [hname] at hparse'
    exact ⟨first, hfirst, hparse, earlier, hearlier, first', hfirst', hparse'⟩

/-- Each line goes on with what was read, or is the first that does not. -/
theorem readLines_reads (lines : List (List Char)) (h : Listed before m.listings) :
    Reads (before ++ lines.map Text.row) (readLines m (before.length + 1) lines) := by
  induction lines generalizing before m with
  | nil =>
      rw [List.map_nil, List.append_nil, readLines]
      exact h.reads_ok
  | cons line rest ih =>
      have hline : entryOfLine line = entryOfFields (Text.row line) := by
        rw [entryOfLine, Text.fields_eq_splitOnP, Text.row]
      -- the rest is read with one more row before it
      have hnext : ∀ {m' : Manifest}, Listed (before ++ [Text.row line]) m'.listings →
          Reads (before ++ Text.row line :: rest.map Text.row)
            (readLines m' (before.length + 1 + 1) rest) := by
        intro m' h'
        have := ih h'
        rwa [List.append_assoc, List.singleton_append, List.length_append,
          List.length_singleton] at this
      rw [List.map_cons, readLines, hline]
      cases hentry : entryOfFields (Text.row line) with
      | error cause =>
          obtain ⟨hne, hnone, hcause⟩ := entryOfFields_eq_error hentry before
          refine h.reads_error ?_ hcause
          rintro ⟨ls, hls⟩
          obtain ⟨_, e, -, -, hrow, -⟩ := hls.of_concat hne
          exact hnone e hrow
      | ok found =>
          cases found with
          | none =>
              have hrow := entryOfFields_eq_none hentry
              rw [hrow] at hnext ⊢
              exact hnext h.blank
          | some e =>
              have hrow := entryOfFields_eq_some hentry
              simp only [pushAt]
              by_cases hlisted : m.lists e.name = true
              · rw [if_pos hlisted]
                obtain ⟨hnot, hcause⟩ := h.not_acceptable_of_lists hrow hlisted
                exact h.reads_error hnot hcause
              · rw [if_neg hlisted]
                refine hnext (h.push hrow fun listing hlisting hname => ?_)
                exact hlisted (lists_iff.2 ⟨listing, hlisting, hname⟩)

/-- What is read from a text are the entries of its rows. -/
theorem listed_of_ofText {text : String} (h : ofText text = .ok m) :
    Listed (Text.rows text.toList) m.listings := by
  have hreads := readLines_reads (m := empty) (Text.lines text.toList) Listed.nil
  rw [List.nil_append, ← Text.rows_eq_map_row] at hreads
  exact hreads.listings m h

end

/-- Reading accepts the texts of the grammar and no others, with the entries that their
rows describe; of any other text it tells the first line up to which the text is not
acceptable, and what comes first of all that is wrong with that line. -/
theorem ofText_reads (text : String) : Reads (Text.rows text.toList) (ofText text) := by
  have hrows : (Text.lines text.toList).map Text.row = Text.rows text.toList := by
    rw [Text.rows_eq]
    exact List.map_congr_left fun line _ => (Text.fields_eq_splitOnP _).symm
  have hreads := readLines_reads (m := empty) (Text.lines text.toList) Listed.nil
  rw [List.nil_append, hrows] at hreads
  exact hreads

end FatImage.Manifest
