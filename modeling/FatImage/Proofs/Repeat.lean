import FatImage.Proofs.OnFile
import FatImage.Proofs.Stale

/-!
# Filling an image again

A second run finds what the first has left: an image that was filled, and the
files that were created for entries. The image does not matter, since a run
forgets it. The files do. An entry that is skipped in the first run, because
its file is missing and it declares no placeholder, finds the file in the
second run if an entry behind it has created it in the first, and is placed.

So `FirstDecides` is asked for: of the entries that lead to one missing file
it is the first that declares a placeholder, or none does. Then whatever is
created is created before it is looked for, and every load has the same bytes
in both runs. That both have come to the same entry is kept on the way: the
first run has then loaded these entries from the files at first, and the
second from those that the first has left.
-/

namespace FatImage

open Host

namespace Host

variable {t t₁ : Tree} {p q : Place} {root : String} {e : Entry} {es done entries : List Entry}

/-! ## What is created -/

/-- Of the entries that lead to one missing file, the first declares a placeholder or none
does. -/
def FirstDecides (t : Tree) (root : String) (entries : List Entry) : Prop :=
  ∀ q first, t.get? q = none →
    entries.find? (fun e => t.target? (joinPath root e.source) = some q) = some first →
    first.placeholder = none →
    ∀ e ∈ entries, t.target? (joinPath root e.source) = some q → e.placeholder = none

theorem creation?_eq_some_iff {size : UInt32} : t.creation? root q e = some size ↔
    t.target? (joinPath root e.source) = some q ∧ e.placeholder = some size := by
  unfold Tree.creation?
  split
  · next h => exact (and_iff_right h).symm
  · next h => exact ⟨nofun, fun h' => absurd h'.1 h⟩

theorem or_findSome?_of_prefix {α β : Type} {f : α → Option β} {front list : List α}
    (h : front <+: list) : (front.findSome? f).or (list.findSome? f) = list.findSome? f := by
  obtain ⟨back, rfl⟩ := h
  rw [List.findSome?_append, ← Option.or_assoc, Option.or_self]

/-- Where an entry was looked for, it is settled what is created there. -/
theorem FirstDecides.findSome?_eq_none (h : FirstDecides t root entries) (hq : t.get? q = none)
    (hfront : es <+: entries) (he : e ∈ es)
    (hplace : t.target? (joinPath root e.source) = some q)
    (hnone : es.findSome? (t.creation? root q) = none) :
    entries.findSome? (t.creation? root q) = none := by
  obtain ⟨back, rfl⟩ := hfront
  obtain ⟨first, hfirst⟩ : ∃ first,
      es.find? (fun e => t.target? (joinPath root e.source) = some q) = some first := by
    rw [← Option.isSome_iff_exists, List.find?_isSome]
    exact ⟨e, he, decide_eq_true hplace⟩
  have hlead : t.target? (joinPath root first.source) = some q := by
    simpa using List.find?_some hfirst
  have hplaceholder : first.placeholder = none := by
    have hcreation := List.findSome?_eq_none_iff.1 hnone first (List.mem_of_find?_eq_some hfirst)
    rwa [Tree.creation?, if_pos hlead] at hcreation
  have hall := h q first hq (by rw [List.find?_append, hfirst, Option.some_or]) hplaceholder
  rw [List.findSome?_eq_none_iff]
  intro e' he'
  cases hcreation : t.creation? root q e' with
  | none => rfl
  | some size =>
      obtain ⟨hplace', hsize⟩ := creation?_eq_some_iff.1 hcreation
      rw [hall e' he' hplace'] at hsize
      cases hsize

theorem FirstDecides.or_findSome? (h : FirstDecides t root entries) (hq : t.get? q = none)
    (hfront : es <+: entries) (hdone : done <+: entries) (he : e ∈ es)
    (hplace : t.target? (joinPath root e.source) = some q) :
    (done.findSome? (t.creation? root q)).or (es.findSome? (t.creation? root q)) =
      es.findSome? (t.creation? root q) := by
  rcases List.prefix_or_prefix_of_prefix hdone hfront with hle | hle
  · exact or_findSome?_of_prefix hle
  · cases hnone : es.findSome? (t.creation? root q) with
    | some size =>
        obtain ⟨back, rfl⟩ := hle
        rw [List.findSome?_append, hnone]
        rfl
    | none =>
        have hall := h.findSome?_eq_none hq hfront he hplace hnone
        obtain ⟨back, rfl⟩ := hdone
        rw [List.findSome?_append, Option.or_eq_none_iff] at hall
        rw [hall.1]
        rfl

/-! ## Two runs beside each other -/

theorem after_concat (root : String) (es : List Entry) (e : Entry) (t : Tree) :
    (loadUnder root).after (es ++ [e]) t =
      (loadUnder root e ((loadUnder root).after es t)).2 := by
  rw [Loader.after, List.foldl_append]
  rfl

/-- What a first run over `entries` has left: off the image, the files with those that it
has created when it had loaded `done`. -/
structure LeftBy (t : Tree) (root : String) (p : Place) (entries done : List Entry)
    (t₁ : Tree) : Prop where
  front : done <+: entries
  grown : t.Grown t₁
  other : ∀ q, q ≠ p → t₁.get? q = ((loadUnder root).after done t).get? q

/-- Both runs have loaded the same entries when these are left, the first from the files
`t` and the second from `t₁`. -/
def InStep (t t₁ : Tree) (root : String) (entries rest : List Entry) (a a' : Tree) : Prop :=
  ∃ es, es ++ rest = entries ∧ a = (loadUnder root).after es t ∧
    a' = (loadUnder root).after es t₁

theorem inStep_start (t t₁ : Tree) (root : String) (entries : List Entry) :
    InStep t t₁ root entries entries t t₁ :=
  ⟨[], rfl, rfl, rfl⟩

theorem LeftBy.get?_after (h : LeftBy t root p entries done t₁) (hq : q ≠ p)
    (es : List Entry) : ((loadUnder root).after es t₁).get? q = (t.get? q).or
      (((done.findSome? (t.creation? root q)).or (es.findSome? (t.creation? root q))).map
        .blank) := by
  rw [Host.get?_after, h.grown.creation?_eq, h.other q hq, Host.get?_after, Option.or_assoc]
  cases done.findSome? (t.creation? root q) <;> rfl

theorem LeftBy.get?_after_eq (h : LeftBy t root p entries done t₁)
    (hfirst : FirstDecides t root entries) (hfront : es <+: entries) (he : e ∈ es)
    (hplace : t.target? (joinPath root e.source) = some q) (hq : q ≠ p) :
    ((loadUnder root).after es t₁).get? q = ((loadUnder root).after es t).get? q := by
  rw [h.get?_after hq, Host.get?_after]
  cases hget : t.get? q with
  | some n => rfl
  | none => rw [hfirst.or_findSome? hget hfront h.front he hplace]

theorem mapError_eq_of_toOption {ε ε' α : Type} {r r' : Except ε α} (why : ε')
    (h : r.toOption = r'.toOption) : r.mapError (fun _ => why) = r'.mapError fun _ => why := by
  cases r <;> cases r' <;> simp_all [Except.toOption, Except.mapError]

/-- The next load has the same bytes in both runs. -/
theorem LeftBy.follows (h : LeftBy t root p entries done t₁)
    (hsources : ∀ e ∈ entries, t.target? (joinPath root e.source) ≠ some p)
    (hfirst : FirstDecides t root entries) :
    (quietly root).Follows (InStep t t₁ root entries) where
  answer {e rest a a'} hstep := by
    obtain ⟨es, hes, rfl, rfl⟩ := hstep
    have hmem : e ∈ entries := by
      rw [← hes]
      exact List.mem_append_right _ List.mem_cons_self
    have hfront : es ++ [e] <+: entries := ⟨rest, by rw [← hes, List.append_assoc]; rfl⟩
    refine mapError_eq_of_toOption _ ?_
    rw [toOption_loadUnder, toOption_loadUnder, (grown_after root es t₁).target?_eq,
      (grown_after root es t).target?_eq, h.grown.target?_eq, ← after_concat, ← after_concat]
    cases hplace : t.target? (joinPath root e.source) with
    | none => rfl
    | some q =>
        have hq : q ≠ p := fun hq => hsources e hmem (by rw [hplace, hq])
        rw [Option.bind_some, Option.bind_some,
          h.get?_after_eq hfirst hfront (by simp) hplace hq]
  next {e rest a a'} hstep := by
    obtain ⟨es, hes, rfl, rfl⟩ := hstep
    exact ⟨es ++ [e], by rw [← hes, List.append_assoc]; rfl, (after_concat root es e t).symm,
      (after_concat root es e t₁).symm⟩

theorem LeftBy.get?_after_of_eq (h : LeftBy t root p entries done t₁) (hq : q ≠ p)
    (hsame : (loadUnder root).after es t = (loadUnder root).after done t) :
    ((loadUnder root).after es t₁).get? q = t₁.get? q := by
  have hleft := h.other q hq
  rw [← hsame, Host.get?_after] at hleft
  rw [Host.get?_after, h.grown.creation?_eq, hleft, Option.or_assoc, Option.or_self]

/-- A run beside itself. -/
theorem follows_inStep_self (t : Tree) (root : String) (entries : List Entry) :
    (quietly root).Follows (InStep t t root entries) where
  answer hstep := by
    obtain ⟨es, -, rfl, rfl⟩ := hstep
    rfl
  next {e rest a a'} hstep := by
    obtain ⟨es, hes, rfl, rfl⟩ := hstep
    exact ⟨es ++ [e], by rw [← hes, List.append_assoc]; rfl, (after_concat root es e t).symm,
      (after_concat root es e t).symm⟩

/-! ## The image -/

variable {b : ByteArray} {m : Manifest} {n : Nat} {l : Layout}

theorem exists_mount_wholeSectors (hl : l.Accepted n (wholeSectors n b).size)
    (hcounted : b.size < Image.greatest) (t : Tree) : ∃ vol w,
      (Volume.mount ((Device.memory n).beside Tree) l).start (wholeSectors n b, t) =
        (.ok vol, w) := by
  have hsize : (wholeSectors n b).size < Image.greatest := by
    rw [size_wholeSectors]
    omega
  exact Volume.exists_mount ((Device.keeps_memory n).beside Tree) hsize hl

/-- What a run leaves: the image as a run in memory has it, and beside it the files that
the entries have created which were loaded. -/
theorem fill_leaves (hfile : t.get? p = some (.file b)) (hcounted : b.size < Image.greatest)
    (hu : l.Uncut) (hl : l.Accepted n (wholeSectors n b).size)
    (hsources : ∀ e ∈ m.entries, t.target? (joinPath root e.source) ≠ some p) :
    ∃ r w r' w' left left' done,
      (fill (fileDevice p n (b.size - b.size % n)) l m (sourcesUnder root)).start t = (r, w) ∧
      (fill ((Device.memory n).beside Tree) l m (quietly root).source).start
        (wholeSectors n b, t) = (r', w') ∧
      Filed t p (b.size - b.size % n) (partialSector n b) w.state w'.state ∧
      Agree left left' r r' ∧ LeftBy t root p m.entries done w.state ∧
      w'.state.2 = (loadUnder root).after done t ∧
      ∀ report, r = .ok report → done = m.entries := by
  obtain ⟨r, w, r', w', left, left', hfill, hfill', hfiled, hagree⟩ :=
    fill_filed (l := l) (m := m) hfile (.refl t) n hsources
  obtain ⟨vol, w₀, hmount⟩ := exists_mount_wholeSectors hl hcounted t
  have hsize : (wholeSectors n b).size < Image.greatest := by
    rw [size_wholeSectors]
    omega
  obtain ⟨r₁, w₁, w₂, rest, hrun, -, hagreed, hall⟩ := fill_agreedAt
    (follows_inStep_self t root m.entries) hmount hsize hu rfl (inStep_start t t root m.entries)
  rw [hfill', Prod.mk.injEq] at hrun
  obtain ⟨rfl, rfl⟩ := hrun
  obtain ⟨done, hdone, haside, -⟩ := hagreed.2
  have haside' : w'.state.2 = (loadUnder root).after done t := haside
  refine ⟨r, w, r', w', left, left', done, hfill, hfill', hfiled, hagree, ?_, haside', ?_⟩
  · refine ⟨⟨rest, hdone⟩, hfiled.grown.trans hfiled.beside, fun q hq => ?_⟩
    rw [hfiled.holds.other q hq, haside']
  · rintro report rfl
    cases hagree with
    | report => rw [← hdone, hall _ rfl, List.append_nil]

/-- A second run over what the first has left comes to the same, and leaves it. -/
theorem fill_repeats (hfile : t.get? p = some (.file b)) (hcounted : b.size < Image.greatest)
    (hu : l.Uncut) (hl : l.Accepted n (wholeSectors n b).size)
    (hsources : ∀ e ∈ m.entries, t.target? (joinPath root e.source) ≠ some p)
    (hfirst : FirstDecides t root m.entries) {r : Except VolumeError Report} {w : World Tree}
    (hfill : (fill (fileDevice p n (b.size - b.size % n)) l m (sourcesUnder root)).start t =
      (r, w)) :
    ∃ b₁ r₂ w₂, w.state.get? p = some (.file b₁) ∧ b₁.size = b.size ∧
      (fill (fileDevice p n (b.size - b.size % n)) l m (sourcesUnder root)).start w.state =
        (r₂, w₂) ∧
      r₂.toOption.map Report.placed = r.toOption.map Report.placed ∧
      ∀ q, w₂.state.get? q = w.state.get? q := by
  obtain ⟨_, _, r', w', _, _, done, hrun, hfill', hfiled, hagree, hleft, haside, -⟩ :=
    fill_leaves hfile hcounted hu hl hsources
  rw [hfill, Prod.mk.injEq] at hrun
  obtain ⟨rfl, rfl⟩ := hrun
  -- the image that is left has the disk in front and the same tail behind it
  have hfile₁ := hfiled.holds.file
  have hdisk := hfiled.holds.size_eq
  generalize hb₁ : w'.state.1 ++ partialSector n b = b₁ at hfile₁
  have hsize₁ : b₁.size = b.size := by
    rw [← hb₁, ByteArray.size_append, hdisk, partialSector, ByteArray.size_extract]
    omega
  have hwhole : wholeSectors n b₁ = w'.state.1 := by
    rw [wholeSectors, hsize₁, ← hb₁]
    exact ByteArray.extract_append_eq_left hdisk.symm
  obtain ⟨r₂, w₂, r₂', w₂', _, _, hfill₂, hfill₂', hfiled₂, hagree₂⟩ :=
    fill_filed (l := l) (m := m) hfile₁ hleft.grown n hsources
  rw [hwhole] at hfill₂'
  rw [hsize₁] at hfill₂
  obtain ⟨vol, w₀, hmount⟩ := exists_mount_wholeSectors hl hcounted t
  have hsize : (wholeSectors n b).size < Image.greatest := by
    rw [size_wholeSectors]
    omega
  obtain ⟨r₃, w₃, w₃', rest, hrun, hrun₂, hagreed, -⟩ := fill_agreedAt
    (hleft.follows hsources hfirst) hmount hsize hu (hdisk.trans (size_wholeSectors n b).symm)
    (inStep_start t w.state root m.entries)
  rw [hfill', Prod.mk.injEq] at hrun
  rw [hfill₂', Prod.mk.injEq] at hrun₂
  obtain ⟨rfl, rfl⟩ := hrun
  obtain ⟨rfl, rfl⟩ := hrun₂
  refine ⟨b₁, r₂, w₂, hfile₁, hsize₁, hfill₂, by rw [hagree₂.placed_eq, hagree.placed_eq],
    fun q => ?_⟩
  by_cases hq : q = p
  · have himage : w₂'.state.1 = w'.state.1 := hagreed.1.2.eq_of_left
    rw [hq, hfile₁, hfiled₂.holds.file, himage, ← hwhole, ← (fileHolds_self hfile₁ n).file,
      hfile₁]
  · obtain ⟨es, -, haside₁, haside₂⟩ := hagreed.2
    have haside₂' : w₂'.state.2 = (loadUnder root).after es w.state := haside₂
    rw [hfiled₂.holds.other q hq, haside₂']
    exact hleft.get?_after_of_eq hq (haside₁.symm.trans haside)

end Host

end FatImage
