import FatImage.Proofs.Stages

/-!
# What a run may change

A run has two ways to change a file. It writes to the image, and every write
goes to sectors behind the reserved ones that are there as a whole. And it
creates the file of an entry where nothing is. `Changes` is the relation
between the files before a run and after it that comes of these two, in any
order and number: one write keeps it, one load keeps it, and so it holds
wherever the run stops.

It does not matter for this whether an entry leads to the image or to the
manifest. These files are there, so they are read and not created.
-/

namespace FatImage

/-- A call that writes to no reserved sector. -/
def Layout.Spares (l : Layout) : Call → Prop
  | .write lba _ => l.reservedSectors ≤ lba
  | .count | .read _ _ | .flush => True

theorem Volume.allows_spares {σ : Type} (d : Device σ) {l : Layout} (hu : l.Uncut)
    (hsize : 0 < l.sectorSize) (sectors : Nat) :
    (ofSectors d l hsize sectors).image.Allows l l.Spares where
  read _ := trivial
  write {pos n data} hn _ hfound := by
    obtain ⟨o, k, ho, -, hle, -⟩ := hfound 0 hn
    rw [Nat.zero_mul, Nat.add_zero] at hle
    exact (Nat.le_div_iff_mul_le hsize).2 (Nat.le_trans (ho hu) hle)

namespace Program

open Host

variable {o : Options} {t t' : Tree} {m : Manifest} {p q : Place} {b : ByteArray} {n : Node}
variable {es : List Entry} {root : String}

theorem uncut_layout : layout.Uncut :=
  Layout.uncut_bootDisk

/-- The bytes of the image that a run leaves alone: those before the table, and those
behind the last whole sector. -/
def Spared (b : ByteArray) (x : Nat) : Prop :=
  x < layout.tableOffset ∨ b.size - b.size % layout.sectorSize ≤ x

/-- How the files of a machine have changed from `t` to `t'`, the image being that with
the bytes `b` at `p`. -/
structure Changes (es : List Entry) (root : String) (p : Place) (b : ByteArray) (t t' : Tree) :
    Prop where
  before : t.get? p = some (.file b)
  grown : t.Grown t'
  image : ∃ b', t'.get? p = some (.file b') ∧ b'.size = b.size ∧
    ∀ x, Spared b x → Bytes.byteAt b' x = Bytes.byteAt b x
  kept : ∀ q n, q ≠ p → t.get? q = some n → t'.get? q = some n
  created : ∀ q n, t.get? q = none → t'.get? q = some n → ∃ e ∈ es, ∃ size,
    e.placeholder = some size ∧ t.target? (joinPath root e.source) = some q ∧ n = .blank size

namespace Changes

theorem refl (hfile : t.get? p = some (.file b)) : Changes es root p b t t where
  before := hfile
  grown := .refl t
  image := ⟨b, hfile, rfl, fun _ _ => rfl⟩
  kept _ _ _ h := h
  created _ _ hnone hsome := by cases hnone.symm.trans hsome

theorem answer (h : Changes es root p b t t') {c : Call} (hc : layout.Spares c) :
    Changes es root p b t ((imageDevice p b).answer c t').2 := by
  rw [imageDevice]
  rcases state_fileDevice_answer p layout.sectorSize (b.size - b.size % layout.sectorSize) c t'
    with hsame | ⟨lba, data, rfl, hle, hpatch⟩
  · rw [hsame]
    exact h
  · rw [hpatch]
    obtain ⟨b', hfile, hsize, hspared⟩ := h.image
    have hfits : lba * layout.sectorSize + data.size ≤ b'.size := by omega
    have hfirst : layout.tableOffset ≤ lba * layout.sectorSize := Nat.mul_le_mul_right _ hc
    refine ⟨h.before, h.grown.trans (.patch hfile _ _),
      ⟨_, Tree.get?_patch_self hfile _ _, ?_, ?_⟩, ?_, ?_⟩
    · rw [Bytes.size_overwrite hfits, hsize]
    · intro x hx
      rw [Bytes.byteAt_overwrite hfits, if_neg (by unfold Spared at hx; omega)]
      exact hspared x hx
    · intro q n hq hget
      rw [Tree.get?_patch_of_ne hq]
      exact h.kept q n hq hget
    · intro q n hnone hsome
      by_cases hq : q = p
      · rw [hq, h.before] at hnone
        cases hnone
      · rw [Tree.get?_patch_of_ne hq] at hsome
        exact h.created q n hnone hsome

theorem loaded (h : Changes es root p b t t') {e : Entry} (he : e ∈ es) :
    Changes es root p b t (loadUnder root e t').2 := by
  obtain ⟨b', hfile, himage⟩ := h.image
  refine ⟨h.before, h.grown.trans (grown_loadUnder root e t'),
    ⟨b', get?_loadUnder_of_some hfile, himage⟩,
    fun q n hq hget => get?_loadUnder_of_some (h.kept q n hq hget), fun q n hnone hsome => ?_⟩
  rw [get?_loadUnder] at hsome
  cases hget : t'.get? q with
  | some n' =>
      rw [hget, Option.some_or, Option.some.injEq] at hsome
      exact h.created q n hnone (hsome ▸ hget)
  | none =>
      -- the file is created by this load
      rw [hget, Option.none_or, h.grown.creation?_eq, Option.map_eq_some_iff] at hsome
      obtain ⟨size, hcreation, rfl⟩ := hsome
      unfold Tree.creation? at hcreation
      split at hcreation
      · next hplace => exact ⟨e, he, size, hcreation, hplace, rfl⟩
      · cases hcreation

end Changes

/-- The files below a root for these entries, and nothing for any other. -/
def sourceOf (es : List Entry) (root : String) : Source Tree :=
  fun e => if e ∈ es then sourcesUnder root e else throw ""

theorem maintains_changes (es : List Entry) (root : String) (p : Place) (b : ByteArray)
    (t : Tree) : Machine.Maintains ⟨imageDevice p b, sourceOf es root⟩ layout.Spares
      (fun v => Changes es root p b t v.state) := by
  refine .of_state ?_ (fun hc h => h.answer hc) fun e v h => ?_
  · intro lba k s s' data h hd
    obtain ⟨b', hfile, hsize, -⟩ := h.image
    exact size_of_fileDevice_read hfile (by rw [hsize]; exact Nat.sub_le _ _) hd
  · simp only [sourceOf]
    split
    · next he => exact ends_sourcesUnder (h.loaded he)
    · exact Action.ends_throw h

/-- However the image is filled, and wherever that stops, the files have changed so. -/
theorem changes_of_fill {r : Except VolumeError Report} {w : World Tree}
    (hfile : t.get? p = some (.file b))
    (hfill : (fill (imageDevice p b) layout m (sourcesUnder root)).start t = (r, w)) :
    Changes m.entries root p b t w.state := by
  have hsource : ∀ e ∈ m.entries, sourcesUnder root e = sourceOf m.entries root e :=
    fun e he => (if_pos he).symm
  rw [fill_congr hsource, Action.start_eq_outcome] at hfill
  have hends := ends_fill (l := layout) (m := m) (maintains_changes m.entries root p b t)
    trivial trivial (Volume.allows_spares _ uncut_layout) (v := ⟨t, []⟩)
    (Changes.refl hfile)
  exact hends.of_outcome rfl hfill

/-- The image is still found where it was. -/
theorem Changes.findFile_image (h : Changes es root p b t t')
    (himage : t.findFile o.image = .ok (p, b)) :
    ∃ b', t'.findFile o.image = .ok (p, b') ∧ b'.size = b.size ∧
      ∀ x, Spared b x → Bytes.byteAt b' x = Bytes.byteAt b x := by
  obtain ⟨b', hfile, hsize, hspared⟩ := h.image
  refine ⟨b', ?_, hsize, hspared⟩
  rw [Tree.findFile_eq_ok_iff, h.grown.target?_eq]
  exact ⟨(Tree.findFile_eq_ok_iff.1 himage).1, hfile⟩

/-- What is new is found as the file of an entry. -/
theorem Changes.findFile_created (h : Changes es root p b t t') (hnone : t.get? q = none)
    (hsome : t'.get? q = some n) : ∃ e ∈ es, ∃ size, e.placeholder = some size ∧
      n = .blank size ∧
      t'.findFile (joinPath root e.source) = .ok (q, Bytes.zeros size.toNat) := by
  obtain ⟨e, he, size, hsize, hplace, rfl⟩ := h.created q n hnone hsome
  refine ⟨e, he, size, hsize, rfl, ?_⟩
  rw [Tree.findFile_eq_ok_iff, h.grown.target?_eq]
  exact ⟨hplace, hsome⟩

theorem Works.changes {r : Except String Nat} (h : Works o t r t') : t' = t ∨
    ∃ m p b, Ready o t m p b ∧ Changes m.entries o.root p b t t' := by
  cases h with
  | refused => exact Or.inl rfl
  | filled h hfill | failed h hfill =>
      exact Or.inr ⟨_, _, _, h, changes_of_fill (Tree.get?_of_findFile h.image) hfill⟩

/-- A run leaves all files as they were, or it has an image and a manifest. Then the image
keeps its size and the bytes that are spared, all else that was there is as it was, and
what is new is the file of an entry, as many zeros as the entry declares. -/
theorem run_frame (arguments : List String) (setting : Option String) (t : Tree) :
    (run arguments setting t).tree = t ∨ ∃ o m p b,
      Options.parse arguments = .ok o ∧ Ready o t m p b ∧
      (∃ b', (run arguments setting t).tree.findFile o.image = .ok (p, b') ∧
        b'.size = b.size ∧ ∀ x, Spared b x → Bytes.byteAt b' x = Bytes.byteAt b x) ∧
      (∀ q n, q ≠ p → t.get? q = some n →
        (run arguments setting t).tree.get? q = some n) ∧
      (∀ q n, t.get? q = none → (run arguments setting t).tree.get? q = some n →
        ∃ e ∈ m.entries, ∃ size, e.placeholder = some size ∧ n = .blank size ∧
          (run arguments setting t).tree.findFile (joinPath o.root e.source) =
            .ok (q, Bytes.zeros size.toNat)) := by
  cases hparse : Options.parse arguments with
  | error e => exact Or.inl (tree_run_of_error setting hparse)
  | ok o =>
      obtain ⟨r, hworks⟩ := works_of_parse (t := t) setting hparse
      rcases hworks.changes with hsame | ⟨m, p, b, hready, hchanges⟩
      · exact Or.inl hsame
      · exact Or.inr ⟨o, m, p, b, rfl, hready, hchanges.findFile_image hready.image,
          hchanges.kept, fun q n => hchanges.findFile_created⟩

end Program

end FatImage
