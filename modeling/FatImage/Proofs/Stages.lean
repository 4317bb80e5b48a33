import FatImage.Program
import FatImage.Proofs.FileDisk
import FatImage.Proofs.Sources

/-!
# The stages of a run

A run goes through four stages, and each of them can refuse: the arguments,
the manifest with its placeholders, the image, and the size of the image. Up
to the image nothing is done but looking at files, and mounting an image asks
for its size only. So a run that is refused at one of these stages leaves all
files as they were.

A run that is refused at none of them is one run of `fill`, on the device of
the image and with the files below the root for a source. `Works` has just
these cases, and everything else about a run of the program goes through it.
What was told before the image was opened has no part in it, because neither
the device nor the source looks at it.
-/

namespace FatImage.Program

open Host

variable {o : Options} {t : Tree} {m : Manifest} {p : Place} {b : ByteArray}

/-! ## What is asked for -/

/-- The manifest that the options ask for on these files. -/
inductive Asks (o : Options) (t : Tree) (m : Manifest) : Prop where
  | boot (h : o.manifest = none) (hm : Manifest.boot = .ok m)
  | file {path text : String} (h : o.manifest = some path)
      (hread : t.readText path = .ok text) (hm : Manifest.ofText text = .ok m)

theorem Asks.unique {m' : Manifest} (h : Asks o t m) (h' : Asks o t m') : m = m' := by
  cases h with
  | boot hnone hm =>
      cases h' with
      | boot _ hm' => exact Except.ok.inj (hm.symm.trans hm')
      | file hsome _ _ => cases hnone.symm.trans hsome
  | file hsome hread hm =>
      cases h' with
      | boot hnone _ => cases hnone.symm.trans hsome
      | file hsome' hread' hm' =>
          obtain rfl := Option.some.inj (hsome.symm.trans hsome')
          obtain rfl := Except.ok.inj (hread.symm.trans hread')
          exact Except.ok.inj (hm.symm.trans hm')

theorem mapError_eq_ok_iff {ε ε' α : Type} {r : Except ε α} {f : ε → ε'} {a : α} :
    r.mapError f = .ok a ↔ r = .ok a := by
  cases r <;> simp [Except.mapError]

theorem outcome_loadManifest (o : Options) (w : World Tree) :
    ∃ r, (loadManifest o.manifest).outcome w = (r, w) ∧ ∀ m, r = .ok m ↔ Asks o w.state m := by
  have hget : (get : Action Tree String (World Tree)).outcome w = (.ok w, w) := rfl
  cases hpath : o.manifest with
  | none =>
      simp only [loadManifest]
      refine ⟨_, Action.outcome_ofExcept _ w, fun m => ?_⟩
      rw [mapError_eq_ok_iff]
      refine ⟨fun hm => .boot hpath hm, fun h => ?_⟩
      cases h with
      | boot _ hm => exact hm
      | file h _ _ =>
          rw [hpath] at h
          cases h
  | some path =>
      simp only [loadManifest, Action.outcome_bind_of_ok hget]
      cases hread : w.state.readText path with
      | error why =>
          refine ⟨_, Action.outcome_bind_of_error (Action.outcome_ofExcept _ w), fun m => ?_⟩
          refine ⟨nofun, fun h => ?_⟩
          cases h with
          | boot h _ =>
              rw [hpath] at h
              cases h
          | file h hread' _ =>
              rw [hpath, Option.some.injEq] at h
              rw [← h, hread] at hread'
              cases hread'
      | ok text =>
          refine ⟨_, (Action.outcome_bind_of_ok (Action.outcome_ofExcept _ w)).trans
            (Action.outcome_ofExcept _ w), fun m => ?_⟩
          rw [mapError_eq_ok_iff]
          refine ⟨fun hm => .file hpath hread hm, fun h => ?_⟩
          cases h with
          | boot h _ =>
              rw [hpath] at h
              cases h
          | file h hread' hm =>
              rw [hpath, Option.some.injEq] at h
              rw [← h, hread, Except.ok.injEq] at hread'
              rw [hread']
              exact hm

/-- A manifest, an image and its bytes that a run can go on with. -/
structure Ready (o : Options) (t : Tree) (m : Manifest) (p : Place) (b : ByteArray) : Prop where
  asks : Asks o t m
  placeholders : m.checkPlaceholders layout.maxFileSize = .ok ()
  image : t.findFile o.image = .ok (p, b)

theorem Ready.unique {m' : Manifest} {p' : Place} {b' : ByteArray} (h : Ready o t m p b)
    (h' : Ready o t m' p' b') : m = m' ∧ p = p' ∧ b = b' := by
  have himage := Except.ok.inj (h.image.symm.trans h'.image)
  rw [Prod.mk.injEq] at himage
  exact ⟨h.asks.unique h'.asks, himage⟩

/-- The device of an image that has these bytes. -/
def imageDevice (p : Place) (b : ByteArray) : Device Tree :=
  fileDevice p layout.sectorSize (b.size - b.size % layout.sectorSize)

/-- How the work of a run ends: it was refused and has done nothing, or it is what comes
of filling the image. -/
inductive Works (o : Options) (t : Tree) : Except String Nat → Tree → Prop where
  | refused {message : String} (h : ∀ m p b, ¬ Ready o t m p b) : Works o t (.error message) t
  | filled {m : Manifest} {p : Place} {b : ByteArray} {report : Report} {w : World Tree}
      (h : Ready o t m p b)
      (hfill : (fill (imageDevice p b) layout m (sourcesUnder o.root)).start t =
        (.ok report, w)) : Works o t (.ok report.placed.size) w.state
  | failed {m : Manifest} {p : Place} {b : ByteArray} {e : VolumeError} {w : World Tree}
      {message : String} (h : Ready o t m p b)
      (hfill : (fill (imageDevice p b) layout m (sourcesUnder o.root)).start t =
        (.error e, w)) : Works o t (.error message) w.state

/-- The files that have as many bytes at the place of the image as it had. -/
def SameSize (p : Place) (b : ByteArray) (t : Tree) : Prop :=
  ∃ b', t.get? p = some (.file b') ∧ b'.size = b.size

theorem SameSize.answer (h : SameSize p b t) (c : Call) :
    SameSize p b ((imageDevice p b).answer c t).2 := by
  obtain ⟨b', hfile, hsize⟩ := h
  rw [imageDevice]
  rcases state_fileDevice_answer p layout.sectorSize (b.size - b.size % layout.sectorSize) c t
    with hsame | ⟨lba, data, -, hle, hpatch⟩
  · rw [hsame]
    exact ⟨b', hfile, hsize⟩
  · rw [hpatch]
    refine ⟨_, Tree.get?_patch_self hfile _ _, ?_⟩
    rw [Bytes.size_overwrite (by omega), hsize]

theorem SameSize.loaded (h : SameSize p b t) (root : String) (e : Entry) :
    SameSize p b (loadUnder root e t).2 := by
  obtain ⟨b', hfile, hsize⟩ := h
  exact ⟨b', get?_loadUnder_of_some hfile, hsize⟩

/-- The image keeps its size, so all reads are whole. -/
theorem maintains_sameSize (root : String) (p : Place) (b : ByteArray) :
    Machine.Maintains ⟨imageDevice p b, sourcesUnder root⟩ (fun _ => True)
      (fun v => SameSize p b v.state) := by
  refine .of_state ?_ (fun _ h => h.answer _) (fun e _ h => ends_sourcesUnder (h.loaded root e))
  rintro lba n t t' data ⟨b', hfile, hsize⟩ hd
  exact size_of_fileDevice_read hfile (by rw [hsize]; exact Nat.sub_le _ _) hd

/-- What is left of the work when the manifest is known. -/
def workOn (o : Options) (m : Manifest) : Action Tree String Nat := do
  let device ← (openImage o.image layout.sectorSize).mapError ImageFileError.message
  Action.note (.sourcesUnder o.root)
  let report ← (fill device layout m (sourcesUnder o.root)).mapError
    fun e => s!"{o.image}: {e.message}"
  if report.skipped.size ≠ 0 then Action.note (.skippedInAll report.skipped.size)
  Action.note (.nextCluster report.next.cluster)
  return report.placed.size

theorem work_eq (o : Options) : work o = (do
    let m ← loadManifest o.manifest
    Action.ofExcept ((m.checkPlaceholders layout.maxFileSize).mapError ManifestError.message)
    Action.note (.listed m.length)
    workOn o m) :=
  rfl

/-- What was told before and is told behind does not change what `fill` comes to. -/
theorem works_of_ready {w : World Tree} (hw : w.traffic = ⟨t, []⟩) (h : Ready o t m p b) :
    ∃ r w', (workOn o m).outcome w = (r, w') ∧ Works o t r w'.state := by
  have hleast : leastSectorSize ≤ layout.sectorSize := by decide
  have hstate : w.state = t := congrArg Traffic.state hw
  have himage := h.image
  rw [← hstate] at himage
  obtain ⟨w₁, hopen, hw₁⟩ : ∃ w₁, (openImage o.image layout.sectorSize).outcome w =
      (.ok (imageDevice p b), w₁) ∧ w₁.traffic = w.traffic := outcome_openImage himage hleast
  have htold := Action.outcome_note (ε := String) (.sourcesUnder o.root) w₁
  generalize hw₂ : ({ w₁ with journal := w₁.journal.push (.notice (.sourcesUnder o.root)) } :
    World Tree) = w₂ at htold
  have hsame : w₂.traffic = World.traffic ⟨t, #[]⟩ := by
    rw [← hw₂, World.traffic_push rfl]
    exact hw₁.trans hw
  obtain ⟨r, w₃, w₃', hfill, hfill', hw₃⟩ := fill_retold (l := layout) (m := m)
    (maintains_sameSize o.root p b) (unread_sourcesUnder o.root) hsame
    ⟨b, Tree.get?_of_findFile h.image, rfl⟩
  have hstate₃ : w₃.state = w₃'.state := congrArg Traffic.state hw₃
  rw [workOn, Action.outcome_bind_of_ok (Action.outcome_mapError hopen),
    Action.outcome_bind_of_ok htold]
  rw [← Action.start_eq_outcome] at hfill'
  cases r with
  | error e =>
      refine ⟨_, _, Action.outcome_bind_of_error (Action.outcome_mapError hfill), ?_⟩
      rw [hstate₃]
      exact .failed h hfill'
  | ok report =>
      rw [Action.outcome_bind_of_ok (Action.outcome_mapError hfill)]
      have hworks : Works o t (.ok report.placed.size) w₃.state := by
        rw [hstate₃]
        exact .filled h hfill'
      dsimp only
      split
      · exact ⟨_, _, rfl, hworks⟩
      · exact ⟨_, _, rfl, hworks⟩

theorem works (o : Options) (t : Tree) :
    ∃ r w, (work o).start t = (r, w) ∧ Works o t r w.state := by
  obtain ⟨r, hload, hasks⟩ := outcome_loadManifest o ⟨t, #[]⟩
  rw [Action.start_eq_outcome, work_eq]
  cases r with
  | error message =>
      refine ⟨_, _, Action.outcome_bind_of_error hload, .refused fun m p b h => ?_⟩
      cases (hasks m).2 h.asks
  | ok m =>
      -- no other manifest is asked for
      have hunique : ∀ m', Asks o t m' → m' = m := fun m' h =>
        Except.ok.inj ((hasks m').2 h).symm
      have hcheck := Action.outcome_ofExcept
        ((m.checkPlaceholders layout.maxFileSize).mapError ManifestError.message)
        (⟨t, #[]⟩ : World Tree)
      rw [Action.outcome_bind_of_ok hload]
      cases hplaceholders : m.checkPlaceholders layout.maxFileSize with
      | error e =>
          rw [hplaceholders] at hcheck
          refine ⟨_, _, Action.outcome_bind_of_error hcheck, .refused fun m' p b h => ?_⟩
          have := h.placeholders
          rw [hunique m' h.asks, hplaceholders] at this
          cases this
      | ok _ =>
          rw [hplaceholders] at hcheck
          have htold := Action.outcome_note (ε := String) (.listed m.length)
            (⟨t, #[]⟩ : World Tree)
          rw [Action.outcome_bind_of_ok hcheck, Action.outcome_bind_of_ok htold]
          cases hfile : t.findFile o.image with
          | error why =>
              refine ⟨_, _, Action.outcome_bind_of_error (Action.outcome_mapError
                (outcome_openImage_of_error hfile (by decide))), .refused fun m' p b h => ?_⟩
              have := h.image
              rw [hfile] at this
              cases this
          | ok found =>
              exact works_of_ready (World.traffic_push rfl)
                ⟨(hasks m).1 rfl, hplaceholders, hfile⟩

/-- An image that is too short for what is before its data region is not written to. -/
theorem fill_of_short {source : Source Tree}
    (hshort : b.size - b.size % layout.sectorSize < layout.dataStart) :
    ∃ e w, (fill (imageDevice p b) layout m source).start t = (.error e, w) ∧ w.state = t := by
  have hdata : layout.dataStart = 2375680 := by decide
  have hoffset : layout.dataOffset = 2375680 := by decide
  have hcount : (imageDevice p b).answer .count t =
      (.ok ((b.size - b.size % layout.sectorSize) / layout.sectorSize), t) := rfl
  have hle := Nat.div_mul_le_self (b.size - b.size % layout.sectorSize) layout.sectorSize
  have hmount : (Volume.mount (imageDevice p b) layout).Ends World.traffic ⟨t, []⟩
      (fun _ _ => False) (fun _ v => v.state = t) := by
    refine Volume.ends_mounted.mono ?_ ?_
    · rintro vol v ⟨sectors, hmounted⟩
      have hanswer := hcount.symm.trans hmounted.count
      rw [Prod.mk.injEq, Except.ok.injEq] at hanswer
      have hfits := hmounted.fits
      rw [hmounted.length, ← hanswer.1, hoffset] at hfits
      rw [hdata] at hshort
      rw [Image.greatest] at hfits
      omega
    · intro e v h
      cases h with
      | size => rfl
      | count h => cases hcount.symm.trans h
      | data h _ =>
          rw [hcount, Prod.mk.injEq] at h
          exact h.2.symm
  cases hopen : Volume.mount (imageDevice p b) layout ⟨t, #[]⟩ with
  | ok vol w => exact (hmount.of_ok rfl hopen).elim
  | error e w =>
      refine ⟨e, w, ?_, hmount.of_error rfl hopen⟩
      rw [Action.start_eq_outcome]
      exact Action.outcome_bind_of_error (Action.outcome_eq_error.2 hopen)

/-- Work that is refused, or whose image is too short, comes to nothing. -/
theorem Works.of_blocked {r : Except String Nat} {t' : Tree} (h : Works o t r t')
    (hblocked : ∀ m p b, Ready o t m p b →
      b.size - b.size % layout.sectorSize < layout.dataStart) :
    (∃ message, r = .error message) ∧ t' = t := by
  cases h with
  | refused => exact ⟨⟨_, rfl⟩, rfl⟩
  | filled hready hfill =>
      obtain ⟨e, w, hshort, -⟩ := fill_of_short (hblocked _ _ _ hready)
      cases hfill.symm.trans hshort
  | failed hready hfill =>
      obtain ⟨e, w, hshort, hw⟩ := fill_of_short (hblocked _ _ _ hready)
      obtain ⟨-, rfl⟩ := Prod.mk.inj (hfill.symm.trans hshort)
      exact ⟨⟨_, rfl⟩, hw⟩

/-- Work that is not refused is one run of `fill`. -/
theorem Works.of_ready {r : Except String Nat} {t' : Tree} (h : Works o t r t')
    (hready : Ready o t m p b) : ∃ filled w,
      (fill (imageDevice p b) layout m (sourcesUnder o.root)).start t = (filled, w) ∧
      t' = w.state ∧ r.toOption = filled.toOption.map fun report => report.placed.size := by
  cases h with
  | refused hnone => exact absurd hready (hnone m p b)
  | filled hready' hfill | failed hready' hfill =>
      obtain ⟨rfl, rfl, rfl⟩ := hready.unique hready'
      exact ⟨_, _, hfill, rfl, rfl⟩

/-! ## The run -/

variable {arguments : List String} {setting : Option String}

/-- A run whose arguments are understood does its work and tells what has come of it. -/
theorem run_of_parse (setting : Option String) (hparse : Options.parse arguments = .ok o) :
    (∃ count, Works o t (.ok count) (run arguments setting t).tree ∧
      (run arguments setting t).code = 0 ∧
      (run arguments setting t).stdout = s!"Injected {count} file(s) into {o.image}\n") ∨
    (∃ message, Works o t (.error message) (run arguments setting t).tree ∧
      (run arguments setting t).code = 1 ∧ (run arguments setting t).stdout = "") := by
  obtain ⟨r, w, hwork, hworks⟩ := works o t
  cases r with
  | ok count =>
      have hrun : run arguments setting t = ⟨0, s!"Injected {count} file(s) into {o.image}\n",
          shown (thresholdOf o setting) w.notices, w.state⟩ := by
        simp only [run, hparse, hwork]
      rw [hrun]
      exact Or.inl ⟨count, hworks, rfl, rfl⟩
  | error message =>
      have hrun : run arguments setting t = ⟨1, "",
          shown (thresholdOf o setting) (w.notices ++ [.failed message]), w.state⟩ := by
        simp only [run, hparse, hwork]
      rw [hrun]
      exact Or.inr ⟨message, hworks, rfl, rfl⟩

theorem works_of_parse (setting : Option String) (hparse : Options.parse arguments = .ok o) :
    ∃ r, Works o t r (run arguments setting t).tree := by
  rcases run_of_parse (t := t) setting hparse with ⟨_, hworks, -⟩ | ⟨_, hworks, -⟩
  · exact ⟨_, hworks⟩
  · exact ⟨_, hworks⟩

/-- A run that fills the image tells how many files are on it. -/
theorem run_of_filled (setting : Option String) (hparse : Options.parse arguments = .ok o)
    (hready : Ready o t m p b) {report : Report} {w : World Tree}
    (hfill : (fill (imageDevice p b) layout m (sourcesUnder o.root)).start t =
      (.ok report, w)) :
    (run arguments setting t).stdout =
        s!"Injected {report.placed.size} file(s) into {o.image}\n" ∧
      (run arguments setting t).tree = w.state := by
  rcases run_of_parse (t := t) setting hparse with
    ⟨count, hworks, -, hstdout⟩ | ⟨message, hworks, -, -⟩
  · obtain ⟨filled, w', hfill', htree, hcount⟩ := hworks.of_ready hready
    rw [hfill, Prod.mk.injEq] at hfill'
    obtain ⟨rfl, rfl⟩ := hfill'
    obtain rfl := Option.some.inj hcount
    exact ⟨hstdout, htree⟩
  · obtain ⟨filled, w', hfill', -, hcount⟩ := hworks.of_ready hready
    rw [hfill, Prod.mk.injEq] at hfill'
    obtain ⟨rfl, rfl⟩ := hfill'
    cases hcount

theorem run_of_help (setting : Option String) (h : Options.parse arguments = .error .help) :
    (run arguments setting t).tree = t ∧ (run arguments setting t).code = 0 ∧
      (run arguments setting t).stdout = Options.usage ++ "\n" := by
  have hrun : run arguments setting t = ⟨0, Options.usage ++ "\n", "", t⟩ := by
    simp only [run, h]
  rw [hrun]
  exact ⟨rfl, rfl, rfl⟩

theorem run_of_usage {e : UsageError} (setting : Option String)
    (h : Options.parse arguments = .error e) (he : e ≠ .help) :
    (run arguments setting t).tree = t ∧ (run arguments setting t).code = 2 ∧
      (run arguments setting t).stdout = "" := by
  have hrun : ∃ stderr, run arguments setting t = ⟨2, "", stderr, t⟩ := by
    cases e with
    | help => exact absurd rfl he
    | missingValue | unexpected => exact ⟨(run arguments setting t).stderr, by simp only [run, h]⟩
  obtain ⟨stderr, hrun⟩ := hrun
  rw [hrun]
  exact ⟨rfl, rfl, rfl⟩

theorem tree_run_of_error {e : UsageError} (setting : Option String)
    (h : Options.parse arguments = .error e) : (run arguments setting t).tree = t := by
  by_cases he : e = .help
  · subst he
    exact (run_of_help setting h).1
  · exact (run_of_usage setting h he).1

/-! ## A small machine -/

/-- A machine whose working directory has an image and a list. -/
def machineWith (list : String) (image : ByteArray) : Tree where
  here := ["srv"]
  nodes := [(["srv"], .directory), (["srv", "d"], .file image), (["srv", "l"], .file list.toUTF8)]

theorem parse_list :
    Options.parse ["-i", "d", "-m", "l"] = .ok { image := "d", manifest := some "l" } := by
  decide

theorem fromUTF8?_toUTF8 (text : String) : String.fromUTF8? text.toUTF8 = some text := by
  rw [String.toUTF8_eq_toByteArray, String.fromUTF8?, dif_pos text.isValidUTF8]
  rfl

theorem target?_image_machineWith (list : String) (image : ByteArray) :
    (machineWith list image).target? "d" = some ["srv", "d"] := by
  cbv

theorem target?_list_machineWith (list : String) (image : ByteArray) :
    (machineWith list image).target? "l" = some ["srv", "l"] := by
  cbv

theorem target?_x_machineWith (list : String) (image : ByteArray) :
    (machineWith list image).target? (joinPath "." "x") = some ["srv", "x"] := by
  cbv

theorem findFile_image_machineWith (list : String) (image : ByteArray) :
    (machineWith list image).findFile "d" = .ok (["srv", "d"], image) :=
  Tree.findFile_eq_ok_iff.2 ⟨target?_image_machineWith list image, rfl⟩

/-- The list is read as it was written. -/
theorem readText_list_machineWith (list : String) (image : ByteArray) :
    (machineWith list image).readText "l" = .ok list := by
  have hfound : (machineWith list image).findFile "l" = .ok (["srv", "l"], list.toUTF8) :=
    Tree.findFile_eq_ok_iff.2 ⟨target?_list_machineWith list image, rfl⟩
  rw [Tree.readText_eq, hfound]
  simp only [Except.bind, fromUTF8?_toUTF8, Option.elim]

theorem ready_machineWith {list : String} (hm : Manifest.ofText list = .ok m)
    (hcheck : m.checkPlaceholders layout.maxFileSize = .ok ()) (image : ByteArray) :
    Ready { image := "d", manifest := some "l" } (machineWith list image) m ["srv", "d"] image :=
  ⟨.file rfl (readText_list_machineWith list image) hm, hcheck,
    findFile_image_machineWith list image⟩

end FatImage.Program
