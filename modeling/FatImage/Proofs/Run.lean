import FatImage.Proofs.Place

/-!
# Runs over a manifest

A run is carried by one invariant, `Sound`: the disk holds some files over
what was there before the reset, there was room for them, and the journal
has told of exactly these. One call of `place` keeps it with one more file;
by induction over the entries a whole run keeps it with all files that were
loaded, and a run that stops keeps it with the first few. What the device
may leave behind of the file at which it stopped is `LeftOver`.

The bytes of the files come from a loader that has a state of its own and
does not see the disk. What it answers does not depend on the run, so the
files that a run is going to place can be said in advance, as `loaded` and
`skipped` of the `answers`.
-/

namespace FatImage

variable {σ τ : Type} {faulty : Prop} {v : View τ} {base : ByteArray} {l : Layout}
variable {fs : List File} {f : File}

/-! ## Loaders -/

/-- The bytes of an entry, or why they cannot be had, and the next state. -/
abbrev Loader (τ : Type) := Entry → τ → Except String ByteArray × τ

/-- A loader as a source, beside a disk that it does not see. -/
def Loader.source (load : Loader τ) : Source (σ × τ) := fun e =>
  Action.step fun s => ((load e s.2).1, s.1, (load e s.2).2)

/-- What a loader answers to the entries, one after the other. -/
def Loader.answers (load : Loader τ) : List Entry → τ → List (Entry × Except String ByteArray)
  | [], _ => []
  | e :: rest, t => (e, (load e t).1) :: load.answers rest (load e t).2

/-- The files whose bytes could be had, in order. -/
def loaded (answers : List (Entry × Except String ByteArray)) : List File :=
  answers.filterMap fun
    | (e, .ok data) => some ⟨e.name, data⟩
    | (_, .error _) => none

/-- The files whose bytes could not be had, in order. -/
def skipped (answers : List (Entry × Except String ByteArray)) : List SkippedFile :=
  answers.filterMap fun
    | (_, .ok _) => none
    | (e, .error reason) => some ⟨e.name, e.source, reason⟩

theorem Loader.outcome_source (load : Loader τ) (e : Entry) (w : World (σ × τ)) :
    (load.source e).outcome w =
      ((load e w.state.2).1, { w with state := (w.state.1, (load e w.state.2).2) }) :=
  Action.outcome_step _ w

theorem Loader.ends_source {load : Loader τ} {g : σ → ByteArray} {e : Entry} :
    (load.source e : Action (σ × τ) String ByteArray).Ends
      (World.view fun s => (g s.1, s.2)) v
      (fun data v' => (load e v.aside).1 = .ok data ∧
        v' = { v with aside := (load e v.aside).2 })
      (fun reason v' => (load e v.aside).1 = .error reason ∧
        v' = { v with aside := (load e v.aside).2 }) := by
  refine Action.ends_of_outcome fun w hw => ⟨_, _, load.outcome_source e w, ?_⟩
  subst hw
  exact ⟨fun data h => ⟨h, rfl⟩, fun reason h => ⟨h, rfl⟩⟩

namespace Volume

variable {vol : Volume σ}

/-! ## The invariant of a run -/

/-- The files are on the disk, which was `base` before the reset, and the
journal has told of them and of no others. -/
structure Sound (vol : Volume σ) (base : ByteArray) (fs : List File) (v : View τ) :
    Prop where
  length : vol.image.length ≤ v.disk.size
  holds : vol.layout.Holds base v.disk fs
  slots : fs.length ≤ vol.layout.slotCount
  reach : vol.layout.Reach vol.image.length (vol.layout.nextCluster fs)
  told : v.placed = (vol.layout.placements fs).map PlacedFile.placing
  names : ∀ f ∈ fs, f.name.Parsed
  sizes : ∀ f ∈ fs, f.data.size < 0x100000000

theorem Sound.room (h : Sound vol base fs v) : vol.layout.Room base.size fs := by
  have hlength := h.length
  rw [h.holds.size] at hlength
  exact ⟨h.reach.size_mono hlength, h.slots⟩

theorem Sound.with_aside (h : Sound vol base fs v) (t : τ) :
    Sound vol base fs { v with aside := t } :=
  ⟨h.length, h.holds, h.slots, h.reach, h.told, h.names, h.sizes⟩

theorem Sound.lists {look : σ → ByteArray × τ} (hstands : vol.Whole look faulty)
    (h : Sound vol base fs v) : vol.layout.Lists v.disk (vol.layout.records fs) := by
  have hdata := hstands.data
  have hlength := h.length
  exact (h.holds.legible hstands.sectorSize_pos h.room).lists h.slots (by omega) h.names

theorem sound_nil {look : σ → ByteArray × τ} (hstands : vol.Whole look faulty)
    (hlength : vol.image.length ≤ base.size) (hroom : 4 ≤ vol.layout.mirrorBytes)
    {t : τ} : Sound vol base [] ⟨vol.layout.picture base [], t, []⟩ := by
  have hreach : vol.layout.Reach vol.image.length (vol.layout.nextCluster []) := by
    refine ⟨Nat.le_refl _, ?_, hroom, Or.inl rfl⟩
    rw [Layout.nextCluster_nil, Layout.payloadOffset, Layout.firstDataCluster,
      Nat.sub_self, Nat.zero_mul, Nat.add_zero]
    exact hstands.data
  have hholds : vol.layout.Holds base (vol.layout.picture base []) [] :=
    Layout.holds_picture hstands.sectorSize_pos ⟨hreach.size_mono hlength, Nat.zero_le _⟩
  refine ⟨?_, hholds, Nat.zero_le _, hreach, rfl, ?_, ?_⟩
  · rw [hholds.size]
    exact hlength
  · intro f hf
    cases hf
  · intro f hf
    cases hf

/-- A call of `place` that succeeds takes the next slot and the next clusters,
and keeps the invariant with its file. -/
theorem Sound.append {look : σ → ByteArray × τ} (hstands : vol.Whole look faulty)
    (h32 : 32 ∣ vol.layout.sectorSize) (h : Sound vol base fs v) (hname : f.name.Parsed)
    {v' : View τ} {p : PlacedFile} {next : Cursor}
    (hp : PlacedAt vol (vol.layout.nextCluster fs) f v v' p next) :
    Sound vol base (fs ++ [f]) v' ∧
      p = vol.layout.placement fs.length (vol.layout.nextCluster fs) f := by
  have hs := hstands.sectorSize_pos
  have hslot : p.slot = fs.length := by
    obtain ⟨hzero, hbefore⟩ := hp.first h32
    rw [← Layout.length_records (l := vol.layout)]
    exact (h.lists hstands).eq_length hp.slot hzero hbefore
  have hcount := hp.slot
  have hplace := hp.place
  rw [hslot] at hcount hplace
  have hreach : vol.layout.Reach vol.image.length (vol.layout.nextCluster (fs ++ [f])) := by
    rw [Layout.nextCluster_append]
    exact hp.reach
  have hholds := h.holds.append hs (hreach.size_mono h.length) hcount
  have hseen := hp.seen
  rw [hslot] at hseen
  subst hseen
  refine ⟨⟨?_, hholds, ?_, hreach, ?_, ?_, ?_⟩, hplace⟩
  · rw [hholds.size, ← h.holds.size]
    exact h.length
  · rw [List.length_append, List.length_singleton]
    exact hcount
  · rw [Layout.placements_append, List.map_append, h.told, hplace]
    rfl
  · intro g hg
    rcases List.mem_append.1 hg with hg | hg
    · exact h.names g hg
    · rw [List.mem_singleton.1 hg]
      exact hname
  · intro g hg
    rcases List.mem_append.1 hg with hg | hg
    · exact h.sizes g hg
    · rw [List.mem_singleton.1 hg]
      exact hp.size

/-- The files are on the disk, apart from what a call that failed has left. -/
def Stopped (vol : Volume σ) (base : ByteArray) (faulty : Prop) (fs : List File)
    (v : View τ) : Prop :=
  ∃ b, Sound vol base fs { v with disk := b } ∧
    LeftOver vol.layout (vol.layout.nextCluster fs) faulty b v.disk

theorem Stopped.size_eq (h : Stopped vol base faulty fs v) : v.disk.size = base.size := by
  obtain ⟨b, hsound, hb⟩ := h
  have hsize : b.size = base.size := hsound.holds.size
  rcases hb with hb | ⟨_, hb⟩
  · rw [hb, hsize]
  · rw [hb.size, hsize]

theorem Sound.stopped (h : Sound vol base fs v) : Stopped vol base faulty fs v :=
  ⟨v.disk, h, Or.inl rfl⟩

theorem Stopped.sound (h : Stopped vol base False fs v) : Sound vol base fs v := by
  obtain ⟨b, hsound, hb | hb⟩ := h
  · rw [← hb] at hsound
    exact hsound
  · exact False.elim hb.1

/-- A reader does not see what was left behind. -/
theorem Stopped.legible {look : σ → ByteArray × τ} (hstands : vol.Whole look faulty)
    (h : Stopped vol base faulty fs v) : vol.layout.Legible v.disk fs := by
  have hs := hstands.sectorSize_pos
  obtain ⟨b, hsound, hb⟩ := h
  have hlegible := hsound.holds.legible hs hsound.room
  rcases hb with hb | ⟨_, hb⟩
  · rw [hb]
    exact hlegible
  · exact hlegible.spare hs hsound.reach.linked hb

/-- The files are on the disk, and the next one was not placed: it was refused,
or the device is faulty and has failed in the middle of it. -/
def StoppedAt (vol : Volume σ) (base : ByteArray) (faulty : Prop) (fs : List File)
    (f : File) (e : VolumeError) (v : View τ) : Prop :=
  ∃ b, Sound vol base fs { v with disk := b } ∧
    LeftOver vol.layout (vol.layout.nextCluster fs) faulty b v.disk ∧
    ((e = .deviceFailed ∧ faulty) ∨ Refused vol (vol.layout.nextCluster fs) f b e)

theorem StoppedAt.stopped {e : VolumeError} (h : StoppedAt vol base faulty fs f e v) :
    Stopped vol base faulty fs v := by
  obtain ⟨b, hsound, hb, -⟩ := h
  exact ⟨b, hsound, hb⟩

theorem StoppedAt.sound {e : VolumeError} (h : StoppedAt vol base False fs f e v) :
    Sound vol base fs v ∧ Refused vol (vol.layout.nextCluster fs) f v.disk e := by
  obtain ⟨b, hsound, hb, hwhy⟩ := h
  rw [← hb.resolve_right (fun hf => hf.1)] at hsound hwhy
  exact ⟨hsound, hwhy.resolve_left (fun hf => hf.2)⟩

/-! ## Placing one file after the other -/

/-- A report tells of these files. -/
structure Tells (vol : Volume σ) (report : Report) (fs : List File)
    (left : List SkippedFile) : Prop where
  placed : report.placed.toList = vol.layout.placements fs
  skipped : report.skipped.toList = left
  next : report.next.cluster.toNat = vol.layout.nextCluster fs

variable {g : σ → ByteArray}

theorem loaded_ok {e : Entry} {data : ByteArray}
    {rest : List (Entry × Except String ByteArray)} :
    loaded ((e, .ok data) :: rest) = ⟨e.name, data⟩ :: loaded rest := rfl

theorem loaded_error {e : Entry} {reason : String}
    {rest : List (Entry × Except String ByteArray)} :
    loaded ((e, .error reason) :: rest) = loaded rest := rfl

theorem skipped_ok {e : Entry} {data : ByteArray}
    {rest : List (Entry × Except String ByteArray)} :
    skipped ((e, .ok data) :: rest) = skipped rest := rfl

theorem skipped_error {e : Entry} {reason : String}
    {rest : List (Entry × Except String ByteArray)} :
    skipped ((e, .error reason) :: rest) =
      ⟨e.name, e.source, reason⟩ :: skipped rest := rfl

/-- What a run does with the entries that are left: it places all that can be
loaded, or stops at one of them. -/
theorem Whole.placeAll (load : Loader τ) {vol : Volume (σ × τ)}
    (h : vol.Whole (fun s => (g s.1, s.2)) faulty) (h32 : 32 ∣ vol.layout.sectorSize)
    {entries : List Entry} {fs : List File} {left : List SkippedFile} {report : Report}
    {v : View τ} (hsound : Sound vol base fs v) (htells : Tells vol report fs left)
    (hnames : ∀ e ∈ entries, e.name.Parsed) :
    (vol.placeAll load.source report entries).Ends (World.view fun s => (g s.1, s.2)) v
      (fun report' v' =>
        Sound vol base (fs ++ loaded (load.answers entries v.aside)) v' ∧
        Tells vol report' (fs ++ loaded (load.answers entries v.aside))
          (left ++ skipped (load.answers entries v.aside)))
      (fun e v' => ∃ k f, (loaded (load.answers entries v.aside))[k]? = some f ∧
        StoppedAt vol base faulty
          (fs ++ (loaded (load.answers entries v.aside)).take k) f e v') := by
  induction entries generalizing fs left report v with
  | nil =>
      rw [Volume.placeAll]
      refine Action.ends_pure ⟨?_, ?_⟩
      · rw [Loader.answers, loaded, List.filterMap_nil, List.append_nil]
        exact hsound
      · rw [Loader.answers, loaded, skipped, List.filterMap_nil, List.filterMap_nil,
          List.append_nil, List.append_nil]
        exact htells
  | cons e rest ih =>
      have hrest : ∀ e ∈ rest, e.name.Parsed := fun e' he' =>
        hnames e' (List.mem_cons_of_mem _ he')
      rw [Volume.placeAll, Loader.answers]
      have hsound₁ := hsound.with_aside (load e v.aside).2
      refine Loader.ends_source.attempt_bind ?_ ?_
      · intro data v₁ hv₁
        obtain ⟨hr, hv₁⟩ := hv₁
        have haside₁ : (load e v.aside).2 = v₁.aside := by rw [hv₁]
        rw [← hv₁] at hsound₁
        rw [hr, haside₁, loaded_ok, skipped_ok]
        refine ends_quiet_bind rfl ?_
        refine (h.place (f := ⟨e.name, data⟩) hsound₁.length (fun _ => h32)
          htells.next hsound₁.reach).bind ?_ ?_
        · intro r v₂ hv₂
          obtain ⟨p, next⟩ := r
          obtain ⟨hsound₂, hp⟩ := hsound₁.append h h32
            (hnames e List.mem_cons_self) hv₂
          have htells' : Tells vol { report with
              placed := report.placed.push p, next := next } (fs ++ [⟨e.name, data⟩])
              left := by
            refine ⟨?_, htells.skipped, ?_⟩
            · rw [Array.toList_push, htells.placed, Layout.placements_append, ← hp]
            · rw [Layout.nextCluster_append]
              exact hv₂.next
          have haside₂ : v₂.aside = v₁.aside := by rw [hv₂.seen]
          have := ih hsound₂ htells' hrest
          rw [haside₂, List.append_assoc, List.singleton_append] at this
          refine this.mono (fun _ _ h => h) ?_
          intro _ v₃ hv₃
          obtain ⟨k, f, hk, hstopped⟩ := hv₃
          refine ⟨k + 1, f, hk, ?_⟩
          rw [List.take_succ_cons]
          rwa [List.append_assoc, List.singleton_append] at hstopped
        · intro e' v₂ hv₂
          obtain ⟨⟨b, hb, rfl⟩, hwhy⟩ := hv₂
          refine ⟨0, ⟨e.name, data⟩, rfl, ?_⟩
          rw [List.take_zero, List.append_nil]
          exact ⟨v₁.disk, hsound₁, hb, hwhy⟩
      · intro reason v₁ hv₁
        obtain ⟨hr, hv₁⟩ := hv₁
        have haside₁ : (load e v.aside).2 = v₁.aside := by rw [hv₁]
        rw [← hv₁] at hsound₁
        rw [hr, haside₁, loaded_error, skipped_error]
        refine ends_quiet_bind rfl (ends_quiet_bind rfl (ends_quiet_bind rfl ?_))
        have htells' : Tells vol { report with
            skipped := report.skipped.push ⟨e.name, e.source, reason⟩ } fs
            (left ++ [⟨e.name, e.source, reason⟩]) :=
          ⟨htells.placed, by rw [Array.toList_push, htells.skipped], htells.next⟩
        have := ih hsound₁ htells' hrest
        rwa [List.append_assoc, List.singleton_append] at this

/-! ## A whole run -/

/-- What a run that placed all it could load has done. -/
structure Filled (vol : Volume σ) (base : ByteArray)
    (answers : List (Entry × Except String ByteArray)) (report : Report) (v : View τ) :
    Prop where
  sound : Sound vol base (loaded answers) v
  tells : Tells vol report (loaded answers) (skipped answers)

/-- What a run that failed has done: it stopped at one of the files that were
loaded, or behind the last because of a faulty device. -/
def Broken (vol : Volume σ) (base : ByteArray) (faulty : Prop)
    (answers : List (Entry × Except String ByteArray)) (v : View τ) : Prop :=
  ∃ k, (k < (loaded answers).length ∨ k = (loaded answers).length ∧ faulty) ∧
    Stopped vol base faulty ((loaded answers).take k) v

/-- Why a run failed: one of the files was not placed, or all of them were and a
faulty device has failed behind the last. -/
def BrokenBy (vol : Volume σ) (base : ByteArray) (faulty : Prop)
    (answers : List (Entry × Except String ByteArray)) (e : VolumeError) (v : View τ) :
    Prop :=
  (∃ k f, (loaded answers)[k]? = some f ∧
    StoppedAt vol base faulty ((loaded answers).take k) f e v) ∨
  (faulty ∧ Sound vol base (loaded answers) v)

theorem BrokenBy.broken {answers : List (Entry × Except String ByteArray)}
    {e : VolumeError} (h : BrokenBy vol base faulty answers e v) :
    Broken vol base faulty answers v := by
  rcases h with ⟨k, f, hk, hstopped⟩ | ⟨hf, hsound⟩
  · obtain ⟨hlt, -⟩ := List.getElem?_eq_some_iff.1 hk
    exact ⟨k, Or.inl hlt, hstopped.stopped⟩
  · refine ⟨_, Or.inr ⟨rfl, hf⟩, ?_⟩
    rw [List.take_length]
    exact hsound.stopped

/-- A run, from the point on where the reset is done. -/
theorem Whole.afterReset (load : Loader τ) {vol : Volume (σ × τ)}
    (h : vol.Whole (fun s => (g s.1, s.2)) faulty) (h32 : 32 ∣ vol.layout.sectorSize)
    {m : Manifest} {t : τ} (hlength : vol.image.length ≤ base.size)
    (hroom : 4 ≤ vol.layout.mirrorBytes) (hnames : ∀ e ∈ m.entries, e.name.Parsed) :
    Action.Ends (do
        let outcome ← Action.attempt (vol.placeAll load.source {} m.entries)
        let flushed ← Action.attempt vol.image.flush
        let report ← Action.ofExcept outcome
        Action.ofExcept flushed
        return report)
      (World.view fun s => (g s.1, s.2)) ⟨vol.layout.picture base [], t, []⟩
      (fun report v' => Filled vol base (load.answers m.entries t) report v')
      (fun e v' => BrokenBy vol base faulty (load.answers m.entries t) e v') := by
  have htells : Tells vol {} [] [] := ⟨rfl, rfl, rfl⟩
  have hplaced := h.placeAll load h32 (sound_nil h hlength hroom (t := t)) htells hnames
  simp only [List.nil_append] at hplaced
  refine hplaced.attempt_bind ?_ ?_
  · intro report v₁ hv₁
    have hfilled : Filled vol base (load.answers m.entries t) report v₁ := ⟨hv₁.1, hv₁.2⟩
    refine h.backed.flush.attempt_bind ?_ ?_
    · intro _ v₂ hv₂
      rw [hv₂.2]
      exact Action.ends_pure hfilled
    · -- a flush that fails takes the report away, but nothing from the disk
      intro _ v₂ hv₂
      rw [hv₂.2]
      exact Action.ends_throw (Or.inr ⟨hv₂.1.2, hfilled.sound⟩)
  · intro e v₁ hv₁
    refine h.backed.flush.attempt_bind ?_ ?_
    · intro _ v₂ hv₂
      rw [hv₂.2]
      exact Action.ends_throw (Or.inl hv₁)
    · intro _ v₂ hv₂
      rw [hv₂.2]
      exact Action.ends_throw (Or.inl hv₁)

/-- How a run ends whose reset is done, and what is to blame if it fails. -/
theorem Whole.run_ends_of_reset (load : Loader τ) {vol : Volume (σ × τ)}
    (h : vol.Whole (fun s => (g s.1, s.2)) faulty) (h32 : 32 ∣ vol.layout.sectorSize)
    {m : Manifest} {t : τ} (hlength : vol.image.length ≤ base.size)
    (hmirror : 0 < vol.layout.mirrorSectors) (hnames : ∀ e ∈ m.entries, e.name.Parsed)
    {w w₁ : World (σ × τ)} (hw : World.view (fun s => (g s.1, s.2)) w = ⟨base, t, []⟩)
    (hreset : vol.reset w = .ok () w₁) :
    (∀ report w', vol.run m load.source w = .ok report w' →
      Filled vol base (load.answers m.entries t) report
        (World.view (fun s => (g s.1, s.2)) w')) ∧
    (∀ e w', vol.run m load.source w = .error e w' →
      BrokenBy vol base faulty (load.answers m.entries t) e
        (World.view (fun s => (g s.1, s.2)) w')) := by
  have hroom := h.four_le_mirrorBytes hmirror
  have hw₁ := (h.reset (v := ⟨base, t, []⟩) hlength hroom).of_ok hw hreset
  have hrest := h.afterReset load (t := t) h32 hlength hroom hnames
  have hrun : vol.run m load.source w = (do
      let outcome ← Action.attempt (vol.placeAll load.source {} m.entries)
      let flushed ← Action.attempt vol.image.flush
      let report ← Action.ofExcept outcome
      Action.ofExcept flushed
      return report : Action (σ × τ) VolumeError Report) w₁ := by
    simp only [Volume.run, Action.attempt, bind, EStateM.bind, hreset]
  rw [hrun]
  exact ⟨fun _ _ hok => hrest.of_ok hw₁ hok, fun _ _ herror => hrest.of_error hw₁ herror⟩

/-- A run whose reset fails answers why, whatever comes of the flush. -/
theorem run_of_reset_error {vol : Volume σ} {w w₁ : World σ} {e : VolumeError}
    (hreset : vol.reset w = .error e w₁) (m : Manifest) (source : Source σ) :
    ∃ w', vol.run m source w = .error e w' := by
  rw [Volume.run]
  simp only [Action.attempt, bind, EStateM.bind, hreset]
  cases vol.image.flush w₁ with
  | ok _ w' => exact ⟨w', rfl⟩
  | error _ w' => exact ⟨w', rfl⟩

/-- A run whose reset is done has placed all it could load, or has broken off. -/
theorem Whole.run_of_reset (load : Loader τ) {vol : Volume (σ × τ)}
    (h : vol.Whole (fun s => (g s.1, s.2)) faulty) (h32 : 32 ∣ vol.layout.sectorSize)
    {m : Manifest} {t : τ} (hlength : vol.image.length ≤ base.size)
    (hmirror : 0 < vol.layout.mirrorSectors) (hnames : ∀ e ∈ m.entries, e.name.Parsed)
    {w w₁ : World (σ × τ)} (hw : World.view (fun s => (g s.1, s.2)) w = ⟨base, t, []⟩)
    (hreset : vol.reset w = .ok () w₁) :
    (∀ report w', vol.run m load.source w = .ok report w' →
      Filled vol base (load.answers m.entries t) report
        (World.view (fun s => (g s.1, s.2)) w')) ∧
    (∀ e w', vol.run m load.source w = .error e w' →
      Broken vol base faulty (load.answers m.entries t)
        (World.view (fun s => (g s.1, s.2)) w')) := by
  obtain ⟨hok, herror⟩ := h.run_ends_of_reset load h32 hlength hmirror hnames hw hreset
  exact ⟨hok, fun e w' he => (herror e w' he).broken⟩

end Volume

end FatImage
