import FatImage.Proofs.Run

/-!
# Sessions, and reading back what they placed

A session is a reset and then any calls of `place`, each at the cursor that
the last call that succeeded has left; calls that fail are passed over. It
is the most that a caller can do with a volume, short of inventing cursors.

Whatever holds after the reset and is kept by every call, failed or not,
holds at the end of a session; `Whole.placeEach` is that induction. Here it
carries `Sound`, and the end of a session is read back the way a reader
does it: the directory for the records, and for each record the chain of its
first cluster, the sectors of the chain, and of these as many bytes as the
record says.
-/

namespace FatImage

variable {σ τ : Type} {look : σ → ByteArray × τ} {faulty : Prop} {v : View τ}
variable {vol : Volume σ} {l : Layout} {fs : List File} {f : File} {base : ByteArray}

namespace Volume

/-! ## Sessions -/

/-- Places files one after the other, and answers those that were placed. A
call that fails is passed over: the next one gets the same cursor. -/
def placeEach (v : Volume σ) (done : List (File × PlacedFile)) (cursor : Cursor) :
    List File → Action σ VolumeError (List (File × PlacedFile) × Cursor)
  | [] => return (done, cursor)
  | f :: rest => do
    match ← Action.attempt (v.place cursor f.name f.data) with
    | .error _ => v.placeEach done cursor rest
    | .ok (p, next) => v.placeEach (done ++ [(f, p)]) next rest

/-- A reset and calls of `place`. -/
def session (v : Volume σ) (calls : List File) :
    Action σ VolumeError (List (File × PlacedFile) × Cursor) := do
  v.reset
  v.placeEach [] Cursor.start calls

/-- What every call keeps holds at the end, and a call that fails does not
end a session. -/
theorem ends_placeEach {obs : World σ → View τ}
    {inv : List (File × PlacedFile) → Cursor → View τ → Prop} {calls : List File}
    (hstep : ∀ f ∈ calls, ∀ done cursor v, inv done cursor v →
      (vol.place cursor f.name f.data).Ends obs v
        (fun r v' => inv (done ++ [(f, r.1)]) r.2 v') (fun _ v' => inv done cursor v'))
    {done : List (File × PlacedFile)} {cursor : Cursor} (h : inv done cursor v) :
    (vol.placeEach done cursor calls).Ends obs v (fun r v' => inv r.1 r.2 v')
      (fun _ _ => False) := by
  induction calls generalizing done cursor v with
  | nil => exact Action.ends_pure h
  | cons f rest ih =>
      have hrest := fun f' hf' => hstep f' (List.mem_cons_of_mem f hf')
      have hcall := hstep f List.mem_cons_self done cursor v h
      rw [placeEach]
      refine hcall.attempt_bind ?_ ?_
      · intro _ v' hv'
        exact ih hrest hv'
      · intro _ v' hv'
        exact ih hrest hv'

/-- The reset of a session on a device that does not fail, and what its calls
are then given. -/
theorem Whole.session (inv : List (File × PlacedFile) → Cursor → View τ → Prop)
    (h : vol.Whole look False) (hlength : vol.image.length ≤ v.disk.size)
    (hmirror : 0 < vol.layout.mirrorSectors) (calls : List File)
    (hstart : inv [] Cursor.start { v with disk := vol.layout.picture v.disk [] })
    (hstep : ∀ f ∈ calls, ∀ done cursor v, inv done cursor v →
      (vol.place cursor f.name f.data).Ends (World.view look) v
        (fun r v' => inv (done ++ [(f, r.1)]) r.2 v') (fun _ v' => inv done cursor v')) :
    (vol.session calls).Ends (World.view look) v (fun r v' => inv r.1 r.2 v')
      (fun _ _ => False) := by
  refine (h.reset hlength (h.four_le_mirrorBytes hmirror)).bind ?_ (fun _ _ he => he.2)
  intro _ v' hv'
  subst hv'
  exact ends_placeEach hstep hstart

/-- A session of a volume that is only open may not come past the reset. What it comes to
then is that of a volume that stands. -/
theorem Opened.session (inv : List (File × PlacedFile) → Cursor → View τ → Prop)
    (h : vol.Opened look False) (hv : vol.image.length ≤ v.disk.size)
    (hnarrow : vol.layout.Narrow) (hlength : vol.image.length < diskLimit)
    (hmirror : 0 < vol.layout.mirrorSectors) (calls : List File)
    (hstart : vol.Whole look False →
      inv [] Cursor.start { v with disk := vol.layout.picture v.disk [] })
    (hstep : vol.Whole look False → ∀ f ∈ calls, ∀ done cursor v, inv done cursor v →
      (vol.place cursor f.name f.data).Ends (World.view look) v
        (fun r v' => inv (done ++ [(f, r.1)]) r.2 v') (fun _ v' => inv done cursor v')) :
    (vol.session calls).Ends (World.view look) v
      (fun r v' => vol.Whole look False ∧ inv r.1 r.2 v')
      (fun _ _ => ¬ vol.layout.Bounded) := by
  rcases h.reset_or_stops hv hnarrow hlength with hwhole | ⟨hbounded, hstops⟩
  · exact (hwhole.session inv hv hmirror calls (hstart hwhole) (hstep hwhole)).mono
      (fun _ _ hinv => ⟨hwhole, hinv⟩) (fun _ _ => False.elim)
  · exact hstops.bind (fun _ _ => False.elim) (fun _ _ _ => hbounded)

/-- Where nothing is faulty, a call that fails leaves everything as it was. -/
theorem Whole.place_or_same (h : vol.Whole look False)
    (hv : vol.image.length ≤ v.disk.size) {cursor : Cursor} {c : Nat}
    (hcursor : cursor.cluster.toNat = c) (hreach : vol.layout.Reach vol.image.length c) :
    (vol.place cursor f.name f.data).Ends (World.view look) v
      (fun r v' => PlacedAt vol c f v v' r.1 r.2) (fun _ v' => v' = v) := by
  refine (h.place hv False.elim hcursor hreach).mono (fun _ _ hr => hr) ?_
  intro _ v' hv'
  obtain ⟨⟨b, hb, rfl⟩, -⟩ := hv'
  rw [hb.resolve_right (fun hf => hf.1)]

/-! ## Reading a file -/

/-- The bytes of clusters, one after the other. -/
def readClusters (v : Volume σ) : List UInt16 → Action σ VolumeError ByteArray
  | [] => return .empty
  | c :: rest => match v.layout.clusterOffset? c with
    | none => throw (.noSuchCluster c)
    | some offset => do
      let sector ← v.image.readAt offset v.layout.sectorSize
      let more ← v.readClusters rest
      return sector ++ more

/-- The bytes of the file of a record: what its chain holds, cut to its size. -/
def readFile (v : Volume σ) (r : Record) : Action σ VolumeError ByteArray := do
  let clusters ← v.chain r.firstCluster
  let bytes ← v.readClusters clusters
  return bytes.extract 0 r.size.toNat

/-- Consecutive clusters hold one slice of the disk. -/
theorem Whole.readClusters (h : vol.Whole look faulty)
    (hv : vol.image.length ≤ v.disk.size) {n c : Nat} (hc : 2 ≤ c)
    (hcount : c + n ≤ 0xFFF0)
    (hfit : vol.layout.payloadOffset (c + n) ≤ vol.image.length) :
    (vol.readClusters (clustersFrom c n)).Reads look faulty v
      (Bytes.slice v.disk (vol.layout.payloadOffset c) (n * vol.layout.sectorSize)) := by
  induction n generalizing c with
  | zero =>
      rw [Nat.zero_mul, Bytes.slice_zero]
      exact Action.ends_pure ⟨rfl, rfl⟩
  | succ n ih =>
      have hnext := Layout.payloadOffset_add (l := vol.layout) (n := 1) hc
      rw [Nat.one_mul] at hnext
      have hle : vol.layout.payloadOffset (c + 1) ≤ vol.layout.payloadOffset (c + (n + 1)) :=
        Layout.payloadOffset_mono (by omega)
      have hrest := @ih (c + 1) (by omega) (by omega)
        (by rw [show c + 1 + n = c + (n + 1) by omega]; exact hfit)
      have hoffset : vol.layout.clusterOffset? c.toUInt16 =
          some (vol.layout.payloadOffset c) := by
        rw [h.uncut.clusterOffset?_eq]
        exact Layout.clusterStart?_eq (Layout.toNat_toUInt16 (by omega)) hc
      rw [clustersFrom_succ, Volume.readClusters, hoffset]
      refine (h.backed.readAt hv (by omega)).bind ?_ (fun hf => ⟨⟨rfl, hf⟩, rfl⟩)
      refine hrest.bind (Action.ends_pure ⟨?_, rfl⟩) (fun hf => ⟨⟨rfl, hf⟩, rfl⟩)
      rw [hnext, Bytes.slice_append_slice, Nat.add_mul, Nat.one_mul, Nat.add_comm]

theorem Whole.readFile (h : vol.Whole look faulty)
    (hv : vol.image.length ≤ v.disk.size) (hmirrors : 0 < vol.layout.mirrors)
    (hb : vol.layout.Legible v.disk fs)
    (hreach : vol.layout.Reach vol.image.length (vol.layout.nextCluster fs))
    {p : Nat × File} (hp : p ∈ vol.layout.located fs) (hsize : p.2.data.size < 0x100000000)
    (slot : Nat) :
    (vol.readFile (vol.layout.placement slot p.1 p.2).record).Reads look faulty v
      p.2.data := by
  have hs := h.sectorSize_pos
  have hlocated := Layout.located_end_le hp
  have hcounted := hreach.counted
  have hroom : p.2.data.size ≤ vol.layout.clustersOf p.2 * vol.layout.sectorSize :=
    Layout.le_clustersFor_mul hs p.2.data.size
  have hend := Layout.located_payload_le hs hp
  have hstored := hreach.stored
  refine (h.chain hv hmirrors hb hreach hp slot).bind ?_ (fun hf => ⟨⟨rfl, hf⟩, rfl⟩)
  have hclusters := h.readClusters hv hlocated.1
    (show p.1 + vol.layout.clustersOf p.2 ≤ 0xFFF0 by omega)
    (Nat.le_trans (Layout.payloadOffset_mono hlocated.2) hstored)
  refine hclusters.bind (Action.ends_pure ⟨?_, rfl⟩) (fun hf => ⟨⟨rfl, hf⟩, rfl⟩)
  have hcut : (vol.layout.placement slot p.1 p.2).record.size.toNat = p.2.data.size :=
    Layout.placement_size_toNat vol.layout slot p.1 hsize
  rw [hcut, Bytes.extract_slice hroom, hb.slice_payload hp (by omega)]

/-! ## Everything placed can be read back -/

/-- The invariant of a session: the files that were placed are on the disk,
in the order in which they were. -/
structure Kept (vol : Volume σ) (base : ByteArray) (done : List (File × PlacedFile))
    (cursor : Cursor) (v : View τ) : Prop where
  sound : Sound vol base (done.map Prod.fst) v
  placed : done.map Prod.snd = vol.layout.placements (done.map Prod.fst)
  next : cursor.cluster.toNat = vol.layout.nextCluster (done.map Prod.fst)

theorem Kept.place (hstands : vol.Whole look False) (h32 : 32 ∣ vol.layout.sectorSize)
    {done : List (File × PlacedFile)} {cursor : Cursor} (h : Kept vol base done cursor v)
    (hname : f.name.Parsed) :
    (vol.place cursor f.name f.data).Ends (World.view look) v
      (fun r v' => Kept vol base (done ++ [(f, r.1)]) r.2 v')
      (fun _ v' => Kept vol base done cursor v') := by
  refine (hstands.place_or_same h.sound.length h.next h.sound.reach).mono ?_ ?_
  · intro r v' hr
    obtain ⟨hsound, hp⟩ := h.sound.append hstands h32 hname hr
    refine ⟨?_, ?_, ?_⟩
    · rw [List.map_append]
      exact hsound
    · rw [List.map_append, List.map_append, h.placed, List.map_singleton,
        List.map_singleton, Layout.placements_append, hp]
    · rw [List.map_append, List.map_singleton, Layout.nextCluster_append]
      exact hr.next
  · intro _ v' hv'
    rw [hv']
    exact h

theorem Kept.exists_located {done : List (File × PlacedFile)} {cursor : Cursor}
    (h : Kept vol base done cursor v) {x : File × PlacedFile} (hx : x ∈ done) :
    ∃ slot c, (c, x.1) ∈ vol.layout.located (done.map Prod.fst) ∧
      x.2 = vol.layout.placement slot c x.1 := by
  obtain ⟨i, hi⟩ := List.mem_iff_getElem?.1 hx
  have hfile : (done.map Prod.fst)[i]? = some x.1 := by
    rw [List.getElem?_map, hi, Option.map_some]
  have hplace : (done.map Prod.snd)[i]? = some x.2 := by
    rw [List.getElem?_map, hi, Option.map_some]
  rw [h.placed, Layout.getElem?_placements, hfile, Option.map_some,
    Option.some.injEq] at hplace
  refine ⟨i, _, List.mem_of_getElem? (i := i) ?_, hplace.symm⟩
  rw [Layout.getElem?_located, hfile, Option.map_some]

end Volume

/-- Whatever was on a disk in memory, and however the calls of a session went:
the directory lists the files that were placed, in the order of the calls,
and each of them is read back as it was given. Only on a disk where the tables
of the layout do not fit does a session not come past its reset. -/
theorem session_read_back {sectorSize : Nat} {disk : ByteArray}
    {vol : Volume ByteArray} {w : World ByteArray}
    (hmount : (Volume.mount (Device.memory sectorSize) l).start disk = (.ok vol, w))
    (hdisk : disk.size < diskLimit) (hnarrow : l.Narrow) (hmirrors : 0 < l.mirrors)
    (hmirror : 0 < l.mirrorSectors) (h32 : 32 ∣ l.sectorSize) {calls : List File}
    (hnames : ∀ f ∈ calls, f.name.Parsed) :
    (l.Bounded → ∃ r w', vol.session calls w = .ok r w') ∧
    ∀ done cursor w', vol.session calls w = .ok (done, cursor) w' →
      (∃ w'', vol.records w' =
        .ok (done.map fun x => ⟨x.1.name, 0x20, x.2.start, x.2.size⟩) w'') ∧
      ∀ x ∈ done, x.2.size.toNat = x.1.data.size ∧
        ∃ w'', vol.readFile ⟨x.1.name, 0x20, x.2.start, x.2.size⟩ w' = .ok x.1.data w'' := by
  have hkeeps := Device.keeps_memory sectorSize
  have hcounted : disk.size < Image.greatest := Nat.lt_trans hdisk (by decide)
  obtain ⟨hw, rfl, hopened, -⟩ := Volume.opened_of_mount hkeeps hcounted hmount
  have hlength := Volume.length_le_of_mount hkeeps hcounted hmount
  have hsession := hopened.session (Volume.Kept vol disk) (v := ⟨disk, (), []⟩)
    hlength hnarrow (Nat.lt_of_le_of_lt hlength hdisk) hmirror calls
    (fun h => ⟨Volume.sound_nil h hlength (h.four_le_mirrorBytes hmirror), rfl, rfl⟩)
    (fun h f hf done cursor v hv => hv.place h h32 (hnames f hf))
  refine ⟨fun hbounded => ?_, ?_⟩
  · obtain ⟨r, w', hok, -⟩ :=
      (hsession.mono (fun _ _ hr => hr) (fun _ _ hstop => hstop hbounded)).exists_ok hw
    exact ⟨r, w', hok⟩
  · intro done cursor w' hok
    obtain ⟨hstands, hkept⟩ := hsession.of_ok hw hok
    have hsound := hkept.sound
    -- what is asked for is the record that the place of each file stands for
    have hrecord : ∀ x ∈ done, (⟨x.1.name, 0x20, x.2.start, x.2.size⟩ : Record) =
        x.2.record := by
      intro x hx
      obtain ⟨slot, c, -, hplace⟩ := hkept.exists_located hx
      rw [hplace]
      rfl
    refine ⟨?_, ?_⟩
    · obtain ⟨w'', hrecords, -⟩ :=
        (hstands.records hsound.length (hsound.lists hstands)).exists_ok rfl
      refine ⟨w'', ?_⟩
      rw [hrecords, Layout.records, ← hkept.placed, List.map_map]
      exact congrArg (EStateM.Result.ok · w'') (List.map_congr_left hrecord).symm
    · intro x hx
      obtain ⟨slot, c, hc, hplace⟩ := hkept.exists_located hx
      have hsize := hsound.sizes x.1 (List.mem_map_of_mem hx)
      have hlegible := hsound.holds.legible hstands.sectorSize_pos hsound.room
      obtain ⟨w'', hread, -⟩ := (hstands.readFile hsound.length hmirrors hlegible
        hsound.reach hc hsize slot).exists_ok rfl
      rw [hrecord x hx, hplace]
      exact ⟨Layout.placement_size_toNat _ _ _ hsize, w'', hread⟩

/-- A file of one cluster, one that has no room behind the tables of a disk of three
megabytes, and one of three clusters. -/
def threeFiles : List File :=
  [⟨.letterA, Bytes.zeros 3⟩, ⟨.letterB, Bytes.zeros 1000000⟩, ⟨.letterC, Bytes.zeros 1500⟩]

theorem parsed_of_mem_threeFiles : ∀ f ∈ threeFiles, f.name.Parsed := by
  intro f hf
  simp only [threeFiles, List.mem_cons, List.not_mem_nil, or_false] at hf
  rcases hf with rfl | rfl | rfl
  · exact ShortName.parsed_letterA
  · exact ShortName.parsed_letterB
  · exact ShortName.parsed_letterC

theorem session_read_back_bootDisk : ∃ (vol : Volume ByteArray) (w : World ByteArray),
    (Volume.mount (Device.memory 512) Layout.bootDisk).start (Bytes.zeros 3000320) =
      (.ok vol, w) ∧
    ∃ done cursor w', vol.session threeFiles w = .ok (done, cursor) w' ∧
      (∃ w'', vol.records w' =
        .ok (done.map fun x => ⟨x.1.name, 0x20, x.2.start, x.2.size⟩) w'') ∧
      ∀ x ∈ done, x.2.size.toNat = x.1.data.size ∧
        ∃ w'', vol.readFile ⟨x.1.name, 0x20, x.2.start, x.2.size⟩ w' = .ok x.1.data w'' := by
  have hdisk := Volume.size_zeros_lt_diskLimit
  obtain ⟨vol, w, hmount⟩ := Volume.exists_mount_zeros (Device.keeps_memory 512) rfl rfl
  obtain ⟨hends, hread⟩ := session_read_back hmount hdisk Layout.narrow_bootDisk (by decide)
    (by decide) (by decide) parsed_of_mem_threeFiles
  obtain ⟨⟨done, cursor⟩, w', hok⟩ := hends Layout.uncut_bootDisk.bounded
  exact ⟨vol, w, hmount, done, cursor, w', hok, hread done cursor w' hok⟩

end FatImage
