import FatImage.Proofs.Calls
import FatImage.Proofs.Fill

/-!
# What survives a failing device

A device may fail at any of its calls, and a run stops at the first failure.
Whatever was written until then stays, so the question is what a reader
makes of a disk that was left like that. The answer is that the reader does
not notice: the directory lists the files whose placement was reported, and
for each of them the chain is complete in every mirror and the bytes are
all there. What may be left of the file at which the run stopped lies in
links and clusters that belong to nobody.
-/

namespace FatImage

variable {σ τ φ : Type} {l : Layout} {m : Manifest} {files : List File}

/-- A disk that was left with these files on it. Mounted again, its
directory lists them, and nothing of any of them is missing. -/
structure Survive (l : Layout) (sectorSize : Nat) (left : ByteArray)
    (files : List File) : Prop where
  records : ∃ vol w w', (Volume.mount (Device.memory sectorSize) l).start left =
    (.ok vol, w) ∧ vol.records w = .ok (l.records files) w'
  chains : ∀ p ∈ l.located files, ∀ i < l.mirrors, ∀ j < l.clustersOf p.2,
    l.linkAt left i (p.1 + j) =
      if j + 1 = l.clustersOf p.2 then endOfChain else (p.1 + j + 1).toUInt16
  payloads : ∀ p ∈ l.located files,
    Bytes.slice left (l.payloadOffset p.1) p.2.data.size = p.2.data

theorem Volume.Stopped.survive {vol : Volume σ} {look : σ → ByteArray × τ} {faulty : Prop}
    {base : ByteArray} {v : View τ} {sectorSize : Nat} (hstands : vol.Whole look faulty)
    (hbase : base.size < Image.greatest)
    (haccepted : vol.layout.Accepted sectorSize base.size)
    (h : Volume.Stopped vol base faulty files v) :
    Survive vol.layout sectorSize v.disk files := by
  have hs := hstands.sectorSize_pos
  have hlegible := h.legible hstands
  have hsize := h.size_eq
  obtain ⟨b, hsound, -⟩ := h
  have hroom := hsound.room
  refine ⟨?_, ?_, ?_⟩
  · have hkeeps := Device.keeps_memory sectorSize
    rw [← hsize] at hbase haccepted
    obtain ⟨vol', w, hmount⟩ := Volume.exists_mount hkeeps (s := v.disk) hbase haccepted
    obtain ⟨hw, hl, hstands', hlength, -⟩ := Volume.of_mount hkeeps hbase hmount
      hstands.bounded
    have hlists : vol'.layout.Lists v.disk (vol.layout.records files) := by
      rw [hl]
      refine hlegible.lists hroom.slots ?_ hsound.names
      rw [hsize]
      exact hroom.reach.dataStart_le
    obtain ⟨w', hrecords, -⟩ :=
      (hstands'.records (v := ⟨v.disk, (), []⟩) hlength hlists).exists_ok hw
    exact ⟨vol', w, w', hmount, hrecords⟩
  · intro p hp i hi j hj
    exact hlegible.linkAt_eq hi hp hj
  · intro p hp
    refine hlegible.slice_payload hp ?_
    rw [hsize]
    exact Nat.le_trans (Layout.located_payload_le hs hp) hroom.reach.stored

/-- However a device fails: once the reset is done, a run leaves a disk with
the first of the loaded files on it, namely those that it reported as
placed, and with nothing of them missing. -/
theorem fill_survive (load : Loader τ) {plan : Device.FaultPlan φ}
    (honest : ∀ s, plan.claims s = none) {sectorSize : Nat} {disk : ByteArray} {s : φ} {t : τ}
    {vol : Volume ((ByteArray × φ) × τ)} {w w₁ : World ((ByteArray × φ) × τ)}
    (hmount : (Volume.mount (((Device.memory sectorSize).refusing plan).beside τ) l).start
      ((disk, s), t) = (.ok vol, w))
    (hreset : vol.reset w = .ok () w₁) (hdisk : disk.size < diskLimit) (hnarrow : l.Narrow)
    (hmirror : 0 < l.mirrorSectors) (h32 : 32 ∣ l.sectorSize)
    (hnames : ∀ e ∈ m.entries, e.name.Parsed) :
    ∃ k ≤ (loaded (load.answers m.entries t)).length, ∃ r w',
      (fill (((Device.memory sectorSize).refusing plan).beside τ) l m load.source).start
        ((disk, s), t) = (r, w') ∧
      w'.placed = (l.placements ((loaded (load.answers m.entries t)).take k)).map
        PlacedFile.placing ∧
      Survive l sectorSize w'.state.1.1 ((loaded (load.answers m.entries t)).take k) ∧
      (∀ report, r = .ok report → k = (loaded (load.answers m.entries t)).length) := by
  have hkeeps := ((Device.keeps_memory sectorSize).refusing honest).beside τ
  have hcounted : disk.size < Image.greatest := Nat.lt_trans hdisk (by decide)
  obtain ⟨hw, rfl, hopened, -⟩ := Volume.opened_of_mount hkeeps hcounted hmount
  have hlength : vol.image.length ≤ disk.size :=
    Volume.length_le_of_mount hkeeps hcounted hmount
  -- what was reset has its regions where they should be
  have hstands := (hopened.reset_or_stops (v := ⟨disk, t, []⟩) hlength hnarrow
    (Nat.lt_of_le_of_lt hlength hdisk)).resolve_right fun hstops => hstops.2.of_ok hw hreset
  obtain ⟨-, -, -, -, haccepted⟩ := Volume.of_mount hkeeps hcounted hmount hstands.bounded
  obtain ⟨hok, herror⟩ := Volume.Whole.run_of_reset (g := Prod.fst) load hstands h32
    hlength hmirror hnames hw hreset
  have hsurvive : ∀ (k : Nat) (w' : World ((ByteArray × φ) × τ)), Volume.Stopped vol disk
      (False ∨ ∃ c s, (plan.refuses c s).1 = true)
      ((loaded (load.answers m.entries t)).take k)
      (World.view (fun s => (s.1.1, s.2)) w') →
      w'.placed = (vol.layout.placements ((loaded (load.answers m.entries t)).take k)).map
        PlacedFile.placing ∧
      Survive vol.layout sectorSize w'.state.1.1
        ((loaded (load.answers m.entries t)).take k) := by
    intro k w' hstopped
    obtain ⟨b, hsound, -⟩ := id hstopped
    exact ⟨hsound.told, hstopped.survive hstands hcounted haccepted⟩
  rw [fill_of_mount hmount]
  cases hrun : vol.run m load.source w with
  | ok report w' =>
      have hfilled := hok report w' hrun
      have hsound := hfilled.sound
      rw [← List.take_length (l := loaded (load.answers m.entries t))] at hsound
      obtain ⟨htold, hleft⟩ := hsurvive _ w' hsound.stopped
      exact ⟨_, Nat.le_refl _, .ok report, w', rfl, htold, hleft, fun _ _ => rfl⟩
  | error e w' =>
      obtain ⟨k, hk, hstopped⟩ := herror e w' hrun
      obtain ⟨htold, hleft⟩ := hsurvive k w' hstopped
      have hk' : k ≤ (loaded (load.answers m.entries t)).length :=
        hk.elim Nat.le_of_lt fun h => Nat.le_of_eq h.1
      exact ⟨k, hk', .error e, w', rfl, htold, hleft, fun _ hr => by cases hr⟩

/-- The call of number 30 would write the link of the file `c` into the second mirror, so
the device fails where the mirrors are not the same. -/
theorem fill_survive_bootDisk :
    ∃ k ≤ 3, ∃ r w', (fill (Device.failingOnce 512 30 Unit) Layout.bootDisk fourEntries
        Loader.zeros.source).start ((Bytes.zeros 3000320, 0), ()) = (r, w') ∧
      w'.placed = (Layout.bootDisk.placements ((loaded fourAnswers).take k)).map
        PlacedFile.placing ∧
      Survive Layout.bootDisk 512 w'.state.1.1 ((loaded fourAnswers).take k) ∧
      (∀ report, r = .ok report → k = 3) := by
  obtain ⟨vol, w, w₁, hmount, hreset⟩ := Volume.exists_reset_bootDisk (k := 30) (by decide)
  exact fill_survive Loader.zeros (m := fourEntries) (fun _ => rfl) hmount hreset
    Volume.size_zeros_lt_diskLimit Layout.narrow_bootDisk (by decide) (by decide)
    parsed_of_mem_fourEntries

end FatImage
