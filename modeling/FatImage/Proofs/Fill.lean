import FatImage.Proofs.Run

/-!
# Filling a disk draws a picture

On a disk in memory nothing fails but what has to: a run ends with an image
that is a function of the layout, of the image before, and of the files that
were placed. Which files these are depends on the loader and on where the
run had to stop, and on nothing else: they are the first few of those whose
bytes could be had.

`Fills` says this in full, with what is told on the way and what the report
of a run that succeeds has in it.
-/

namespace FatImage

variable {σ τ : Type} {d : Device σ} {l : Layout} {m : Manifest}

theorem fill_outcome {source : Source σ} {s : σ} {vol : Volume σ} {w : World σ}
    (h : (Volume.mount d l).start s = (.ok vol, w)) :
    (fill d l m source).start s = (vol.run m source).outcome w := by
  rw [Action.start_eq_outcome] at h ⊢
  exact Action.outcome_bind_of_ok h

theorem fill_of_mount {source : Source σ} {s : σ} {vol : Volume σ} {w : World σ}
    (h : (Volume.mount d l).start s = (.ok vol, w)) :
    (fill d l m source).start s = match vol.run m source w with
      | .ok report w' => (.ok report, w')
      | .error e w' => (.error e, w') := by
  rw [fill_outcome h, Action.outcome]
  cases vol.run m source w <;> rfl

theorem fill_of_not_mounted {source : Source σ} {s : σ} {e : VolumeError} {w : World σ}
    (h : (Volume.mount d l).start s = (.error e, w)) :
    (fill d l m source).start s = (.error e, w) := by
  rw [Action.start_eq_outcome] at h ⊢
  exact Action.outcome_bind_of_error h

/-- What filling `disk` ends with: the first `k` of the files that could be
loaded are placed, all of them just if the run succeeds, and the image is
the picture of them. There was room for them, and no size was cut. -/
structure Fills (l : Layout) (disk : ByteArray)
    (answers : List (Entry × Except String ByteArray)) (k : Nat)
    (r : Except VolumeError Report) (w : World (ByteArray × τ)) : Prop where
  count : k ≤ (loaded answers).length
  image : w.state.1 = l.picture disk ((loaded answers).take k)
  room : l.Room disk.size ((loaded answers).take k)
  sizes : ∀ f ∈ (loaded answers).take k, f.data.size < 0x100000000
  told : w.placed = (l.placements ((loaded answers).take k)).map PlacedFile.placing
  report : ∀ report, r = .ok report → k = (loaded answers).length ∧
    report.placed.toList = l.placements (loaded answers) ∧
    report.skipped.toList = skipped answers ∧
    report.next.cluster.toNat = l.nextCluster (loaded answers)
  stopped : ∀ e, r = .error e → k < (loaded answers).length

theorem Volume.Sound.fills {vol : Volume (ByteArray × τ)} {disk : ByteArray}
    {answers : List (Entry × Except String ByteArray)} {k : Nat}
    {r : Except VolumeError Report} {w : World (ByteArray × τ)}
    (hstands : vol.Whole (fun s => (s.1, s.2)) False) (hk : k ≤ (loaded answers).length)
    (h : Volume.Sound vol disk ((loaded answers).take k) (World.view (fun s => (s.1, s.2)) w))
    (hreport : ∀ report, r = .ok report → k = (loaded answers).length ∧
      Volume.Tells vol report (loaded answers) (skipped answers))
    (hstopped : ∀ e, r = .error e → k < (loaded answers).length) :
    Fills vol.layout disk answers k r w where
  count := hk
  image := h.holds.eq_picture hstands.sectorSize_pos h.room
  room := h.room
  sizes := h.sizes
  told := h.told
  report report hr := by
    obtain ⟨hk', htells⟩ := hreport report hr
    exact ⟨hk', htells.placed, htells.skipped, htells.next⟩
  stopped := hstopped

/-- Filling a disk in memory refines drawing the picture of the files placed:
whether the run succeeds or stops at some file, every byte of the image is
settled, and a run that succeeds reports exactly the placements and the
files that were skipped. A run that comes to no file at all has failed in
its reset, and that happens just where the tables do not fit on the disk. -/
theorem fill_picture (load : Loader τ) {sectorSize : Nat} {disk : ByteArray} {t : τ}
    {vol : Volume (ByteArray × τ)} {w : World (ByteArray × τ)}
    (hmount : (Volume.mount ((Device.memory sectorSize).beside τ) l).start (disk, t) =
      (.ok vol, w))
    (hdisk : disk.size < diskLimit) (hnarrow : l.Narrow) (hmirror : 0 < l.mirrorSectors)
    (h32 : 32 ∣ l.sectorSize) (hnames : ∀ e ∈ m.entries, e.name.Parsed) :
    ∃ r w', (fill ((Device.memory sectorSize).beside τ) l m load.source).start (disk, t) =
        (r, w') ∧
      (l.Bounded → ∃ k, Fills l disk (load.answers m.entries t) k r w') ∧
      (¬ l.Bounded → ∃ e w₁, vol.reset w = .error e w₁ ∧ r = .error e) := by
  have hkeeps : ((Device.memory sectorSize).beside τ).Keeps (fun s => (s.1, s.2)) False :=
    (Device.keeps_memory sectorSize).beside τ
  have hcounted : disk.size < Image.greatest := Nat.lt_trans hdisk (by decide)
  obtain ⟨hw, rfl, hopened, -⟩ := Volume.opened_of_mount hkeeps hcounted hmount
  have hlength : vol.image.length ≤ disk.size :=
    Volume.length_le_of_mount hkeeps hcounted hmount
  rw [fill_of_mount hmount]
  rcases hopened.reset_or_stops (v := ⟨disk, t, []⟩) hlength hnarrow
    (Nat.lt_of_le_of_lt hlength hdisk) with hstands | ⟨hbounded, hstops⟩
  · have hreset := (hstands.reset (v := ⟨disk, t, []⟩) hlength
      (hstands.four_le_mirrorBytes hmirror)).mono (fun _ _ hv' => hv') (fun _ _ he => he.2)
    obtain ⟨_, w₁, hw₁, -⟩ := hreset.exists_ok hw
    obtain ⟨hok, herror⟩ := Volume.Whole.run_of_reset (g := fun disk => disk) load
      hstands h32 hlength hmirror hnames hw hw₁
    cases hrun : vol.run m load.source w with
    | ok report w' =>
        have hfilled := hok report w' hrun
        refine ⟨.ok report, w', rfl, fun _ =>
          ⟨(loaded (load.answers m.entries t)).length, ?_⟩, fun hnot => ?_⟩
        · refine Volume.Sound.fills hstands (Nat.le_refl _) ?_ ?_ (fun e he => by cases he)
          · rw [List.take_length]
            exact hfilled.sound
          · intro report' hreport
            cases hreport
            exact ⟨rfl, hfilled.tells⟩
        · exact absurd hstands.bounded hnot
    | error e w' =>
        obtain ⟨k, hk, hstopped⟩ := herror e w' hrun
        have hk' : k < (loaded (load.answers m.entries t)).length :=
          hk.resolve_right fun h => h.2
        refine ⟨.error e, w', rfl, fun _ => ⟨k, ?_⟩, fun hnot => ?_⟩
        · exact Volume.Sound.fills hstands (Nat.le_of_lt hk') hstopped.sound
            (fun report hr => by cases hr) (fun _ _ => hk')
        · exact absurd hstands.bounded hnot
  · cases hreset : vol.reset w with
    | ok _ w₁ => exact (hstops.of_ok hw hreset).elim
    | error e w₁ =>
        obtain ⟨w', hrun⟩ := Volume.run_of_reset_error hreset m load.source
        rw [hrun]
        exact ⟨.error e, w', rfl, fun h => absurd h hbounded, fun _ => ⟨e, w₁, rfl, rfl⟩⟩

/-! A run over four entries: a file of one cluster, one that is not there, one of three
clusters, and one for which a disk of three megabytes has no room. -/

/-- Has bytes for every entry that has a placeholder: as many zeros. -/
def Loader.zeros : Loader Unit := fun e t =>
  (e.placeholder.elim (.error "gone") fun n => .ok (Bytes.zeros n.toNat), t)

def fourEntries : Manifest :=
  ⟨[⟨1, ⟨.letterA, "a", some 3⟩⟩, ⟨2, ⟨.letterB, "b", none⟩⟩,
    ⟨3, ⟨.letterC, "c", some 1500⟩⟩, ⟨4, ⟨.letterB, "d", some 1000000⟩⟩]⟩

def fourAnswers : List (Entry × Except String ByteArray) :=
  [(⟨.letterA, "a", some 3⟩, .ok (Bytes.zeros 3)), (⟨.letterB, "b", none⟩, .error "gone"),
    (⟨.letterC, "c", some 1500⟩, .ok (Bytes.zeros 1500)),
    (⟨.letterB, "d", some 1000000⟩, .ok (Bytes.zeros 1000000))]

theorem parsed_of_mem_fourEntries : ∀ e ∈ fourEntries.entries, e.name.Parsed := by
  have hnames : fourEntries.entries.map (·.name) =
      [.letterA, .letterB, .letterC, .letterB] := rfl
  intro e he
  have hname := List.mem_map_of_mem (f := (·.name)) he
  rw [hnames] at hname
  simp only [List.mem_cons, List.not_mem_nil, or_false] at hname
  rcases hname with h | h | h | h
  · exact h ▸ ShortName.parsed_letterA
  · exact h ▸ ShortName.parsed_letterB
  · exact h ▸ ShortName.parsed_letterC
  · exact h ▸ ShortName.parsed_letterB

theorem fill_picture_bootDisk :
    ∃ k r w', (fill ((Device.memory 512).beside Unit) Layout.bootDisk fourEntries
        Loader.zeros.source).start (Bytes.zeros 3000320, ()) = (r, w') ∧
      Fills Layout.bootDisk (Bytes.zeros 3000320) fourAnswers k r w' := by
  obtain ⟨vol, w, hmount⟩ := Volume.exists_mount_zeros (s := (Bytes.zeros 3000320, ()))
    ((Device.keeps_memory 512).beside Unit) rfl (by dsimp only)
  obtain ⟨r, w', hfill, hfills, -⟩ := fill_picture Loader.zeros (m := fourEntries) hmount
    Volume.size_zeros_lt_diskLimit Layout.narrow_bootDisk (by decide) (by decide)
    parsed_of_mem_fourEntries
  obtain ⟨k, hk⟩ := hfills Layout.uncut_bootDisk.bounded
  exact ⟨k, r, w', hfill, hk⟩

end FatImage
