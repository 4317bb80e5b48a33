import FatImage.Proofs.Directory

/-!
# Slots that are read and written

Apart from the search for a free one, a slot is a place for a record and nothing
else. `Shows` is what reading it answers, and that is settled by its thirty-two
bytes. `Recorded` is what a write leaves: the bytes of the record in the slot, and
every other byte as it was. As two slots have no byte in common, a slot shows
what was written to it last, wherever sectors begin and end.

Two things are lost on the way. A record whose name starts with a zero cannot be
told from none, so it is written but not shown. And a record has no place for the
fourteen bytes behind the attributes, so one that is read and written back
leaves zeros there.

All this is for a directory whose end is a place that 64 bits can count. If the
end is cut, a volume may be opened that has slots behind its image, and there no
record can be written.
-/

namespace FatImage

variable {σ τ : Type} {look : σ → ByteArray × τ} {w : World σ} {vol : Volume σ}

namespace Layout

/-- In a slot of `b'` there is the record, and every byte outside is that of `b`. -/
structure Recorded (l : Layout) (b b' : ByteArray) (slot : Nat) (r : Record) : Prop where
  size : b'.size = b.size
  record : ∀ j < 32, Bytes.byteAt b' (l.slotStart slot + j) = Bytes.byteAt r.encode j
  apart : ∀ x, x < l.slotStart slot ∨ l.slotStart slot + 32 ≤ x →
    Bytes.byteAt b' x = Bytes.byteAt b x

variable {l : Layout} {b b' : ByteArray} {slot t : Nat} {r : Record}

theorem recorded_overwrite (hfits : l.slotStart slot + 32 ≤ b.size) :
    l.Recorded b (Bytes.overwrite b (l.slotStart slot) r.encode) slot r := by
  have hsize := Record.size_encode r
  have hfits' : l.slotStart slot + r.encode.size ≤ b.size := by omega
  refine ⟨Bytes.size_overwrite hfits', fun j hj => ?_, fun x hx => ?_⟩
  · exact Bytes.byteAt_overwrite_of_inside hfits' (by omega)
  · exact Bytes.byteAt_overwrite_of_outside hfits' (by omega)

theorem Recorded.byteAt_slotStart (h : l.Recorded b b' slot r) :
    Bytes.byteAt b' (l.slotStart slot) = r.name.bytes[0]?.getD 0 := by
  have hfirst := h.record 0 (by omega)
  rw [Nat.add_zero, Record.byteAt_encode, if_pos (by omega)] at hfirst
  exact hfirst

theorem Recorded.recordAt_eq (h : l.Recorded b b' slot r)
    (hfits : l.slotStart slot + 32 ≤ b.size) : l.recordAt b' slot = r := by
  have hsize := Record.size_encode r
  have hslice : Bytes.slice b' (l.slotStart slot) 32 = r.encode := by
    rw [← hsize]
    exact Bytes.slice_eq (by rw [h.size]; omega) fun j hj => h.record j (by omega)
  rw [recordAt, hslice, Record.decode_encode]

/-- Two slots have no byte in common. -/
theorem Recorded.byteAt_other (h : l.Recorded b b' slot r) (hne : t ≠ slot) {j : Nat}
    (hj : j < 32) :
    Bytes.byteAt b' (l.slotStart t + j) = Bytes.byteAt b (l.slotStart t + j) := by
  refine h.apart _ ?_
  simp only [slotStart, recordSize]
  omega

theorem Recorded.recordAt_other (h : l.Recorded b b' slot r) (hne : t ≠ slot)
    (hfits : l.slotStart t + 32 ≤ b.size) : l.recordAt b' t = l.recordAt b t := by
  have hsize := h.size
  rw [recordAt, recordAt, Bytes.slice_congr (by omega) (by omega) fun _ => h.byteAt_other hne]

end Layout

namespace Volume

/-- Reading the slot answers the record, or that there is none. -/
def Shows (vol : Volume σ) (w : World σ) (slot : Nat) (r : Option Record) : Prop :=
  ∃ w', vol.readRecord slot w = .ok r w'

section

variable (h : vol.Stands look False) (hv : vol.image.length ≤ (look w.state).1.size)
variable {slot : Nat} (hslot : slot < vol.layout.slotCount)
include h hslot

theorem Stands.slot_end_le_length : vol.layout.slotStart slot + 32 ≤ vol.image.length :=
  Nat.le_trans (Layout.slotStart_end_le hslot) h.data

include hv

/-! ## What a slot shows -/

theorem Stands.shows_iff {r : Option Record} : vol.Shows w slot r ↔
    r = if Bytes.byteAt (look w.state).1 (vol.layout.slotStart slot) = 0 then none
      else some (vol.layout.recordAt (look w.state).1 slot) :=
  (h.readRecord (v := World.view look w) hv hslot).ok_iff rfl

theorem Stands.shows_none_iff : vol.Shows w slot none ↔
    Bytes.byteAt (look w.state).1 (vol.layout.slotStart slot) = 0 := by
  rw [h.shows_iff hv hslot]
  split
  · next hzero => exact ⟨fun _ => hzero, fun _ => rfl⟩
  · next hused => exact ⟨nofun, fun hzero => absurd hzero hused⟩

theorem Stands.shows_some_iff {r : Record} : vol.Shows w slot (some r) ↔
    Bytes.byteAt (look w.state).1 (vol.layout.slotStart slot) ≠ 0 ∧
      r = vol.layout.recordAt (look w.state).1 slot := by
  rw [h.shows_iff hv hslot]
  split
  · next hzero => exact ⟨nofun, fun hused => absurd hzero hused.1⟩
  · next hused =>
      rw [Option.some.injEq]
      exact ⟨fun hr => ⟨hused, hr⟩, fun hr => hr.2⟩

theorem Stands.exists_shows_iff : (∃ r, vol.Shows w slot (some r)) ↔
    Bytes.byteAt (look w.state).1 (vol.layout.slotStart slot) ≠ 0 := by
  constructor
  · rintro ⟨r, hr⟩
    exact ((h.shows_some_iff hv hslot).1 hr).1
  · intro hused
    exact ⟨_, (h.shows_some_iff hv hslot).2 ⟨hused, rfl⟩⟩

/-! ## What is left by a write -/

theorem Stands.exists_writeRecord (r : Record) : ∃ w', vol.writeRecord slot r w = .ok () w' ∧
    vol.layout.Recorded (look w.state).1 (look w'.state).1 slot r := by
  have hend := h.slot_end_le_length hslot
  have hwrite := Action.Ends.mono (h.writeRecord (v := World.view look w) hv hslot r)
    (fun _ _ hv' => hv') (fun _ _ he => he.1.2)
  obtain ⟨_, w', hok, hw'⟩ := hwrite.exists_ok rfl
  have hdisk : (look w'.state).1 = Bytes.overwrite (look w.state).1
      (vol.layout.slotStart slot) r.encode := congrArg View.disk hw'
  refine ⟨w', hok, ?_⟩
  rw [hdisk]
  exact Layout.recorded_overwrite (by omega)

variable {w' : World σ} {r : Record}
variable (hrecorded : vol.layout.Recorded (look w.state).1 (look w'.state).1 slot r)
include hrecorded

/-- The slot shows what was written to it, if its name does not start with a zero. -/
theorem Stands.shows_recorded :
    vol.Shows w' slot (if r.name.bytes[0]?.getD 0 = 0 then none else some r) := by
  have hend := h.slot_end_le_length hslot
  rw [h.shows_iff (by rw [hrecorded.size]; exact hv) hslot, hrecorded.byteAt_slotStart,
    hrecorded.recordAt_eq (by omega)]

omit hslot in
/-- Every other slot shows what it showed before. -/
theorem Stands.shows_of_recorded {t : Nat} (ht : t < vol.layout.slotCount) (hne : t ≠ slot)
    {r' : Option Record} : vol.Shows w t r' ↔ vol.Shows w' t r' := by
  have hend := h.slot_end_le_length ht
  have hfirst := hrecorded.byteAt_other hne (show 0 < 32 by omega)
  rw [Nat.add_zero] at hfirst
  rw [h.shows_iff hv ht, h.shows_iff (by rw [hrecorded.size]; exact hv) ht, hfirst,
    hrecorded.recordAt_other hne (by omega)]

end

end Volume

/-- One mirror, and a directory of two sectors that hold sixteen records and a half each. -/
def Layout.halfRecords : Layout where
  sectorSize := 528
  reservedSectors := 1
  mirrors := 1
  mirrorSectors := 1
  rootEntries := 32

end FatImage
