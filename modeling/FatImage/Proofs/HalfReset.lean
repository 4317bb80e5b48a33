import FatImage.Proofs.Directory

/-!
# A directory after a reset that failed

A volume may have been opened although 64 bits have no room for its places.
Its reset fails then, and by that time the directory may have been cleared at
a place where the mirrors are, which are reset behind it. So a reader can find
headers of mirrors for records, but never more than one.

For either the place of the directory is not on the image, and nothing is
read there. Or it was cleared, and of its first two slots one does not start
where a mirror does, since mirrors are further apart than slots. Such a slot
is still free, and it ends the directory for the reader (`Layout.Short`).
-/

namespace FatImage

variable {σ τ : Type} {look : σ → ByteArray × τ} {faulty : Prop} {v : View τ}
variable {vol : Volume σ} {l : Layout} {size x : Nat}

/-- One of the first two slots is free or not on the image, if there is such a slot. -/
def Layout.Short (l : Layout) (length : Nat) (b : ByteArray) : Prop :=
  ∃ k ≤ 1, k < l.slotCount →
    length < l.slotOffset k + recordSize ∨ Bytes.byteAt b (l.slotOffset k) = 0

/-! ## Reading -/

/-- A range that is read is on the image, and nothing changes. -/
theorem Image.Backed.readAt_stops {img : Image σ} (h : img.Backed look faulty)
    (hv : img.length ≤ v.disk.size) (o n : Nat) :
    (img.readAt o n).Ends (World.view look) v
      (fun bytes v' => o + n ≤ img.length ∧ bytes = Bytes.slice v.disk o n ∧ v' = v)
      (fun e _ => img.Stops faulty e) := by
  rw [readAt_eq]
  refine h.ends_ensureFits_bind (fun hfit => ?_)
    (fun _ stop hlt hle => Or.inr ⟨stop, hlt, hle, rfl⟩)
  have hread : (img.readFrom o n .empty).Reads look faulty v
      (.empty ++ Bytes.slice v.disk o n) := h.readFrom hv hfit
  rw [ByteArray.empty_append] at hread
  exact Action.Ends.mono hread (fun _ _ hv' => ⟨hfit, hv'⟩) (fun _ _ he => Or.inl he.1)

namespace Volume

theorem Opened.readRecord (h : vol.Opened look faulty) (hv : vol.image.length ≤ v.disk.size)
    (slot : Nat) :
    (vol.readRecord slot).Ends (World.view look) v
      (fun r v' => v' = v ∧ vol.layout.slotOffset slot + Layout.recordSize ≤ vol.image.length ∧
        (Bytes.byteAt v.disk (vol.layout.slotOffset slot) = 0 → r = none))
      (fun e _ => vol.image.Stops faulty e) := by
  refine (h.backed.readAt_stops hv _ _).bind ?_ (fun _ _ he => he)
  rintro _ v' ⟨hfit, rfl, rfl⟩
  refine Action.ends_pure ⟨rfl, hfit, fun hzero => ?_⟩
  have hsize : (Bytes.slice v'.disk (vol.layout.slotOffset slot) Layout.recordSize).size = 32 := by
    rw [Bytes.size_slice]
    rw [Layout.recordSize] at hfit ⊢
    omega
  rw [if_pos ((Record.isNeverUsed_iff (by omega)).2 _)]
  rw [Bytes.byteAt_slice (by decide)]
  exact hzero

/-- Whoever reads the directory does not come past a slot that is free or not there. -/
theorem Opened.recordsFrom (h : vol.Opened look faulty) (hv : vol.image.length ≤ v.disk.size)
    {k : Nat} (hk : k < vol.layout.slotCount →
      vol.image.length < vol.layout.slotOffset k + Layout.recordSize ∨
        Bytes.byteAt v.disk (vol.layout.slotOffset k) = 0) :
    ∀ {count slot : Nat} {front : Array Record}, slot + count = vol.layout.slotCount →
    slot ≤ k → front.size = slot →
    (vol.recordsFrom front count slot).Ends (World.view look) v (fun rs _ => rs.length ≤ k)
      (fun e _ => vol.image.Stops faulty e) := by
  intro count
  induction count with
  | zero =>
      intro slot front _ hle hfront
      refine Action.ends_pure ?_
      rw [Array.length_toList, hfront]
      exact hle
  | succ count ih =>
      intro slot front hcount hle hfront
      refine (h.readRecord hv slot).bind ?_ (fun _ _ he => he)
      rintro r _ ⟨rfl, hfit, hfree⟩
      cases r with
      | none =>
          refine Action.ends_pure ?_
          rw [Array.length_toList, hfront]
          exact hle
      | some r =>
          have hne : slot ≠ k := by
            rintro rfl
            rcases hk (by omega) with hout | hzero
            · omega
            · cases hfree hzero
          refine ih (by omega) (by omega) ?_
          rw [Array.size_push, hfront]

theorem Opened.records_of_short (h : vol.Opened look faulty)
    (hv : vol.image.length ≤ v.disk.size)
    (hshort : vol.layout.Short vol.image.length v.disk) :
    vol.records.Ends (World.view look) v (fun rs _ => rs.length ≤ 1)
      (fun e _ => vol.image.Stops faulty e) := by
  obtain ⟨k, hk, hfree⟩ := hshort
  exact (h.recordsFrom hv hfree (Nat.zero_add _) (Nat.zero_le k) rfl).mono
    (fun _ _ hrs => Nat.le_trans hrs hk) (fun _ _ he => he)

end Volume

/-! ## Resetting -/

/-- The disk has so many bytes, and those that are meant are zero. -/
def View.Blank (size : Nat) (p : Nat → Prop) (v : View τ) : Prop :=
  v.disk.size = size ∧ ∀ x, p x → Bytes.byteAt v.disk x = 0

namespace Image

variable {img : Image σ} {p : Nat → Prop} (h : img.Backed look False) (hlength : img.length ≤ size)
include h hlength

/-- Zeroing a range does no harm to bytes that are zero, whether or not it is refused. -/
theorem Backed.zeroRange_blank (hv : v.Blank size p) (o n : Nat) :
    (img.zeroRange o n).Ends (World.view look) v
      (fun _ v' => o + n ≤ img.length ∧ v'.Blank size p) (fun _ v' => v'.Blank size p) := by
  obtain ⟨hsize, hzero⟩ := hv
  rw [zeroRange_eq]
  refine h.ends_ensureFits_bind (fun hfit => ?_) (fun _ _ _ _ => ⟨hsize, hzero⟩)
  have hinside : o + (Bytes.zeros n).size ≤ v.disk.size := by
    rw [Bytes.size_zeros]
    omega
  refine (h.zeroFrom (by omega) hfit).mono ?_ (fun _ _ he => he.1.2.elim)
  rintro _ _ rfl
  refine ⟨hfit, (Bytes.size_overwrite hinside).trans hsize, fun x hx => ?_⟩
  simp only [Bytes.byteAt_overwrite hinside]
  split
  · exact Bytes.byteAt_zeros ..
  · exact hzero x hx

/-- Nor does writing to others. -/
theorem Backed.writeAt_blank {o : Nat} {data : ByteArray} (hv : v.Blank size p)
    (hout : ∀ x, p x → x < o ∨ o + data.size ≤ x) :
    (img.writeAt o data).Ends (World.view look) v (fun _ => View.Blank size p)
      (fun _ => View.Blank size p) := by
  obtain ⟨hsize, hzero⟩ := hv
  rw [writeAt_eq]
  refine h.ends_ensureFits_bind (fun hfit => ?_) (fun _ _ _ _ => ⟨hsize, hzero⟩)
  have hinside : o + data.size ≤ v.disk.size := by omega
  refine (h.writeFrom (by omega) hfit).mono ?_ (fun _ _ he => he.1.2.elim)
  rintro _ _ rfl
  refine ⟨(Bytes.size_overwrite hinside).trans hsize, fun x hx => ?_⟩
  simp only [Bytes.byteAt_overwrite_of_outside hinside (hout x hx)]
  exact hzero x hx

end Image

namespace Volume

section

variable {p : Nat → Prop} (h : vol.Opened look False) (hlength : vol.image.length ≤ size)
include h hlength

/-- Either the directory is cleared, or it is not on the image. -/
theorem Opened.clearDirectory_blank (hv : v.disk.size = size)
    (hp : ∀ x, p x → vol.layout.rootOffset ≤ x ∧
      x < vol.layout.rootOffset + vol.layout.rootBytes) :
    vol.clearDirectory.Ends (World.view look) v
      (fun _ v' => vol.layout.rootOffset + vol.layout.rootBytes ≤ vol.image.length ∧
        v'.Blank size p)
      (fun _ v' => vol.image.length < vol.layout.rootOffset + vol.layout.rootBytes ∧
        v'.disk.size = size) := by
  rw [Volume.clearDirectory, Image.zeroRange_eq]
  simp only [bind_assoc]
  refine h.backed.ends_ensureFits_bind (fun hfit => ?_) (fun hbehind _ _ _ => ⟨hbehind, hv⟩)
  have hinside : vol.layout.rootOffset + (Bytes.zeros vol.layout.rootBytes).size ≤
      v.disk.size := by
    rw [Bytes.size_zeros]
    omega
  refine (h.backed.zeroFrom (by omega) hfit).bind ?_ (fun _ _ he => he.1.2.elim)
  rintro _ _ rfl
  refine (ends_quiet rfl).mono ?_ (fun _ _ => False.elim)
  rintro _ _ rfl
  refine ⟨hfit, (Bytes.size_overwrite hinside).trans hv, fun x hx => ?_⟩
  simp only [Bytes.byteAt_overwrite hinside, Bytes.size_zeros]
  rw [if_pos (hp x hx), Bytes.byteAt_zeros]

variable (h32 : 32 ∣ vol.layout.sectorSize) (hx : ∀ x, p x → 32 ∣ x)
include h32 hx

/-- The header of a mirror is not written to a record that starts elsewhere. -/
theorem Opened.resetMirror_blank {i : Nat}
    (hi : vol.layout.mirrorStart i < 0x10000000000000000)
    (hne : ∀ x, p x → vol.layout.mirrorStart i ≠ x) (hv : v.Blank size p) :
    (vol.resetMirror i).Ends (World.view look) v
      (fun _ v' => vol.layout.mirrorStart (i + 1) < 0x10000000000000000 ∧ v'.Blank size p)
      (fun _ v' => v'.Blank size p) := by
  have hcounted : vol.image.length < 0x10000000000000000 :=
    Nat.lt_trans h.backed.counted (by decide)
  have hstart : 32 ∣ vol.layout.mirrorStart i :=
    Nat.dvd_trans h32 (vol.layout.dvd_mirrorStart i)
  have hheader : mediaHeader.size = 4 := Layout.length_mediaHeader
  rw [Volume.resetMirror, Layout.mirrorOffset_eq_cut64, Layout.cut64_of_lt hi,
    Layout.mirrorStart_succ]
  refine (h.backed.zeroRange_blank hlength hv _ _).bind ?_ (fun _ _ he => he)
  rintro _ v₁ ⟨hend, hv₁⟩
  refine (h.backed.writeAt_blank hlength hv₁ fun x hp => ?_).mono
    (fun _ _ hv₂ => ⟨Nat.lt_of_le_of_lt hend hcounted, hv₂⟩) (fun _ _ he => he)
  have hdvd := hx x hp
  have hother := hne x hp
  omega

theorem Opened.resetTable_blank (hnarrow : vol.layout.Narrow)
    (hne : ∀ i x, p x → vol.layout.mirrorStart i ≠ x) (hv : v.Blank size p) :
    vol.resetTable.Ends (World.view look) v (fun _ => View.Blank size p)
      (fun _ => View.Blank size p) := by
  refine (Action.ends_forEach (fun i (v' : View τ) =>
    vol.layout.mirrorStart i < 0x10000000000000000 ∧ v'.Blank size p) ?_ ⟨?_, hv⟩).bind ?_
    (fun _ _ he => he)
  · rintro i v' - - ⟨hi, hv'⟩
    exact h.resetMirror_blank hlength h32 hx hi (hne i) hv'
  · rw [Layout.mirrorStart, Nat.zero_mul, Nat.add_zero]
    exact hnarrow.tableOffset_lt
  · rintro _ v₁ ⟨-, hv₁⟩
    exact (ends_quiet rfl).mono (fun _ _ hv₂ => hv₂ ▸ hv₁) (fun _ _ => False.elim)

end

end Volume

/-! ## Which slot is free -/

theorem Layout.rootBytes_lt (hl : l.Narrow) (hs : 0 < l.sectorSize) :
    l.rootBytes < 0x200000000 := by
  have hsector := hl.sectorSize
  have hle := Nat.div_mul_le_self (cut32 (l.rootEntries * recordSize) + l.sectorSize - 1)
    l.sectorSize
  have hcut : cut32 (l.rootEntries * recordSize) < 0x100000000 := Nat.mod_lt _ (by decide)
  rw [rootBytes, rootSectors, ceilDiv]
  omega

/-- Mirrors are further apart than slots. -/
theorem Layout.exists_slot_ne_mirror (hroom : recordSize < l.mirrorBytes) :
    ∃ k ≤ 1, ∀ i, l.mirrorStart i ≠ l.rootOffset + k * recordSize := by
  by_cases hfirst : ∃ j, l.mirrorStart j = l.rootOffset
  · obtain ⟨j, hj⟩ := hfirst
    refine ⟨1, Nat.le_refl _, fun i hi => ?_⟩
    rcases Nat.lt_or_ge j i with hlt | hge
    · have hend := Layout.mirror_end_le (l := l) hlt
      omega
    · have hle := Layout.mirrorStart_mono (l := l) hge
      rw [recordSize] at hi
      omega
  · exact ⟨0, Nat.zero_le _, fun i hi => hfirst ⟨i, by omega⟩⟩

namespace Volume

section

variable (h : vol.Opened look False) (hnarrow : vol.layout.Narrow)
  (hlength : vol.image.length < diskLimit)
include h hnarrow hlength

/-- If the directory is not on the image, then it starts behind the end of the image. -/
theorem Opened.short_of_outside (b : ByteArray)
    (hout : vol.image.length < vol.layout.rootOffset + vol.layout.rootBytes) :
    vol.layout.Short vol.image.length b := by
  have hdata := h.data
  have hleast := h.least
  rw [leastSectorSize] at hleast
  have hbytes := Layout.rootBytes_lt hnarrow (by omega)
  have hplace : vol.layout.slotOffset 0 = Layout.cut64 (vol.layout.rootOffset + 0) := rfl
  have hcut : vol.layout.rootOffset < 0x10000000000000000 := Layout.cut64_lt _
  rw [Nat.add_zero, Layout.cut64_of_lt hcut] at hplace
  rw [Layout.dataOffset, Layout.cut64] at hdata
  rw [diskLimit] at hlength
  exact ⟨0, Nat.zero_le _, fun _ => Or.inl (by omega)⟩

/-- What a reset leaves that fails, a reader of the directory finds to be one record at most. -/
theorem Opened.reset_short (hv : vol.image.length ≤ v.disk.size)
    (hmirror : 0 < vol.layout.mirrorSectors) (h32 : 32 ∣ vol.layout.sectorSize) :
    vol.reset.Ends (World.view look) v (fun _ _ => True)
      (fun _ v' => v'.disk.size = v.disk.size ∧
        vol.layout.Short vol.image.length v'.disk) := by
  have hleast := h.least
  have hcounted : vol.image.length < 0x10000000000000000 :=
    Nat.lt_trans h.backed.counted (by decide)
  have hroom : vol.layout.sectorSize ≤ vol.layout.mirrorBytes := Nat.le_mul_of_pos_left _ hmirror
  obtain ⟨k, hk, hne⟩ := Layout.exists_slot_ne_mirror (l := vol.layout)
    (by rw [Layout.recordSize]; rw [leastSectorSize] at hleast; omega)
  have hroot : 32 ∣ vol.layout.rootOffset :=
    (Nat.dvd_mod_iff (by decide)).2 (Nat.dvd_trans h32 (vol.layout.dvd_mirrorStart _))
  -- the place of this slot stays zero once the directory is cleared
  refine Action.Ends.bind (h.clearDirectory_blank hv rfl
    (p := fun x => k < vol.layout.slotCount ∧
      x = vol.layout.rootOffset + k * Layout.recordSize) ?_) ?_ ?_
  · rintro _ ⟨hslot, rfl⟩
    have hend := Layout.slot_end_le hslot
    rw [Layout.recordSize] at hend ⊢
    omega
  · rintro _ v₁ ⟨hfit, hv₁⟩
    refine (h.resetTable_blank hv h32 ?_ hnarrow ?_ hv₁).mono (fun _ _ _ => trivial) ?_
    · rintro _ ⟨-, rfl⟩
      exact Nat.dvd_add hroot (Nat.dvd_mul_left _ _)
    · rintro i _ ⟨-, rfl⟩
      exact hne i
    · rintro _ v₂ ⟨hsize, hblank⟩
      refine ⟨hsize, k, hk, fun hslot => Or.inr ?_⟩
      have hend := Layout.slot_end_le hslot
      have hplace : vol.layout.slotOffset k = vol.layout.rootOffset + k * Layout.recordSize :=
        Layout.cut64_of_lt (by omega)
      rw [hplace]
      exact hblank _ ⟨hslot, rfl⟩
  · rintro _ v₁ ⟨hout, hsize⟩
    exact ⟨hsize, h.short_of_outside hnarrow hlength _ hout⟩

end

end Volume

end FatImage
