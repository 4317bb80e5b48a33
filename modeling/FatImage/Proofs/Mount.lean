import FatImage.Proofs.OnDisk
import FatImage.Volume.Placement

/-!
# Mounting and resetting

Mounting checks once what everything after it relies on: the device has the
sectors of the layout, and the image has room up to the data region.
`Stands` is that fact about a mounted volume, and every lemma about the
actions of a volume starts from it.

What is checked is the place of the data region as it is computed. Where 64
bits have no room for that place the check says nothing, and the volume has
been opened (`Opened`) without being there. A reset finds out: it goes
through the regions, and the first that starts at a place that is cut has a
mirror before it that does not end on the image. So a volume that was reset
stands, whatever its layout is (`Opened.reset`).

A reset turns the disk into the picture of no files at all. The zeros and
the header of one mirror amount to a single overwrite with the empty table,
so the loop over the mirrors is `onMirrors` again.

The length of an image is cut at `Image.greatest`, the most that 64 bits can
count. No disk that fits into a memory comes near it, but an array of bytes
does not know that, so the length is a hypothesis wherever one is mounted.
Where places behind the data region's start count too, the disk is below
`diskLimit`, as every array of bytes and every file is.
-/

namespace FatImage

variable {σ τ : Type} {look : σ → ByteArray × τ} {faulty : Prop} {v : View τ}
variable {d : Device σ} {l : Layout}

/-- What no array of bytes and no file comes up to: its length has a sign. -/
def diskLimit : Nat := 0x8000000000000000

/-- The layout is accepted on a disk of `size` bytes in sectors of `sectorSize`
bytes: the sectors have its size, and everything before its data region is
there. -/
structure Layout.Accepted (l : Layout) (sectorSize size : Nat) : Prop where
  least : leastSectorSize ≤ l.sectorSize
  sector : l.sectorSize = sectorSize
  data : l.dataStart ≤ size / l.sectorSize * l.sectorSize

/-- The layout passes the check of a mount: it is accepted, as far as the place that is
computed for its data region says. -/
structure Layout.Passes (l : Layout) (sectorSize size : Nat) : Prop where
  least : leastSectorSize ≤ l.sectorSize
  sector : l.sectorSize = sectorSize
  data : l.dataOffset ≤ size / l.sectorSize * l.sectorSize

/-- What is there has a place that 64 bits can count. -/
theorem Layout.Accepted.bounded {sectorSize size : Nat} (h : l.Accepted sectorSize size)
    (hsize : size < Image.greatest) : l.Bounded := by
  have hdata := h.data
  have hle := Nat.div_mul_le_self size l.sectorSize
  have hgreatest : Image.greatest = 0xFFFFFFFFFFFFFFFF := rfl
  unfold Layout.Bounded
  omega

theorem Layout.Accepted.passes {sectorSize size : Nat} (h : l.Accepted sectorSize size)
    (hsize : size < Image.greatest) : l.Passes sectorSize size :=
  ⟨h.least, h.sector, (h.bounded hsize).dataOffset_eq ▸ h.data⟩

namespace Volume

variable {vol : Volume σ}

/-- The volume is on a device that keeps a disk, with the sectors of its layout, and has
passed the check of where its data region starts. -/
structure Opened (vol : Volume σ) (look : σ → ByteArray × τ) (faulty : Prop) :
    Prop where
  backed : vol.image.Backed look faulty
  sector : vol.image.sectorSize = vol.layout.sectorSize
  least : leastSectorSize ≤ vol.layout.sectorSize
  data : vol.layout.dataOffset ≤ vol.image.length

/-- The volume is on a device that keeps a disk, with the sectors of its
layout and room for everything before the data region. -/
structure Stands (vol : Volume σ) (look : σ → ByteArray × τ) (faulty : Prop) :
    Prop where
  backed : vol.image.Backed look faulty
  sector : vol.image.sectorSize = vol.layout.sectorSize
  least : leastSectorSize ≤ vol.layout.sectorSize
  data : vol.layout.dataStart ≤ vol.image.length

/-- The volume stands, and no place is cut that its clusters may have. -/
structure Whole (vol : Volume σ) (look : σ → ByteArray × τ) (faulty : Prop) : Prop
    extends vol.Stands look faulty where
  uncut : vol.layout.Uncut

theorem Opened.stands (h : vol.Opened look faulty) (hbounded : vol.layout.Bounded) :
    vol.Stands look faulty :=
  ⟨h.backed, h.sector, h.least, hbounded.dataOffset_eq ▸ h.data⟩

theorem Stands.bounded (h : vol.Stands look faulty) : vol.layout.Bounded := by
  have hdata := h.data
  have hcounted := h.backed.counted
  have hgreatest : Image.greatest = 0xFFFFFFFFFFFFFFFF := rfl
  unfold Layout.Bounded
  omega

theorem Stands.opened (h : vol.Stands look faulty) : vol.Opened look faulty :=
  ⟨h.backed, h.sector, h.least, h.bounded.dataOffset_eq ▸ h.data⟩

theorem Stands.sectorSize_pos (h : vol.Stands look faulty) : 0 < vol.layout.sectorSize :=
  Nat.lt_of_lt_of_le (by decide) h.least

theorem Stands.four_le_mirrorBytes (h : vol.Stands look faulty)
    (hmirror : 0 < vol.layout.mirrorSectors) : 4 ≤ vol.layout.mirrorBytes := by
  have hleast := h.least
  have hmul := Nat.mul_le_mul_right vol.layout.sectorSize hmirror
  rw [Nat.succ_mul, Nat.zero_mul, Nat.zero_add] at hmul
  rw [leastSectorSize] at hleast
  rw [Layout.mirrorBytes]
  omega

/-- No disk in memory is so long that the clusters behind its tables might be cut. -/
theorem Stands.whole (h : vol.Stands look faulty) (hnarrow : vol.layout.Narrow)
    (hlength : vol.image.length < diskLimit) : vol.Whole look faulty := by
  have hdata := h.data
  have hsector := hnarrow.sectorSize
  rw [diskLimit] at hlength
  exact ⟨h, Layout.uncut_of_le h.least (by omega)⟩

end Volume

/-! ## Mounting -/

/-- A device that keeps a disk is an image of as many bytes as there are in
whole sectors of the disk. -/
theorem Image.ends_ofDevice (h : d.Keeps look faulty) (hv : v.disk.size < greatest)
    {sectorSize : Nat} : (Image.ofDevice d sectorSize).Ends (World.view look) v
      (fun img v' => v' = v ∧ img.Backed look faulty ∧ img.sectorSize = sectorSize ∧
        img.length = v.disk.size / sectorSize * sectorSize ∧
        leastSectorSize ≤ sectorSize ∧ sectorSize = d.sectorSize)
      (fun _ v' => v' = v ∧
        (faulty ∨ ¬ (leastSectorSize ≤ sectorSize ∧ sectorSize = d.sectorSize))) := by
  unfold Image.ofDevice
  split
  · next hsize =>
      have hcount := h.ends_perform (c := .count) (v := v) (a := v.disk.size / d.sectorSize)
        (b := v.disk) rfl
      refine hcount.bind ?_ (fun _ _ he => ⟨he.2, Or.inl he.1.2⟩)
      intro sectors v' hv'
      obtain ⟨rfl, rfl⟩ := hv'
      rw [← hsize.2]
      have hle := Nat.div_mul_le_self v.disk.size sectorSize
      have hlength : min (v.disk.size / sectorSize * sectorSize) greatest =
          v.disk.size / sectorSize * sectorSize := Nat.min_eq_left (by omega)
      refine Action.ends_pure ⟨rfl, ⟨h, hsize.2.symm, ?_, ?_⟩, rfl, hlength, hsize.1, rfl⟩
      · simp only [hlength]
        exact Nat.dvd_mul_left _ _
      · simp only [hlength]
        omega
  · next hsize => exact Action.ends_throw ⟨rfl, Or.inr hsize⟩

namespace Volume

variable {vol : Volume σ}

/-- What is mounted has been opened, and a layout that passes is refused by a faulty
device only. -/
theorem ends_mount (h : d.Keeps look faulty) (hv : v.disk.size < Image.greatest) :
    (Volume.mount d l).Ends (World.view look) v
      (fun vol v' => v' = v ∧ vol.layout = l ∧ vol.Opened look faulty ∧
        vol.image.length = v.disk.size / l.sectorSize * l.sectorSize ∧
        l.sectorSize = d.sectorSize)
      (fun _ v' => v' = v ∧ (faulty ∨ ¬ l.Passes d.sectorSize v.disk.size)) := by
  have hopened : (Volume.ofDevice d l).Ends (World.view look) v
      (fun vol v' => v' = v ∧ vol.layout = l ∧ vol.image.Backed look faulty ∧
        vol.image.sectorSize = l.sectorSize ∧
        vol.image.length = v.disk.size / l.sectorSize * l.sectorSize ∧
        leastSectorSize ≤ l.sectorSize ∧ l.sectorSize = d.sectorSize)
      (fun _ v' => v' = v ∧ (faulty ∨ ¬ l.Passes d.sectorSize v.disk.size)) := by
    refine (Image.ends_ofDevice h hv).bind ?_ ?_
    · intro img v' hv'
      exact Action.ends_pure ⟨hv'.1, rfl, hv'.2⟩
    · intro e v' hv'
      exact ⟨hv'.1, hv'.2.imp_right fun hsize hl => hsize ⟨hl.least, hl.sector⟩⟩
  refine hopened.bind ?_ (fun _ _ he => he)
  intro vol v' hv'
  obtain ⟨rfl, rfl, hbacked, hsector, hlength, hleast, hsize⟩ := hv'
  refine Action.ends_ofExcept_bind ?_ ?_
  · intro _ hcheck
    have hdata := Image.le_length_of_checkRange hbacked.counted hcheck
    rw [Nat.zero_add] at hdata
    exact ends_quiet_bind rfl (Action.ends_pure ⟨rfl, rfl,
      ⟨hbacked, hsector, hleast, hdata⟩, hlength, hsize⟩)
  · intro e hcheck
    refine ⟨rfl, Or.inr fun hl => ?_⟩
    have hdata := hl.data
    rw [← hlength] at hdata
    rw [Image.checkRange_eq_ok (by omega)] at hcheck
    cases hcheck

section

variable (h : d.Keeps look faulty) {s : σ} {w : World σ} (hs : (look s).1.size < Image.greatest)
  (hmount : (Volume.mount d l).start s = (.ok vol, w))
include h hs hmount

theorem opened_of_mount : World.view look w = ⟨(look s).1, (look s).2, []⟩ ∧ vol.layout = l ∧
    vol.Opened look faulty ∧
    vol.image.length = (look s).1.size / l.sectorSize * l.sectorSize ∧
    l.sectorSize = d.sectorSize :=
  (ends_mount h (v := World.view look ⟨s, #[]⟩) hs).of_ok rfl (Action.start_eq_ok.1 hmount)

theorem length_of_mount :
    vol.image.length = (look s).1.size / l.sectorSize * l.sectorSize :=
  (opened_of_mount h hs hmount).2.2.2.1

theorem length_le_of_mount : vol.image.length ≤ (look s).1.size := by
  rw [length_of_mount h hs hmount]
  exact Nat.div_mul_le_self _ _

theorem of_mount (hbounded : l.Bounded) : World.view look w = ⟨(look s).1, (look s).2, []⟩ ∧
    vol.layout = l ∧ vol.Stands look faulty ∧ vol.image.length ≤ (look s).1.size ∧
    l.Accepted d.sectorSize (look s).1.size := by
  obtain ⟨hw, rfl, hopened, hlength, hsize⟩ := opened_of_mount h hs hmount
  have hstands := hopened.stands hbounded
  exact ⟨hw, rfl, hstands, length_le_of_mount h hs hmount,
    ⟨hopened.least, hsize, hlength ▸ hstands.data⟩⟩

theorem whole_of_mount (hu : l.Uncut) : World.view look w = ⟨(look s).1, (look s).2, []⟩ ∧
    vol.layout = l ∧ vol.Whole look faulty ∧ vol.image.length ≤ (look s).1.size ∧
    l.Accepted d.sectorSize (look s).1.size := by
  obtain ⟨hw, rfl, hstands, hlength, haccepted⟩ := of_mount h hs hmount hu.bounded
  exact ⟨hw, rfl, ⟨hstands, hu⟩, hlength, haccepted⟩

end

section

variable (h : d.Keeps look False) {s : σ} (hs : (look s).1.size < Image.greatest)
include h hs

theorem exists_mount_of_passes (hpasses : l.Passes d.sectorSize (look s).1.size) :
    ∃ vol w, (Volume.mount d l).start s = (.ok vol, w) := by
  have hends := (ends_mount h (v := World.view look ⟨s, #[]⟩) hs).mono
    (fun _ _ hv' => hv') (fun _ _ hv' => hv'.2.elim id (fun hl => hl hpasses))
  obtain ⟨vol, w, hok, -⟩ := hends.exists_ok rfl
  exact ⟨vol, w, Action.start_eq_ok.2 hok⟩

theorem exists_mount (haccepted : l.Accepted d.sectorSize (look s).1.size) :
    ∃ vol w, (Volume.mount d l).start s = (.ok vol, w) :=
  exists_mount_of_passes h hs (haccepted.passes hs)

end

theorem accepted_bootDisk {size : Nat} (h : 2375680 ≤ size) :
    Layout.bootDisk.Accepted 512 size where
  least := by decide
  sector := rfl
  data := by
    have hdata : Layout.bootDisk.dataStart = 2375680 := by decide
    have hsector : Layout.bootDisk.sectorSize = 512 := rfl
    rw [hdata, hsector]
    omega

/-! A disk of zeros, somewhat longer than the data region needs. -/

theorem size_zeros_lt_diskLimit : (Bytes.zeros 3000320).size < diskLimit := by
  rw [Bytes.size_zeros]
  decide

theorem size_zeros_lt_greatest : (Bytes.zeros 3000320).size < Image.greatest :=
  Nat.lt_trans size_zeros_lt_diskLimit (by decide)

theorem exists_mount_zeros (h : d.Keeps look False) (hd : d.sectorSize = 512) {s : σ}
    {t : τ} (hs : look s = (Bytes.zeros 3000320, t)) :
    ∃ vol w, (Volume.mount d Layout.bootDisk).start s = (.ok vol, w) := by
  have haccepted : Layout.bootDisk.Accepted 512 (Bytes.zeros 3000320).size :=
    accepted_bootDisk (by rw [Bytes.size_zeros]; decide)
  rw [← hd] at haccepted
  refine exists_mount h ?_ ?_
  · simp only [hs]
    exact size_zeros_lt_greatest
  · simp only [hs]
    exact haccepted

/-! ## Resetting -/

/-- A mirror of zeros with the header is the table of no files. -/
theorem overwrite_mediaHeader {b : ByteArray} {o : Nat} (hroom : 4 ≤ l.mirrorBytes)
    (hb : o + l.mirrorBytes ≤ b.size) :
    Bytes.overwrite (Bytes.overwrite b o (Bytes.zeros l.mirrorBytes)) o mediaHeader =
      Bytes.overwrite b o (l.table []) := by
  have hheader : mediaHeader.size = 4 := Layout.length_mediaHeader
  have htable : (l.table []).size = l.mirrorBytes := Layout.size_table hroom
  have hzeros : o + (Bytes.zeros l.mirrorBytes).size ≤ b.size := by
    rwa [Bytes.size_zeros]
  have hbounded : o + mediaHeader.size ≤
      (Bytes.overwrite b o (Bytes.zeros l.mirrorBytes)).size := by
    rw [Bytes.size_overwrite hzeros]
    omega
  have htable' : o + (l.table []).size ≤ b.size := by omega
  refine Bytes.ext_byteAt ?_ fun x _ => ?_
  · rw [Bytes.size_overwrite hbounded, Bytes.size_overwrite hzeros,
      Bytes.size_overwrite htable']
  · rw [Bytes.byteAt_overwrite hbounded, Bytes.byteAt_overwrite hzeros,
      Bytes.byteAt_overwrite htable', Bytes.size_zeros, htable]
    split
    · rw [if_pos (by omega), Layout.byteAt_table_of_lt_four (by omega)]
    · split
      · rw [Bytes.byteAt_zeros]
        exact (Layout.byteAt_table_of_le (by rw [Layout.nextCluster_nil]; omega)).symm
      · rfl

theorem Stands.resetMirror (h : vol.Stands look faulty)
    (hv : vol.image.length ≤ v.disk.size) (hroom : 4 ≤ vol.layout.mirrorBytes) {i : Nat}
    (hi : i < vol.layout.mirrors) :
    (vol.resetMirror i).Ends (World.view look) v
      (fun _ v' => v' = { v with
        disk := Bytes.overwrite v.disk (vol.layout.mirrorStart i) (vol.layout.table []) })
      (fun e _ => e = .deviceFailed ∧ faulty) := by
  have hend := Layout.mirror_end_le_root hi
  have hroot := Layout.rootStart_le_data vol.layout
  have hdata := h.data
  have hheader : mediaHeader.size = 4 := Layout.length_mediaHeader
  unfold Volume.resetMirror
  rw [h.bounded.mirrorOffset_eq (Nat.le_of_lt hi)]
  refine (h.backed.zeroRange hv (by omega)).bind ?_ (fun _ _ he => he.1)
  intro _ v₁ hv₁
  subst hv₁
  have hsize : (Bytes.overwrite v.disk (vol.layout.mirrorStart i)
      (Bytes.zeros vol.layout.mirrorBytes)).size = v.disk.size :=
    Bytes.size_overwrite (by rw [Bytes.size_zeros]; omega)
  refine (h.backed.writeAt (by rw [hsize]; exact hv) (by omega)).mono ?_ (fun _ _ he => he.1)
  intro _ v₂ hv₂
  rw [hv₂]
  simp only [overwrite_mediaHeader hroom (show vol.layout.mirrorStart i +
    vol.layout.mirrorBytes ≤ v.disk.size by omega)]

theorem Stands.clearDirectory (h : vol.Stands look faulty)
    (hv : vol.image.length ≤ v.disk.size) :
    vol.clearDirectory.Ends (World.view look) v
      (fun _ v' => v' = { v with
        disk := Bytes.overwrite v.disk vol.layout.rootStart (Bytes.zeros vol.layout.rootBytes) })
      (fun e _ => e = .deviceFailed ∧ faulty) := by
  have hdata := h.data
  have hend : vol.layout.dataStart = vol.layout.rootStart + vol.layout.rootBytes := rfl
  unfold Volume.clearDirectory
  rw [h.bounded.rootOffset_eq]
  refine (h.backed.zeroRange hv (by omega)).bind ?_ (fun _ _ he => he.1)
  intro _ v₁ hv₁
  exact (ends_quiet rfl).mono (fun _ _ hv₂ => hv₂.trans hv₁) (fun _ _ => False.elim)

/-- Every mirror gets the table of no files, as long as there is room for a header in it. -/
theorem Stands.resetTable (h : vol.Stands look faulty)
    (hv : vol.image.length ≤ v.disk.size)
    (hroom : 0 < vol.layout.mirrors → 4 ≤ vol.layout.mirrorBytes) :
    vol.resetTable.Ends (World.view look) v
      (fun _ v' => v' = { v with
        disk := vol.layout.onMirrors v.disk 0 (vol.layout.table []) vol.layout.mirrors })
      (fun e _ => e = .deviceFailed ∧ faulty) := by
  have hdata := h.data
  have hroot := Layout.rootStart_le_data vol.layout
  -- before the round of mirror `i` those below it have the empty table
  have hloop : (Action.forEach vol.resetMirror vol.layout.mirrors 0).Ends (World.view look) v
      (fun _ v' => v' = { v with
        disk := vol.layout.onMirrors v.disk 0 (vol.layout.table []) (0 + vol.layout.mirrors) })
      (fun e _ => e = .deviceFailed ∧ faulty) := by
    refine Action.ends_forEach (fun i v' => v' = { v with
        disk := vol.layout.onMirrors v.disk 0 (vol.layout.table []) i }) ?_ rfl
    intro i v' _ hi hv'
    subst hv'
    have hroom' := hroom (by omega)
    have htable : (vol.layout.table []).size = vol.layout.mirrorBytes :=
      Layout.size_table hroom'
    have hround := Layout.size_onMirrors (l := vol.layout) (o := 0) (k := i)
      (d := vol.layout.table []) (b := v.disk) (by omega) (by omega) (by omega)
    refine (h.resetMirror (by simp only [hround]; exact hv) hroom' (by omega)).mono ?_
      (fun _ _ he => he)
    intro _ v₂ hv₂
    rw [hv₂, Layout.onMirrors_succ, Nat.add_zero]
  refine hloop.bind ?_ (fun _ _ he => he)
  intro _ v₂ hv₂
  rw [Nat.zero_add] at hv₂
  exact (ends_quiet rfl).mono (fun _ _ hv₃ => hv₃.trans hv₂) (fun _ _ => False.elim)

/-- A reset clears the directory first, and then the table. -/
theorem Stands.reset_regions (h : vol.Stands look faulty)
    (hv : vol.image.length ≤ v.disk.size)
    (hroom : 0 < vol.layout.mirrors → 4 ≤ vol.layout.mirrorBytes) :
    vol.reset.Ends (World.view look) v
      (fun _ v' => v' = { v with
        disk := vol.layout.onMirrors
          (Bytes.overwrite v.disk vol.layout.rootStart (Bytes.zeros vol.layout.rootBytes)) 0
          (vol.layout.table []) vol.layout.mirrors })
      (fun e _ => e = .deviceFailed ∧ faulty) := by
  have hdata := h.data
  have hend : vol.layout.dataStart = vol.layout.rootStart + vol.layout.rootBytes := rfl
  have hsize : (Bytes.overwrite v.disk vol.layout.rootStart
      (Bytes.zeros vol.layout.rootBytes)).size = v.disk.size :=
    Bytes.size_overwrite (by rw [Bytes.size_zeros]; omega)
  refine (h.clearDirectory hv).bind ?_ (fun _ _ he => he)
  intro _ v₁ hv₁
  subst hv₁
  exact h.resetTable (by simp only [hsize]; exact hv) hroom

/-- A reset leaves the picture of no files, unless the device fails. -/
theorem Stands.reset (h : vol.Stands look faulty) (hv : vol.image.length ≤ v.disk.size)
    (hroom : 4 ≤ vol.layout.mirrorBytes) :
    vol.reset.Ends (World.view look) v
      (fun _ v' => v' = { v with disk := vol.layout.picture v.disk [] })
      (fun e _ => e = .deviceFailed ∧ faulty) := by
  have hdir : Bytes.zeros vol.layout.rootBytes = vol.layout.directory [] := by
    rw [Layout.directory, Bytes.padded]
    exact ByteArray.empty_append.symm
  refine (h.reset_regions hv fun _ => hroom).mono ?_ (fun _ _ he => he)
  intro _ v' hv'
  rw [hv', hdir]
  rfl

/-! ## Resetting what may not fit -/

end Volume

/-- Why an action stops that needs bytes of the image which may not be there. -/
def Image.Stops (img : Image σ) (faulty : Prop) (e : VolumeError) : Prop :=
  (e = .deviceFailed ∧ faulty) ∨
    ∃ stop, img.length < stop ∧ stop ≤ greatest ∧ e = .imageTooSmall stop img.length

section

variable {img : Image σ} (h : img.Backed look faulty) (hv : img.length ≤ v.disk.size)
include h

/-- Whoever checks a range goes on if it is on the image, and else stops without a call. -/
theorem Image.Backed.ends_ensureFits_bind {α : Type} {o n : Nat} {f : Unit → Action σ VolumeError α}
    {post : α → View τ → Prop} {fail : VolumeError → View τ → Prop}
    (hinside : o + n ≤ img.length → (f ()).Ends (World.view look) v post fail)
    (hbehind : img.length < o + n → ∀ stop, img.length < stop → stop ≤ greatest →
      fail (.imageTooSmall stop img.length) v) :
    Action.Ends (img.ensureFits o n >>= f) (World.view look) v post fail := by
  refine Action.ends_ofExcept_bind ?_ ?_
  · intro _ hcheck
    exact hinside (Image.le_length_of_checkRange h.counted hcheck)
  · intro e hcheck
    obtain ⟨hlt, rfl⟩ := Image.checkRange_eq_error_iff.1 hcheck
    exact hbehind (Nat.lt_of_lt_of_le hlt (Nat.min_le_left _ _)) _ hlt (Nat.min_le_right _ _)

include hv

theorem Image.Backed.zeroRange_stops (o n : Nat) :
    (img.zeroRange o n).Ends (World.view look) v
      (fun _ v' => o + n ≤ img.length ∧
        v' = { v with disk := Bytes.overwrite v.disk o (Bytes.zeros n) })
      (fun e _ => img.Stops faulty e) := by
  rw [Image.zeroRange_eq]
  refine h.ends_ensureFits_bind (fun hfit => ?_)
    (fun _ stop hlt hle => Or.inr ⟨stop, hlt, hle, rfl⟩)
  exact (h.zeroFrom hv hfit).mono (fun _ _ hv' => ⟨hfit, hv'⟩) (fun _ _ he => Or.inl he.1)

theorem Image.Backed.writeAt_stops (o : Nat) (data : ByteArray) :
    (img.writeAt o data).Ends (World.view look) v
      (fun _ v' => o + data.size ≤ img.length ∧
        v' = { v with disk := Bytes.overwrite v.disk o data })
      (fun e _ => img.Stops faulty e) := by
  rw [Image.writeAt_eq]
  refine h.ends_ensureFits_bind (fun hfit => ?_)
    (fun _ stop hlt hle => Or.inr ⟨stop, hlt, hle, rfl⟩)
  exact (h.writeFrom hv hfit).mono (fun _ _ hv' => ⟨hfit, hv'⟩) (fun _ _ he => Or.inl he.1)

end

namespace Volume

variable {vol : Volume σ}

theorem Opened.resetMirror (h : vol.Opened look faulty) (hv : vol.image.length ≤ v.disk.size)
    (i : Nat) :
    (vol.resetMirror i).Ends (World.view look) v
      (fun _ v' => vol.layout.mirrorOffset i + vol.layout.mirrorBytes ≤ vol.image.length ∧
        vol.image.length ≤ v'.disk.size)
      (fun e _ => vol.image.Stops faulty e) := by
  refine (h.backed.zeroRange_stops hv _ _).bind ?_ (fun _ _ he => he)
  intro _ v₁ hv₁
  obtain ⟨hend, rfl⟩ := hv₁
  have hzeroed : (Bytes.overwrite v.disk (vol.layout.mirrorOffset i)
      (Bytes.zeros vol.layout.mirrorBytes)).size = v.disk.size :=
    Bytes.size_overwrite (by rw [Bytes.size_zeros]; omega)
  refine (h.backed.writeAt_stops (by simp only [hzeroed]; exact hv) _ _).mono ?_
    (fun _ _ he => he)
  intro _ v₂ hv₂
  obtain ⟨hfit, rfl⟩ := hv₂
  refine ⟨hend, ?_⟩
  rw [Bytes.size_overwrite (by simp only [hzeroed]; omega), hzeroed]
  exact hv

theorem Opened.clearDirectory (h : vol.Opened look faulty) (hv : vol.image.length ≤ v.disk.size) :
    vol.clearDirectory.Ends (World.view look) v
      (fun _ v' => vol.layout.rootOffset + vol.layout.rootBytes ≤ vol.image.length ∧
        vol.image.length ≤ v'.disk.size)
      (fun e _ => vol.image.Stops faulty e) := by
  refine (h.backed.zeroRange_stops hv _ _).bind ?_ (fun _ _ he => he)
  intro _ v₁ hv₁
  obtain ⟨hroot, rfl⟩ := hv₁
  refine (ends_quiet rfl).mono ?_ (fun _ _ => False.elim)
  rintro _ v₂ rfl
  refine ⟨hroot, ?_⟩
  rw [Bytes.size_overwrite (by rw [Bytes.size_zeros]; omega)]
  exact hv

/-- A volume that was reset stands: its mirrors were found on the image one by one, and
so none of them has a place that is cut. -/
theorem Opened.reset (h : vol.Opened look faulty) (hv : vol.image.length ≤ v.disk.size)
    (hnarrow : vol.layout.Narrow) :
    vol.reset.Ends (World.view look) v (fun _ _ => vol.Stands look faulty)
      (fun e _ => vol.image.Stops faulty e) := by
  have hcounted : vol.image.length < 0x10000000000000000 :=
    Nat.lt_trans h.backed.counted (by decide)
  refine (h.clearDirectory hv).bind ?_ (fun _ _ he => he)
  rintro _ v₁ ⟨hroot, hv₁⟩
  -- mirror `i` starts where it should before the round in which it is reset
  have hloop : (Action.forEach vol.resetMirror vol.layout.mirrors 0).Ends (World.view look) v₁
      (fun _ v' => vol.layout.mirrorStart (0 + vol.layout.mirrors) < 0x10000000000000000 ∧
        vol.image.length ≤ v'.disk.size)
      (fun e _ => vol.image.Stops faulty e) := by
    refine Action.ends_forEach (fun i (v' : View τ) =>
      vol.layout.mirrorStart i < 0x10000000000000000 ∧ vol.image.length ≤ v'.disk.size)
      ?_ ⟨?_, hv₁⟩
    · rintro i v' - - ⟨hstart, hv'⟩
      refine (h.resetMirror hv' i).mono ?_ (fun _ _ he => he)
      rintro _ v₂ ⟨hend, hv₂⟩
      rw [Layout.mirrorOffset_eq_cut64, Layout.cut64_of_lt hstart,
        ← Layout.mirrorStart_succ] at hend
      exact ⟨Nat.lt_of_le_of_lt hend hcounted, hv₂⟩
    · rw [Layout.mirrorStart, Nat.zero_mul, Nat.add_zero]
      exact hnarrow.tableOffset_lt
  refine hloop.bind ?_ (fun _ _ he => he)
  rintro _ v₂ ⟨hstart, -⟩
  rw [Nat.zero_add] at hstart
  refine (ends_quiet rfl).mono ?_ (fun _ _ => False.elim)
  rintro _ _ -
  have hplace : vol.layout.rootOffset = vol.layout.rootStart := Layout.cut64_of_lt hstart
  rw [hplace] at hroot
  exact ⟨h.backed, h.sector, h.least, hroot⟩

/-- So the reset of a volume is either that of one that stands, or does not come to its end. -/
theorem Opened.reset_or_stops (h : vol.Opened look faulty)
    (hv : vol.image.length ≤ v.disk.size) (hnarrow : vol.layout.Narrow)
    (hlength : vol.image.length < diskLimit) :
    vol.Whole look faulty ∨ ¬ vol.layout.Bounded ∧
      vol.reset.Ends (World.view look) v (fun _ _ => False)
        (fun e _ => vol.image.Stops faulty e) := by
  by_cases hbounded : vol.layout.Bounded
  · exact Or.inl ((h.stands hbounded).whole hnarrow hlength)
  · refine Or.inr ⟨hbounded, (h.reset hv hnarrow).mono ?_ (fun _ _ he => he)⟩
    intro _ _ hstands
    exact hbounded hstands.bounded

/-- A run whose reset does not come to its end fails for the same cause, and only flushes. -/
theorem Opened.run_of_reset_stops (h : vol.Opened look False)
    {fail : VolumeError → View τ → Prop}
    (hreset : vol.reset.Ends (World.view look) v (fun _ _ => False) fail) (m : Manifest)
    (source : Source σ) :
    (vol.run m source).Ends (World.view look) v (fun _ _ => False) fail := by
  have hbody : (vol.reset >>= fun _ => vol.placeAll source {} m.entries).Ends (World.view look) v
      (fun _ _ => False) fail :=
    hreset.bind (fun _ _ hv => hv.elim) (fun _ _ he => he)
  refine hbody.attempt_bind (fun _ _ hv => hv.elim) fun e v₁ he => ?_
  refine Action.Ends.attempt_bind h.backed.flush ?_ ?_
  · rintro _ v₂ ⟨-, rfl⟩
    exact Action.ends_throw he
  · rintro _ v₂ ⟨⟨-, hf⟩, -⟩
    exact hf.elim

end Volume

/-! A layout with so many mirrors that what follows them starts, cut to 64 bits, in the middle of
the first one: it is opened on a disk of five sectors. -/

/-- The mirrors end 1024 bytes behind what 64 bits can count. -/
def Layout.cutRoot : Layout where
  sectorSize := 512
  reservedSectors := 1
  mirrors := 66963369
  mirrorSectors := 538037401
  rootEntries := 16

namespace Volume

variable {vol : Volume σ}

/-- What is opened of it on five sectors, where places are those that are computed. -/
structure OpenedCut (vol : Volume σ) (look : σ → ByteArray × τ) : Prop
    extends vol.Opened look False where
  layout : vol.layout = Layout.cutRoot
  length : vol.image.length = 2560

/-- A reset clears the second sector of the first mirror, takes it for the directory, and
then does not find the first mirror on the image. -/
theorem OpenedCut.reset (h : vol.OpenedCut look) (hv : v.disk.size = 2560) :
    vol.reset.Ends (World.view look) v (fun _ _ => False)
      (fun e v' => e = .imageTooSmall 275475149824 2560 ∧
        v' = { v with disk := Bytes.overwrite v.disk 1024 (Bytes.zeros 512) }) := by
  have hroot : vol.layout.rootOffset = 1024 := by rw [h.layout]; decide
  have hbytes : vol.layout.rootBytes = 512 := by rw [h.layout]; decide
  have hmirror : vol.image.checkRange (vol.layout.mirrorOffset 0) vol.layout.mirrorBytes =
      .error (.imageTooSmall 275475149824 2560) := by
    rw [h.layout, ← h.length]
    exact Image.checkRange_eq_error (by rw [h.length]; decide) (by decide)
  have hmirrors : vol.layout.mirrors = 66963368 + 1 := by rw [h.layout]; rfl
  have hclear : vol.clearDirectory.Ends (World.view look) v
      (fun _ v' => v' = { v with disk := Bytes.overwrite v.disk 1024 (Bytes.zeros 512) })
      (fun _ _ => False) := by
    rw [Volume.clearDirectory, hroot, hbytes]
    refine (h.backed.zeroRange (Nat.le_of_eq (h.length.trans hv.symm))
      (by rw [h.length]; decide)).bind ?_
      (fun _ _ he => he.1.2)
    rintro _ v₁ rfl
    exact (ends_quiet rfl).mono (fun _ _ hv₂ => hv₂) (fun _ _ => False.elim)
  refine hclear.bind ?_ (fun _ _ => False.elim)
  rintro _ v₁ rfl
  rw [Volume.resetTable, hmirrors, Action.forEach, Volume.resetMirror,
    Image.zeroRange_eq_throw hmirror]
  exact Action.ends_throw ⟨rfl, rfl⟩

end Volume

end FatImage
