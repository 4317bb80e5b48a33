import FatImage.Proofs.Mount
import FatImage.Proofs.Traffic

/-!
# Calls before the one that fails

A disk may fail at a single call and at no other (`FaultPlan.once`). Whether
an action comes past this call is a matter of how many calls it makes: as
long as they are fewer than are still to be carried out, it goes on as if
nothing failed. `Costs` bounds the calls of an action that way, and two
actions one after the other cost what both of them cost.

A reset writes whole sectors but for the headers of the mirrors, so its
calls can be counted: one for each piece that is zeroed, and two to patch a
header.
-/

namespace FatImage

variable {σ τ : Type}

/-- The plan by which the call of number `k` fails, and no other. -/
def Device.FaultPlan.once (k : Nat) : Device.FaultPlan Nat where
  refuses _ n := (n == k, n + 1)
  claims _ := none

/-- A disk in memory that refuses the call of number `k`, with a `τ` beside it. -/
abbrev Device.failingOnce (sectorSize k : Nat) (τ : Type) : Device ((ByteArray × Nat) × τ) :=
  ((memory sectorSize).refusing (.once k)).beside τ

namespace Device

variable {sectorSize k size : Nat}

/-- Any call but the one that fails is carried out as on the disk in memory. -/
theorem answer_failingOnce {c : Call} {a : c.Answer} {b b' : ByteArray} {n : Nat} {t : τ}
    (hc : (memory sectorSize).answer c b = (.ok a, b')) (hn : n ≠ k) :
    (failingOnce sectorSize k τ).answer c ((b, n), t) = (.ok a, (b', n + 1), t) := by
  have hcarried : (n == k) = false := beq_false_of_ne hn
  simp only [failingOnce, beside, refusing, FaultPlan.once, hcarried, hc]

end Device

/-- As long as the call that fails is not among the next `cost`, the action succeeds, has made
no more calls than these, and the disk has the size that it had. -/
def Action.Costs {α : Type} (x : Action ((ByteArray × Nat) × τ) VolumeError α)
    (k size cost : Nat) : Prop :=
  ∀ v : Traffic ((ByteArray × Nat) × τ), v.state.1.1.size = size → v.state.1.2 + cost ≤ k →
    x.Ends World.traffic v
      (fun _ v' => v'.state.1.1.size = size ∧ v'.state.1.2 ≤ v.state.1.2 + cost)
      (fun _ _ => False)

namespace Action

variable {k size cost cost' : Nat} {α β : Type}

theorem costs_pure (a : α) :
    (pure a : Action ((ByteArray × Nat) × τ) VolumeError α).Costs k size 0 :=
  fun _ hsize _ => ends_pure ⟨hsize, Nat.le_refl _⟩

theorem costs_note (n : Notice) :
    (note n : Action ((ByteArray × Nat) × τ) VolumeError Unit).Costs k size 0 := by
  intro v hsize _
  refine (ends_untold rfl).mono ?_ (fun _ _ => False.elim)
  rintro _ _ rfl
  exact ⟨hsize, Nat.le_refl _⟩

theorem Costs.bind {x : Action ((ByteArray × Nat) × τ) VolumeError α}
    {f : α → Action ((ByteArray × Nat) × τ) VolumeError β} (hx : x.Costs k size cost)
    (hf : ∀ a, (f a).Costs k size cost') : (x >>= f).Costs k size (cost + cost') := by
  intro v hsize hk
  refine (hx v hsize (by omega)).bind ?_ (fun _ _ => False.elim)
  rintro a v₁ ⟨hsize₁, hcount₁⟩
  refine (hf a v₁ hsize₁ (by omega)).mono ?_ (fun _ _ => False.elim)
  rintro _ v₂ ⟨hsize₂, hcount₂⟩
  exact ⟨hsize₂, by omega⟩

theorem costs_forEach {f : Nat → Action ((ByteArray × Nat) × τ) VolumeError Unit}
    {count first : Nat} (h : ∀ i, first ≤ i → i < first + count → (f i).Costs k size cost) :
    (forEach f count first).Costs k size (count * cost) := by
  induction count generalizing first with
  | zero =>
      rw [Nat.zero_mul]
      exact costs_pure ()
  | succ count ih =>
      rw [forEach, Nat.add_mul, Nat.one_mul, Nat.add_comm (count * cost)]
      exact (h first (Nat.le_refl _) (by omega)).bind fun _ =>
        ih fun i hi hi' => h i (by omega) (by omega)

/-- A call that a disk in memory carries out, and what comes behind it. -/
theorem costs_perform_bind {sectorSize : Nat} {c : Call}
    {f : c.Answer → Action ((ByteArray × Nat) × τ) VolumeError β}
    (hf : ∀ b : ByteArray, b.size = size → ∃ a b', b'.size = size ∧
      (Device.memory sectorSize).answer c b = (.ok a, b') ∧ (f a).Costs k size cost) :
    ((Device.failingOnce sectorSize k τ).perform c >>= f).Costs k size (cost + 1) := by
  rintro ⟨⟨⟨b, n⟩, t⟩, calls⟩ hsize hk
  obtain ⟨a, b', hsize', hanswer, hrest⟩ := hf b hsize
  have hn : n ≠ k := by
    simp only [] at hk
    omega
  have hd := Device.answer_failingOnce (t := t) hanswer hn
  refine Device.ends_call.bind ?_ ?_
  · rintro a' _ ⟨s, hd', rfl⟩
    obtain ⟨ha, rfl⟩ := Prod.mk.inj (hd.symm.trans hd')
    obtain rfl := Except.ok.inj ha
    refine (hrest _ hsize' (by simp only [] at hk ⊢; omega)).mono ?_ (fun _ _ => False.elim)
    rintro _ v' ⟨hv', hcount⟩
    exact ⟨hv', by simp only [] at hcount ⊢; omega⟩
  · rintro e _ ⟨-, why, s, hd', -⟩
    cases hd.symm.trans hd'

end Action

namespace Image

variable {img : Image ((ByteArray × Nat) × τ)} {k size pos length cost : Nat}
variable {data : ByteArray} (hdevice : img.device = Device.failingOnce img.sectorSize k τ)
include hdevice

theorem costs_writeSectors_bind {lba : Nat}
    {f : Unit → Action ((ByteArray × Nat) × τ) VolumeError Unit}
    (hdata : data.size % img.sectorSize = 0) (hfit : lba * img.sectorSize + data.size ≤ size)
    (hf : (f ()).Costs k size cost) :
    (img.writeSectors lba data >>= f).Costs k size (cost + 1) := by
  rw [writeSectors, hdevice]
  refine Action.costs_perform_bind fun b hb => ⟨(), _, ?_,
    Device.memory_write_eq_ok_iff.2 ⟨⟨hdata, by omega⟩, rfl⟩, hf⟩
  rw [Bytes.size_overwrite (by omega), hb]

/-- Whole sectors are written in one call. -/
theorem costs_writeAt_whole (hpos : pos % img.sectorSize = 0)
    (hdata : data.size % img.sectorSize = 0) (hsome : 0 < data.size)
    (hlength : pos + data.size ≤ img.length) (hfit : pos + data.size ≤ size) :
    (img.writeAt pos data).Costs k size 1 := by
  have hfront := img.frontWhole ⟨hpos, Nat.le_of_dvd hsome (Nat.dvd_of_mod_eq_zero hdata)⟩
  have hstart := Nat.div_mul_cancel (Nat.dvd_of_mod_eq_zero hpos)
  rw [hdata, Nat.sub_zero] at hfront
  rw [writeAt_eq, ensureFits, checkRange_eq_ok hlength]
  change (img.writeFrom pos data).Costs k size 1
  rw [hfront.writeFrom_eq,
    writeFrom_of_empty _ (by rw [Bytes.size_extract_rest, Nat.sub_self])]
  refine costs_writeSectors_bind hdevice ?_ ?_ (Action.costs_pure ())
  · rw [Bytes.size_extract_zero (Nat.le_refl _), hdata]
  · rw [Bytes.size_extract_zero (Nat.le_refl _), hstart]
    exact hfit

/-- A part of a sector is read and written. -/
theorem costs_writeAt_part (hpart : pos % img.sectorSize + data.size < img.sectorSize)
    (hsome : 0 < data.size) (hlength : pos + data.size ≤ img.length)
    (hfit : pos / img.sectorSize * img.sectorSize + img.sectorSize ≤ size) :
    (img.writeAt pos data).Costs k size 2 := by
  have hfront := img.frontPart (show data.size ≠ 0 by omega)
    (show ¬ (pos % img.sectorSize = 0 ∧ img.sectorSize ≤ data.size) by omega)
  have hall : img.inSector pos data.size = data.size := Nat.min_eq_right (by omega)
  rw [hall] at hfront
  rw [writeAt_eq, ensureFits, checkRange_eq_ok hlength]
  change (img.writeFrom pos data).Costs k size 2
  rw [hfront.writeFrom_eq, readSector, hdevice,
    writeFrom_of_empty _ (by rw [Bytes.size_extract_rest, Nat.sub_self])]
  refine Action.costs_perform_bind fun b hb => ?_
  have hread : (Device.memory img.sectorSize).answer
      (.read (pos / img.sectorSize) img.sectorSize) b =
        (.ok (Bytes.slice b (pos / img.sectorSize * img.sectorSize) img.sectorSize), b) :=
    Device.memory_read_eq_ok_iff.2 ⟨⟨Nat.mod_self _, by omega⟩, rfl, rfl⟩
  have hsize : (img.patched b pos data.size data).size = img.sectorSize :=
    size_patched (by omega) (Nat.le_refl _) (by omega)
  refine ⟨_, b, hb, hread, costs_writeSectors_bind hdevice ?_ ?_ (Action.costs_pure ())⟩
  · change (img.patched b pos data.size data).size % img.sectorSize = 0
    rw [hsize, Nat.mod_self]
  · change _ + (img.patched b pos data.size data).size ≤ size
    rw [hsize]
    exact hfit

/-- Sectors are zeroed in as many calls as it takes pieces to hold them. -/
theorem costs_zeroFrom (hpos : pos % img.sectorSize = 0) (hwhole : length % img.sectorSize = 0)
    (hlength : pos + length ≤ img.length) (hfit : pos + length ≤ size) :
    (img.zeroFrom pos length).Costs k size
      (Layout.ceilDiv length (img.sectorSize * zeroSectors)) := by
  have hs := img.sectorSize_pos
  have hpiece : 0 < img.sectorSize * zeroSectors := Nat.mul_pos hs (by decide)
  induction length using Nat.strongRecOn generalizing pos with
  | ind length ih =>
    rw [zeroFrom]
    split
    · next hempty =>
        rw [hempty, Layout.ceilDiv, Nat.zero_add, Nat.div_eq_of_lt (by omega)]
        exact Action.costs_pure ()
    · next hne =>
        have hmod : min length (img.sectorSize * zeroSectors) % img.sectorSize = 0 := by
          rcases Nat.le_total length (img.sectorSize * zeroSectors) with hle | hge
          · rw [Nat.min_eq_left hle, hwhole]
          · rw [Nat.min_eq_right hge, Nat.mul_mod_right]
        rw [Layout.ceilDiv_eq_succ hpiece (Nat.pos_of_ne_zero hne), Nat.add_comm]
        dsimp only
        have hle := Nat.min_le_left length (img.sectorSize * zeroSectors)
        have hn : 0 < min length (img.sectorSize * zeroSectors) := by omega
        generalize min length (img.sectorSize * zeroSectors) = n at hmod hle hn ⊢
        have hzeros := Bytes.size_zeros n
        have hleft : (length - n) % img.sectorSize = 0 :=
          Nat.mod_eq_zero_of_dvd (Nat.dvd_sub (Nat.dvd_of_mod_eq_zero hwhole)
            (Nat.dvd_of_mod_eq_zero hmod))
        refine (costs_writeAt_whole hdevice hpos (by rw [hzeros, hmod]) (by omega) (by omega)
          (by omega)).bind fun _ => ih (length - n) (by omega) ?_ hleft (by omega) (by omega)
        rw [Nat.add_mod, hpos, hmod, Nat.zero_add, Nat.zero_mod]

theorem costs_zeroRange (hpos : pos % img.sectorSize = 0) (hwhole : length % img.sectorSize = 0)
    (hlength : pos + length ≤ img.length) (hfit : pos + length ≤ size) :
    (img.zeroRange pos length).Costs k size
      (Layout.ceilDiv length (img.sectorSize * zeroSectors)) := by
  rw [zeroRange_eq, ensureFits, checkRange_eq_ok hlength]
  exact costs_zeroFrom hdevice hpos hwhole hlength hfit

end Image

namespace Volume

variable {vol : Volume ((ByteArray × Nat) × τ)} {k size : Nat}

/-- A reset zeroes the directory and every mirror, and patches a header into each of these. -/
theorem costs_reset (hdevice : vol.image.device = Device.failingOnce vol.image.sectorSize k τ)
    (hsector : vol.image.sectorSize = vol.layout.sectorSize)
    (hleast : leastSectorSize ≤ vol.layout.sectorSize) (hbounded : vol.layout.Bounded)
    (hmirror : 0 < vol.layout.mirrorSectors) (hdata : vol.layout.dataStart ≤ vol.image.length)
    (hsize : vol.image.length ≤ size) :
    vol.reset.Costs k size
      (Layout.ceilDiv vol.layout.rootBytes (vol.image.sectorSize * Image.zeroSectors) +
        vol.layout.mirrors *
          (Layout.ceilDiv vol.layout.mirrorBytes (vol.image.sectorSize * Image.zeroSectors) +
            2)) := by
  have hroot : vol.layout.dataStart = vol.layout.rootStart + vol.layout.rootBytes := rfl
  have hstart : ∀ i, vol.layout.mirrorStart i % vol.image.sectorSize = 0 := fun i =>
    Nat.mod_eq_zero_of_dvd (hsector ▸ vol.layout.dvd_mirrorStart i)
  have hrootBytes : vol.layout.rootBytes % vol.image.sectorSize = 0 := by
    rw [hsector, Layout.rootBytes, Nat.mul_mod_left]
  have hmirrorBytes : vol.layout.mirrorBytes % vol.image.sectorSize = 0 := by
    rw [hsector, Layout.mirrorBytes, Nat.mul_mod_left]
  have hheader : mediaHeader.size = 4 := Layout.length_mediaHeader
  have hroom : vol.layout.sectorSize ≤ vol.layout.mirrorBytes :=
    Nat.le_mul_of_pos_left _ hmirror
  rw [leastSectorSize] at hleast
  have hclear : vol.clearDirectory.Costs k size
      (Layout.ceilDiv vol.layout.rootBytes (vol.image.sectorSize * Image.zeroSectors) + 0) := by
    refine Action.Costs.bind ?_ fun _ => Action.costs_note _
    rw [hbounded.rootOffset_eq]
    exact Image.costs_zeroRange hdevice (hstart _) hrootBytes (by omega) (by omega)
  have htable : vol.resetTable.Costs k size (vol.layout.mirrors *
      (Layout.ceilDiv vol.layout.mirrorBytes (vol.image.sectorSize * Image.zeroSectors) + 2) +
        0) := by
    refine (Action.costs_forEach fun i _ hi => ?_).bind fun _ => Action.costs_note _
    have hend := Layout.mirror_end_le_root (show i < vol.layout.mirrors by omega)
    have hdiv := Nat.div_mul_cancel (Nat.dvd_of_mod_eq_zero (hstart i))
    rw [Volume.resetMirror, hbounded.mirrorOffset_eq (by omega)]
    refine (Image.costs_zeroRange hdevice (hstart i) hmirrorBytes (by omega) (by omega)).bind
      fun _ => Image.costs_writeAt_part hdevice ?_ (by omega) (by omega) ?_
    · rw [hstart, hheader]
      omega
    · rw [hdiv]
      omega
  exact hclear.bind fun _ => htable

/-- On a boot disk a reset makes thirteen calls, and the mount before it makes one. -/
theorem exists_reset_bootDisk (hk : 14 ≤ k) :
    ∃ vol w w₁, (Volume.mount (Device.failingOnce 512 k Unit) Layout.bootDisk).start
        ((Bytes.zeros 3000320, 0), ()) = (.ok vol, w) ∧ vol.reset w = .ok () w₁ := by
  have hsize := Bytes.size_zeros 3000320
  generalize Bytes.zeros 3000320 = disk at hsize ⊢
  have hcount : (Device.memory 512).answer .count disk = (.ok 5860, disk) := by
    change (Except.ok (disk.size / 512), disk) = _
    rw [hsize]
  have hfits : min Layout.bootDisk.dataOffset Image.greatest ≤
      min (5860 * Layout.bootDisk.sectorSize) Image.greatest := by decide
  obtain ⟨vol, w, hmount, hmounted, hw⟩ := exists_mounted
    (Device.answer_failingOnce (t := ()) hcount (show 0 ≠ k by omega)) ⟨by decide, rfl⟩ hfits
  have hl : vol.layout = Layout.bootDisk := hmounted.layout
  have hsector : vol.image.sectorSize = 512 := hmounted.sector
  have hlength : vol.image.length = 3000320 := hmounted.length
  have hreset := costs_reset (k := k) (by rw [hmounted.device, hsector])
    (by rw [hsector, hl]; rfl) (by rw [hl]; decide) (by rw [hl]; decide) (by rw [hl]; decide)
    (by rw [hl, hlength]; decide) (Nat.le_of_eq hlength)
  have hcost : Layout.ceilDiv Layout.bootDisk.rootBytes (512 * Image.zeroSectors) +
      Layout.bootDisk.mirrors *
        (Layout.ceilDiv Layout.bootDisk.mirrorBytes (512 * Image.zeroSectors) + 2) = 13 := by
    decide
  rw [hl, hsector, hcost] at hreset
  have hthirteen := hreset w.traffic (by rw [hw]; exact hsize) (by rw [hw]; exact hk)
  obtain ⟨_, w₁, hw₁, -⟩ := hthirteen.exists_ok rfl
  exact ⟨vol, w, w₁, hmount, hw₁⟩

end Volume

end FatImage
