import FatImage.Proofs.Backed
import FatImage.Proofs.Overwrite
import FatImage.Proofs.Scratch

/-!
# Byte ranges on a device that keeps a disk

The specification of the layer between bytes and sectors. On an image whose
device keeps a disk, reading a range is one slice of the disk, and writing
or zeroing a range is one overwrite; how the range lies across sectors is
no longer seen.

Only a faulty device can fail inside the image. A read that fails leaves
the disk as it was. A write that fails is torn: the disk has the bytes up
to the start of the write, or up to the end of one of its sectors, and not
one byte more. In particular a write inside a single sector happens or does
not happen.
-/

namespace FatImage

/-- `b'` is `b` after a write of `d` at `o` that broke off before it was
complete, at the start or between two sectors. -/
def Bytes.Torn (sectorSize : Nat) (b : ByteArray) (o : Nat) (d b' : ByteArray) :
    Prop :=
  ∃ k < d.size, (k = 0 ∨ (o + k) % sectorSize = 0) ∧
    b' = overwrite b o (d.extract 0 k)

namespace Bytes

variable {sectorSize o : Nat} {b b' d : ByteArray}

theorem size_extract_zero {k : Nat} (h : k ≤ d.size) : (d.extract 0 k).size = k := by
  rw [ByteArray.size_extract]; omega

theorem size_extract_rest (d : ByteArray) (n : Nat) : (d.extract n d.size).size = d.size - n := by
  rw [ByteArray.size_extract, Nat.min_self]

theorem torn_self (hd : 0 < d.size) : Torn sectorSize b o d b :=
  ⟨0, hd, Or.inl rfl, (overwrite_of_size_eq_zero (size_extract_zero (by omega))).symm⟩

/-- A write that broke off behind its first `n` bytes, which end a sector. -/
theorem Torn.after {n : Nat} (hb : o + d.size ≤ b.size) (hn : n ≤ d.size)
    (hend : n < d.size → (o + n) % sectorSize = 0)
    (h : Torn sectorSize (overwrite b o (d.extract 0 n)) (o + n)
      (d.extract n d.size) b') : Torn sectorSize b o d b' := by
  obtain ⟨k, hk, hsector, rfl⟩ := h
  rw [ByteArray.size_extract] at hk
  refine ⟨n + k, by omega, Or.inr ?_, ?_⟩
  · rcases hsector with rfl | hsector
    · exact hend (by omega)
    · rwa [← Nat.add_assoc]
  · rw [ByteArray.extract_extract, Nat.add_zero, show min (n + k) d.size = n + k by omega]
    exact overwrite_overwrite (by omega) (by omega) hb

theorem Torn.of_front {n : Nat} (hn : n ≤ d.size)
    (h : Torn sectorSize b o (d.extract 0 n) b') : Torn sectorSize b o d b' := by
  obtain ⟨k, hk, hsector, rfl⟩ := h
  rw [size_extract_zero hn] at hk
  refine ⟨k, by omega, hsector, ?_⟩
  rw [ByteArray.extract_extract, Nat.zero_add, Nat.zero_add, Nat.min_eq_left (by omega)]

/-- A write inside a single sector that fails does not happen at all. -/
theorem Torn.eq_of_inside (h : Torn sectorSize b o d b')
    (hd : o % sectorSize + d.size ≤ sectorSize) : b' = b := by
  obtain ⟨k, hk, hsector, rfl⟩ := h
  have hk0 : k = 0 := by
    rcases hsector with h0 | hsector
    · exact h0
    · rw [Nat.add_mod, Nat.mod_eq_of_lt (a := k) (by omega),
        Nat.mod_eq_of_lt (by omega)] at hsector
      omega
  subst hk0
  exact overwrite_of_size_eq_zero (size_extract_zero (by omega))

end Bytes

namespace Action

variable {σ τ α β : Type} {look : σ → ByteArray × τ} {faulty : Prop} {v : View τ}

/-- Where `v` is seen, `x` answers `a` and changes nothing, and only a faulty
device makes it fail. -/
def Reads (x : Action σ VolumeError α) (look : σ → ByteArray × τ) (faulty : Prop)
    (v : View τ) (a : α) : Prop :=
  x.Ends (World.view look) v (fun a' v' => a' = a ∧ v' = v)
    (fun e v' => (e = .deviceFailed ∧ faulty) ∧ v' = v)

/-- Where `v` is seen, `x` overwrites the bytes from `o` on with `d`; only a
faulty device makes it fail, and then the write is torn. -/
def Writes (x : Action σ VolumeError Unit) (look : σ → ByteArray × τ)
    (faulty : Prop) (sectorSize : Nat) (v : View τ) (o : Nat) (d : ByteArray) : Prop :=
  x.Ends (World.view look) v
    (fun _ v' => v' = { v with disk := Bytes.overwrite v.disk o d })
    (fun e v' => (e = .deviceFailed ∧ faulty) ∧
      ∃ b, Bytes.Torn sectorSize v.disk o d b ∧ v' = { v with disk := b })

theorem Reads.bind {x : Action σ VolumeError α} {f : α → Action σ VolumeError β}
    {a : α} {post : β → View τ → Prop} {fail : VolumeError → View τ → Prop}
    (h : x.Reads look faulty v a) (hok : (f a).Ends (World.view look) v post fail)
    (hfail : faulty → fail .deviceFailed v) :
    Ends (x >>= f) (World.view look) v post fail := by
  refine Ends.bind h ?_ ?_
  · intro a' v' hv'
    obtain ⟨rfl, rfl⟩ := hv'
    exact hok
  · intro e v' hv'
    obtain ⟨⟨rfl, hf⟩, rfl⟩ := hv'
    exact hfail hf

theorem Reads.exists_ok {x : Action σ VolumeError α} {a : α}
    (h : x.Reads look False v a) {w : World σ} (hw : World.view look w = v) :
    ∃ w', x w = .ok a w' ∧ World.view look w' = v := by
  have hends := Ends.mono h (fun _ _ hv' => hv') (fun _ _ hv' => hv'.1.2)
  obtain ⟨a', w', hok, rfl, hv'⟩ := hends.exists_ok hw
  exact ⟨w', hok, hv'⟩

/-- What an action that cannot fail answers. -/
theorem Reads.ok_iff {x : Action σ VolumeError α} {a a' : α}
    (h : x.Reads look False v a) {w : World σ} (hw : World.view look w = v) :
    (∃ w', x w = .ok a' w') ↔ a' = a := by
  obtain ⟨w', hok, -⟩ := h.exists_ok hw
  constructor
  · rintro ⟨w'', hok'⟩
    rw [hok] at hok'
    cases hok'
    rfl
  · rintro rfl
    exact ⟨w', hok⟩

/-- Two writes of adjoining ranges, the first of which ends a sector unless it
is all there is to write. -/
theorem Writes.append {x rest : Action σ VolumeError Unit} {sectorSize o n : Nat}
    {d : ByteArray} (hx : x.Writes look faulty sectorSize v o (d.extract 0 n))
    (hrest : rest.Writes look faulty sectorSize
      { v with disk := Bytes.overwrite v.disk o (d.extract 0 n) } (o + n)
      (d.extract n d.size))
    (hb : o + d.size ≤ v.disk.size) (hn : n ≤ d.size)
    (hend : n < d.size → (o + n) % sectorSize = 0) :
    (x >>= fun _ => rest).Writes look faulty sectorSize v o d := by
  refine Ends.bind hx ?_ ?_
  · intro _ v₁ hv₁
    subst hv₁
    refine Ends.mono hrest ?_ ?_
    · intro _ v₂ hv₂
      rw [hv₂, Bytes.overwrite_overwrite hn (Nat.le_refl _) hb,
        ByteArray.extract_zero_size]
    · intro e v₂ hv₂
      obtain ⟨he, b, hb', hv₂⟩ := hv₂
      exact ⟨he, b, hb'.after hb hn hend, hv₂⟩
  · intro e v₁ hv₁
    obtain ⟨he, b, hb', hv₁⟩ := hv₁
    exact ⟨he, b, hb'.of_front hn, hv₁⟩

end Action

namespace Image

variable {σ τ : Type} {img : Image σ} {look : σ → ByteArray × τ} {faulty : Prop}
variable {v : View τ}

/-- The image of a device that keeps a disk: whole sectors, and fewer bytes
than the number that stands for everything greater. -/
structure Backed (img : Image σ) (look : σ → ByteArray × τ) (faulty : Prop) :
    Prop where
  keeps : img.device.Keeps look faulty
  sector : img.device.sectorSize = img.sectorSize
  whole : img.sectorSize ∣ img.length
  counted : img.length < greatest

theorem checkRange_eq_ok_iff {o n : Nat} :
    img.checkRange o n = .ok () ↔ min (o + n) greatest ≤ img.length := by
  unfold checkRange
  simp only []
  split
  · next hlt => exact ⟨nofun, fun h => absurd hlt (Nat.not_lt.2 h)⟩
  · next hle => exact ⟨fun _ => Nat.not_lt.1 hle, fun _ => rfl⟩

theorem checkRange_eq_error_iff {o n : Nat} {e : VolumeError} :
    img.checkRange o n = .error e ↔ img.length < min (o + n) greatest ∧
      e = .imageTooSmall (min (o + n) greatest) img.length := by
  unfold checkRange
  simp only []
  split
  · next hlt =>
      rw [Except.error.injEq]
      exact ⟨fun he => ⟨hlt, he.symm⟩, fun he => he.2.symm⟩
  · next hle => exact ⟨nofun, fun h => absurd h.1 hle⟩

theorem checkRange_eq_ok {o n : Nat} (h : o + n ≤ img.length) :
    img.checkRange o n = .ok () :=
  checkRange_eq_ok_iff.2 (Nat.le_trans (Nat.min_le_left _ _) h)

theorem le_length_of_checkRange (hcounted : img.length < greatest) {o n : Nat}
    (hc : img.checkRange o n = .ok ()) : o + n ≤ img.length := by
  have hle := checkRange_eq_ok_iff.1 hc
  omega

theorem checkRange_eq_error {o n : Nat} (h : img.length < o + n) (hcounted : o + n ≤ greatest) :
    img.checkRange o n = .error (.imageTooSmall (o + n) img.length) := by
  rw [checkRange_eq_error_iff, Nat.min_eq_left hcounted]
  exact ⟨h, rfl⟩

/-! An access whose range is refused makes no call at all. -/

section

variable {o n : Nat} {data : ByteArray} {e : VolumeError}

theorem writeAt_eq_throw (h : img.checkRange o data.size = .error e) :
    img.writeAt o data = throw e := by
  rw [writeAt_eq, ensureFits, h]
  rfl

theorem zeroRange_eq_throw (h : img.checkRange o n = .error e) :
    img.zeroRange o n = throw e := by
  rw [zeroRange_eq, ensureFits, h]
  rfl

end

theorem sector_le_length (hwhole : img.sectorSize ∣ img.length) {pos : Nat}
    (hpos : pos < img.length) :
    pos / img.sectorSize * img.sectorSize + img.sectorSize ≤ img.length := by
  obtain ⟨k, hk⟩ := hwhole
  have hlt : pos / img.sectorSize < k := by
    rw [Nat.div_lt_iff_lt_mul img.sectorSize_pos, Nat.mul_comm k, ← hk]
    exact hpos
  calc pos / img.sectorSize * img.sectorSize + img.sectorSize
      = (pos / img.sectorSize + 1) * img.sectorSize := by rw [Nat.add_mul, Nat.one_mul]
    _ ≤ k * img.sectorSize := Nat.mul_le_mul_right _ hlt
    _ = img.length := by rw [Nat.mul_comm, ← hk]

theorem Backed.readSector (h : img.Backed look faulty) {lba : Nat}
    (hlba : lba * img.sectorSize + img.sectorSize ≤ v.disk.size) :
    (img.readSector lba).Reads look faulty v
      (Bytes.slice v.disk (lba * img.sectorSize) img.sectorSize) := by
  refine h.keeps.ends_perform (c := .read lba img.sectorSize) (b := v.disk) ?_
  rw [h.sector, Device.memory_read_eq_ok_iff]
  exact ⟨⟨Nat.mod_self _, hlba⟩, rfl, rfl⟩

/-! ## Reading -/

theorem Backed.readFrom (h : img.Backed look faulty) (hv : img.length ≤ v.disk.size)
    {pos length : Nat} {front : ByteArray} (hfit : pos + length ≤ img.length) :
    (img.readFrom pos length front).Reads look faulty v
      (front ++ Bytes.slice v.disk pos length) := by
  induction length using Nat.strongRecOn generalizing pos front with
  | ind length ih =>
    rw [Image.readFrom]
    split
    · next hempty =>
        subst hempty
        rw [Bytes.slice_zero, ByteArray.append_empty]
        exact Action.ends_pure ⟨rfl, rfl⟩
    · next hne =>
        have hsector := sector_le_length h.whole (show pos < img.length by omega)
        have hpos := Nat.div_add_mod' pos img.sectorSize
        have hlt := Nat.mod_lt pos img.sectorSize_pos
        have hchunk : img.inSector pos length =
            min (img.sectorSize - pos % img.sectorSize) length := rfl
        have hcut : Bytes.slice (Bytes.slice v.disk
            (pos / img.sectorSize * img.sectorSize) img.sectorSize)
            (pos % img.sectorSize) (img.inSector pos length) =
            Bytes.slice v.disk pos (img.inSector pos length) := by
          rw [Bytes.slice_slice (by omega), hpos]
        have hrest := @ih (length - img.inSector pos length) (by omega)
          (pos + img.inSector pos length)
          (front ++ Bytes.slice v.disk pos (img.inSector pos length)) (by omega)
        rw [ByteArray.append_assoc, Bytes.slice_append_slice,
          Nat.add_sub_cancel' (by omega)] at hrest
        refine (h.readSector (by omega)).bind ?_ (fun hf => ⟨⟨rfl, hf⟩, rfl⟩)
        rw [hcut]
        exact hrest

theorem Backed.readAt (h : img.Backed look faulty) (hv : img.length ≤ v.disk.size)
    {o n : Nat} (hfit : o + n ≤ img.length) :
    (img.readAt o n).Reads look faulty v (Bytes.slice v.disk o n) := by
  have hread : (img.readFrom o n .empty).Reads look faulty v
      (.empty ++ Bytes.slice v.disk o n) := h.readFrom hv hfit
  rw [ByteArray.empty_append] at hread
  rw [readAt_eq, ensureFits, checkRange_eq_ok hfit]
  exact hread

/-! ## Writing -/

/-- What a write of the whole sectors at the front of `data` does to a disk. -/
theorem memory_writeWhole {pos n : Nat} {data b : ByteArray} (hv : pos + data.size ≤ b.size)
    (hpos : pos % img.sectorSize = 0) (hn : n % img.sectorSize = 0) (hle : n ≤ data.size) :
    (Device.memory img.sectorSize).answer
        (.write (pos / img.sectorSize) (data.extract 0 n)) b =
      (.ok (), Bytes.overwrite b pos (data.extract 0 n)) := by
  have hsize := Bytes.size_extract_zero hle
  have hstart : pos / img.sectorSize * img.sectorSize = pos :=
    Nat.div_mul_cancel (Nat.dvd_of_mod_eq_zero hpos)
  rw [Device.memory_write_eq_ok_iff, hstart, hsize]
  exact ⟨⟨hn, by omega⟩, rfl⟩

/-- What is read of the sector of `pos`, with the front of `data` patched in. -/
def patched (img : Image σ) (b : ByteArray) (pos n : Nat) (data : ByteArray) : ByteArray :=
  Bytes.overwrite (Bytes.slice b (pos / img.sectorSize * img.sectorSize) img.sectorSize)
    (pos % img.sectorSize) (data.extract 0 n)

section

variable {pos n : Nat} {data b : ByteArray}
  (hsector : pos / img.sectorSize * img.sectorSize + img.sectorSize ≤ b.size)
  (hle : n ≤ data.size) (hin : pos % img.sectorSize + n ≤ img.sectorSize)
include hsector hle hin

theorem size_patched : (img.patched b pos n data).size = img.sectorSize := by
  have hsize := Bytes.size_extract_zero hle
  have hcut : (Bytes.slice b (pos / img.sectorSize * img.sectorSize)
      img.sectorSize).size = img.sectorSize := by
    rw [Bytes.size_slice]
    omega
  rw [patched, Bytes.size_overwrite (by omega), hcut]

/-- What a write of the patched sector does to a disk. -/
theorem memory_writePatch : (Device.memory img.sectorSize).answer
      (.write (pos / img.sectorSize) (img.patched b pos n data)) b =
    (.ok (), Bytes.overwrite b pos (data.extract 0 n)) := by
  have hsize := Bytes.size_extract_zero hle
  have hpatched := size_patched hsector hle hin
  rw [Device.memory_write_eq_ok_iff, hpatched, patched,
    Bytes.overwrite_patch hsector (by omega), Nat.div_add_mod']
  exact ⟨⟨Nat.mod_self _, hsector⟩, rfl⟩

end

/-- A single call that writes happens or does not happen. -/
theorem Backed.writeSectors (h : img.Backed look faulty) {lba pos : Nat}
    {data part : ByteArray} (hpart : 0 < part.size)
    (hanswer : (Device.memory img.sectorSize).answer (.write lba data) v.disk =
      (.ok (), Bytes.overwrite v.disk pos part)) :
    (img.writeSectors lba data).Writes look faulty img.sectorSize v pos part := by
  refine (h.keeps.ends_perform (c := .write lba data) (a := ()) ?_).mono
    (fun _ _ hv' => hv'.2) ?_
  · rw [h.sector]
    exact hanswer
  · rintro e _ ⟨he, rfl⟩
    exact ⟨he, _, Bytes.torn_self hpart, rfl⟩

theorem Backed.writeWhole (h : img.Backed look faulty) {pos n : Nat} {data : ByteArray}
    (hv : pos + data.size ≤ v.disk.size) (hpos : pos % img.sectorSize = 0)
    (hn : n % img.sectorSize = 0) (hn0 : 0 < n) (hle : n ≤ data.size) :
    (img.writeSectors (pos / img.sectorSize) (data.extract 0 n)).Writes look faulty
      img.sectorSize v pos (data.extract 0 n) :=
  h.writeSectors (by rwa [Bytes.size_extract_zero hle]) (memory_writeWhole hv hpos hn hle)

theorem Backed.writePatch (h : img.Backed look faulty) {pos n : Nat} {data : ByteArray}
    (hsector : pos / img.sectorSize * img.sectorSize + img.sectorSize ≤ v.disk.size)
    (hn0 : 0 < n) (hle : n ≤ data.size) (hin : pos % img.sectorSize + n ≤ img.sectorSize) :
    (img.writeSectors (pos / img.sectorSize) (img.patched v.disk pos n data)).Writes look
      faulty img.sectorSize v pos (data.extract 0 n) :=
  h.writeSectors (by rwa [Bytes.size_extract_zero hle]) (memory_writePatch hsector hle hin)

theorem Backed.writeFrom (h : img.Backed look faulty) {pos : Nat} {data : ByteArray}
    (hv : img.length ≤ v.disk.size) (hfit : pos + data.size ≤ img.length) :
    (img.writeFrom pos data).Writes look faulty img.sectorSize v pos data := by
  induction pos, data using img.writeFrom_induct generalizing v with
  | empty pos data hempty =>
      rw [writeFrom_of_empty pos hempty]
      refine Action.ends_pure ?_
      rw [Bytes.overwrite_of_size_eq_zero hempty]
  | whole pos data n hfront ih =>
      have hle := hfront.le
      have hsize := Bytes.size_extract_zero hle
      have hrest := Bytes.size_extract_rest data n
      rw [hfront.writeFrom_eq]
      refine Action.Writes.append
        (h.writeWhole (by omega) hfront.start hfront.stop hfront.nonempty hle)
        (ih ?_ (by omega)) (by omega) hle (fun _ => hfront.ends)
      rw [Bytes.size_overwrite (by omega)]
      exact hv
  | part pos data n hfront ih =>
      have hsize := Bytes.size_extract_zero hfront.le
      have hrest := Bytes.size_extract_rest data n
      have hn := hfront.nonempty
      have hle := hfront.le
      have hsector := sector_le_length h.whole (show pos < img.length by omega)
      rw [hfront.writeFrom_eq]
      refine (h.readSector (by omega)).bind ?_ ?_
      · refine Action.Writes.append (h.writePatch (by omega) hn hle hfront.inside)
          (ih ?_ (by omega)) (by omega) hle hfront.ends
        rw [Bytes.size_overwrite (by omega)]
        exact hv
      · intro hf
        exact ⟨⟨rfl, hf⟩, _, Bytes.torn_self (by omega), rfl⟩

/-- A write on the image overwrites the range, or is torn. -/
theorem Backed.writeAt (h : img.Backed look faulty) (hv : img.length ≤ v.disk.size)
    {o : Nat} {data : ByteArray} (hfit : o + data.size ≤ img.length) :
    (img.writeAt o data).Writes look faulty img.sectorSize v o data := by
  rw [writeAt_eq, ensureFits, checkRange_eq_ok hfit]
  exact h.writeFrom hv hfit

/-! ## Zeroing -/

theorem Backed.zeroFrom (h : img.Backed look faulty) {pos length : Nat}
    (hv : img.length ≤ v.disk.size) (hfit : pos + length ≤ img.length) :
    (img.zeroFrom pos length).Ends (World.view look) v
      (fun _ v' => v' = { v with
        disk := Bytes.overwrite v.disk pos (Bytes.zeros length) })
      (fun e v' => (e = .deviceFailed ∧ faulty) ∧ ∃ k < length,
        v' = { v with disk := Bytes.overwrite v.disk pos (Bytes.zeros k) }) := by
  induction length using Nat.strongRecOn generalizing pos v with
  | ind length ih =>
    rw [Image.zeroFrom]
    split
    · next hempty =>
        refine Action.ends_pure ?_
        rw [Bytes.overwrite_of_size_eq_zero (by rw [Bytes.size_zeros, hempty])]
    · next hne =>
        have hpos := img.sectorSize_pos
        have hpiece : min length (img.sectorSize * zeroSectors) ≤ length := Nat.min_le_left ..
        have hpiece0 : 0 < min length (img.sectorSize * zeroSectors) := by
          simp only [zeroSectors]; omega
        simp only []
        generalize min length (img.sectorSize * zeroSectors) = n at hpiece hpiece0
        refine Action.Ends.bind (h.writeAt hv (by rw [Bytes.size_zeros]; omega)) ?_ ?_
        · intro _ v₁ hv₁
          subst hv₁
          have hsize : (Bytes.overwrite v.disk pos (Bytes.zeros n)).size = v.disk.size :=
            Bytes.size_overwrite (by rw [Bytes.size_zeros]; omega)
          refine (ih (length - n) (by omega) (by rw [hsize]; exact hv) (by omega)).mono ?_ ?_
          · intro _ v₂ hv₂
            rw [hv₂, Bytes.overwrite_zeros (by omega), Nat.add_sub_cancel' hpiece]
          · intro e v₂ hv₂
            obtain ⟨he, k, hk, rfl⟩ := hv₂
            exact ⟨he, n + k, by omega, by rw [Bytes.overwrite_zeros (by omega)]⟩
        · intro e v₁ hv₁
          obtain ⟨he, b, ⟨k, hk, -, rfl⟩, rfl⟩ := hv₁
          rw [Bytes.size_zeros] at hk
          rw [Bytes.extract_zeros (by omega), Nat.sub_zero]
          exact ⟨he, k, by omega, rfl⟩

/-- Zeroing a range on the image overwrites it with zeros, up to where a
faulty device gives up. -/
theorem Backed.zeroRange (h : img.Backed look faulty) (hv : img.length ≤ v.disk.size)
    {o n : Nat} (hfit : o + n ≤ img.length) :
    (img.zeroRange o n).Ends (World.view look) v
      (fun _ v' => v' = { v with disk := Bytes.overwrite v.disk o (Bytes.zeros n) })
      (fun e v' => (e = .deviceFailed ∧ faulty) ∧ ∃ k < n,
        v' = { v with disk := Bytes.overwrite v.disk o (Bytes.zeros k) }) := by
  rw [zeroRange_eq, ensureFits, checkRange_eq_ok hfit]
  exact h.zeroFrom hv hfit

theorem Backed.flush (h : img.Backed look faulty) : img.flush.Reads look faulty v () :=
  h.keeps.ends_perform (c := .flush) (b := v.disk) rfl

end Image

end FatImage
