import FatImage.Image

/-!
# The scratch does not show

An access hands a scratch on from sector to sector, and the caller hands it
on from access to access. But a sector that is read replaces all of it, so
nothing that was left there is ever looked at. Here are the same loops
without a scratch, and the equations that say that they do the same; from
here on an access is a loop over sectors with nothing in its hands.

How a write goes on is settled here too. What is left to write is nothing,
or begins with whole sectors (`FrontWhole`), or with a part of a sector
(`FrontPart`), and behind the bytes of either there is a write of what is
left. Whatever is shown of a write is shown by `writeFrom_induct`, for which
these are the three cases.
-/

namespace FatImage.Image

variable {σ : Type} {img : Image σ}

/-! ## Loops without a scratch -/

def readFrom (img : Image σ) (pos length : Nat) (front : ByteArray) :
    Action σ VolumeError ByteArray :=
  if _h : length = 0 then return front
  else do
    let chunk := img.inSector pos length
    let sector ← img.readSector (pos / img.sectorSize)
    img.readFrom (pos + chunk) (length - chunk)
      (front ++ Bytes.slice sector (pos % img.sectorSize) chunk)
termination_by length
decreasing_by
  have := img.inSector_pos pos (Nat.pos_of_ne_zero _h)
  omega

def writeFrom (img : Image σ) (pos : Nat) (data : ByteArray) : Action σ VolumeError Unit :=
  if _h : data.size = 0 then return ()
  else if pos % img.sectorSize = 0 ∧ img.sectorSize ≤ data.size then do
    let whole := data.size - data.size % img.sectorSize
    img.writeSectors (pos / img.sectorSize) (data.extract 0 whole)
    img.writeFrom (pos + whole) (data.extract whole data.size)
  else do
    let chunk := img.inSector pos data.size
    let sector ← img.readSector (pos / img.sectorSize)
    img.writeSectors (pos / img.sectorSize)
      (Bytes.overwrite sector (pos % img.sectorSize) (data.extract 0 chunk))
    img.writeFrom (pos + chunk) (data.extract chunk data.size)
termination_by data.size
decreasing_by
  · have := Nat.mod_lt data.size img.sectorSize_pos
    simp only [ByteArray.size_extract]
    omega
  · have := img.inSector_pos pos (Nat.pos_of_ne_zero _h)
    simp only [ByteArray.size_extract]
    omega

def zeroFrom (img : Image σ) (pos length : Nat) : Action σ VolumeError Unit :=
  if _h : length = 0 then return ()
  else do
    let piece := min length (img.sectorSize * zeroSectors)
    img.writeAt pos (Bytes.zeros piece)
    img.zeroFrom (pos + piece) (length - piece)
termination_by length
decreasing_by
  have := img.sectorSize_pos
  simp only [zeroSectors]
  omega

theorem map_readThrough (scratch : ByteArray) (pos length : Nat) (front : ByteArray) :
    Prod.fst <$> img.readThrough scratch pos length front = img.readFrom pos length front := by
  induction length using Nat.strongRecOn generalizing scratch pos front with
  | ind length ih =>
    rw [readThrough, readFrom]
    split
    · rw [map_pure]
    · next hne =>
        have hchunk := img.inSector_pos pos (Nat.pos_of_ne_zero hne)
        rw [map_bind]
        exact bind_congr fun sector => ih _ (by omega) _ _ _

theorem map_writeThrough (scratch : ByteArray) (pos : Nat) (data : ByteArray) :
    (fun _ => ()) <$> img.writeThrough scratch pos data = img.writeFrom pos data := by
  induction hsize : data.size using Nat.strongRecOn generalizing scratch pos data with
  | ind size ih =>
    subst hsize
    have hrest : ∀ n scratch pos, 0 < n → n ≤ data.size →
        (fun _ => ()) <$> img.writeThrough scratch pos (data.extract n data.size) =
          img.writeFrom pos (data.extract n data.size) := by
      intro n scratch pos hn hle
      have hback : (data.extract n data.size).size = data.size - n := by
        rw [ByteArray.size_extract, Nat.min_self]
      exact ih _ (by omega) scratch pos _ rfl
    rw [writeThrough, writeFrom]
    split
    · rw [map_pure]
    · next hne =>
        have hlt := Nat.mod_lt data.size img.sectorSize_pos
        have hchunk := img.inSector_pos pos (Nat.pos_of_ne_zero hne)
        have hle : img.inSector pos data.size ≤ data.size := Nat.min_le_right _ _
        split
        · next hwhole =>
            rw [map_bind]
            exact bind_congr fun _ => hrest _ _ _ (by omega) (by omega)
        · rw [map_bind]
          refine bind_congr fun sector => ?_
          rw [map_bind]
          exact bind_congr fun _ => hrest _ _ _ hchunk hle

/-! ## Accesses without a scratch -/

theorem map_readWith_eq (scratch : ByteArray) (o n : Nat) :
    Prod.fst <$> img.readWith scratch o n =
      img.ensureFits o n >>= fun _ => img.readFrom o n .empty := by
  rw [readWith, map_bind]
  exact bind_congr fun _ => map_readThrough scratch o n .empty

theorem readAt_eq (img : Image σ) (o n : Nat) :
    img.readAt o n = img.ensureFits o n >>= fun _ => img.readFrom o n .empty := by
  rw [← map_readWith_eq img.blank, map_eq_pure_bind]
  rfl

/-- A read with whatever scratch is a read. -/
theorem map_readWith (scratch : ByteArray) (o n : Nat) :
    Prod.fst <$> img.readWith scratch o n = img.readAt o n :=
  (map_readWith_eq scratch o n).trans (readAt_eq img o n).symm

theorem map_writeWith_eq (scratch : ByteArray) (o : Nat) (data : ByteArray) :
    (fun _ => ()) <$> img.writeWith scratch o data =
      img.ensureFits o data.size >>= fun _ => img.writeFrom o data := by
  rw [writeWith, map_bind]
  exact bind_congr fun _ => map_writeThrough scratch o data

theorem writeAt_eq (img : Image σ) (o : Nat) (data : ByteArray) :
    img.writeAt o data = img.ensureFits o data.size >>= fun _ => img.writeFrom o data := by
  rw [← map_writeWith_eq img.blank, map_eq_pure_bind]
  rfl

theorem map_writeWith (scratch : ByteArray) (o : Nat) (data : ByteArray) :
    (fun _ => ()) <$> img.writeWith scratch o data = img.writeAt o data :=
  (map_writeWith_eq scratch o data).trans (writeAt_eq img o data).symm

theorem map_zeroThrough (scratch : ByteArray) (pos length : Nat) :
    (fun _ => ()) <$> img.zeroThrough scratch pos length = img.zeroFrom pos length := by
  induction length using Nat.strongRecOn generalizing scratch pos with
  | ind length ih =>
    rw [zeroThrough, zeroFrom]
    split
    · rw [map_pure]
    · next hne =>
        have hs := img.sectorSize_pos
        have hlt : length - min length (img.sectorSize * zeroSectors) < length := by
          rw [zeroSectors]
          omega
        dsimp only
        rw [map_bind, ← map_writeWith scratch, bind_map_left]
        exact bind_congr fun scratch' => ih _ hlt scratch' _

theorem map_zeroWith_eq (scratch : ByteArray) (o n : Nat) :
    (fun _ => ()) <$> img.zeroWith scratch o n =
      img.ensureFits o n >>= fun _ => img.zeroFrom o n := by
  rw [zeroWith, map_bind]
  exact bind_congr fun _ => map_zeroThrough scratch o n

theorem zeroRange_eq (img : Image σ) (o n : Nat) :
    img.zeroRange o n = img.ensureFits o n >>= fun _ => img.zeroFrom o n := by
  rw [← map_zeroWith_eq img.blank, map_eq_pure_bind]
  rfl

theorem map_zeroWith (scratch : ByteArray) (o n : Nat) :
    (fun _ => ()) <$> img.zeroWith scratch o n = img.zeroRange o n :=
  (map_zeroWith_eq scratch o n).trans (zeroRange_eq img o n).symm

/-! ## How a write goes on -/

/-- The bytes that a write of `data` at `pos` begins with: so many that whole sectors are
written. -/
structure FrontWhole (img : Image σ) (pos : Nat) (data : ByteArray) (n : Nat) : Prop where
  eq : n = data.size - data.size % img.sectorSize
  nonempty : 0 < n
  le : n ≤ data.size
  start : pos % img.sectorSize = 0
  stop : n % img.sectorSize = 0

/-- The bytes that a write of `data` at `pos` begins with: a part of one sector, and
up to its end unless there are no more. -/
structure FrontPart (img : Image σ) (pos : Nat) (data : ByteArray) (n : Nat) : Prop where
  eq : n = img.inSector pos data.size
  nonempty : 0 < n
  le : n ≤ data.size
  inside : pos % img.sectorSize + n ≤ img.sectorSize
  ends : n < data.size → (pos + n) % img.sectorSize = 0
  not_whole : ¬ (pos % img.sectorSize = 0 ∧ img.sectorSize ≤ data.size)

section

variable {pos n : Nat} {data : ByteArray}

theorem frontWhole (hwhole : pos % img.sectorSize = 0 ∧ img.sectorSize ≤ data.size) :
    img.FrontWhole pos data (data.size - data.size % img.sectorSize) where
  eq := rfl
  nonempty := by
    have := Nat.mod_lt data.size img.sectorSize_pos
    omega
  le := Nat.sub_le _ _
  start := hwhole.1
  stop := Nat.mod_eq_zero_of_dvd (Nat.dvd_sub_mod data.size)

theorem frontPart (hne : data.size ≠ 0)
    (hpart : ¬ (pos % img.sectorSize = 0 ∧ img.sectorSize ≤ data.size)) :
    img.FrontPart pos data (img.inSector pos data.size) where
  eq := rfl
  nonempty := img.inSector_pos pos (Nat.pos_of_ne_zero hne)
  le := Nat.min_le_right _ _
  inside := by
    have := Nat.mod_lt pos img.sectorSize_pos
    rw [inSector]
    omega
  ends hmore := by
    have hlt := Nat.mod_lt pos img.sectorSize_pos
    have hpos := Nat.div_add_mod' pos img.sectorSize
    rw [inSector] at hmore ⊢
    have hend : pos + min (img.sectorSize - pos % img.sectorSize) data.size =
        (pos / img.sectorSize + 1) * img.sectorSize := by
      rw [Nat.add_mul, Nat.one_mul]
      omega
    rw [hend, Nat.mul_mod_left]
  not_whole := hpart

theorem FrontWhole.ends (h : img.FrontWhole pos data n) : (pos + n) % img.sectorSize = 0 := by
  rw [Nat.add_mod, h.start, h.stop, Nat.zero_add, Nat.zero_mod]

theorem writeFrom_of_empty (pos : Nat) (h : data.size = 0) : img.writeFrom pos data = pure () := by
  rw [writeFrom, dif_pos h]

theorem FrontWhole.writeFrom_eq (h : img.FrontWhole pos data n) : img.writeFrom pos data = (do
    img.writeSectors (pos / img.sectorSize) (data.extract 0 n)
    img.writeFrom (pos + n) (data.extract n data.size)) := by
  have hpos := h.nonempty
  have hle := h.le
  have hsize : img.sectorSize ≤ data.size := by
    refine Nat.le_of_not_lt fun hlt => ?_
    have hmod := Nat.mod_eq_of_lt hlt
    have heq := h.eq
    omega
  rw [writeFrom, dif_neg (by omega), if_pos ⟨h.start, hsize⟩, ← h.eq]

theorem FrontPart.writeFrom_eq (h : img.FrontPart pos data n) : img.writeFrom pos data = (do
    let sector ← img.readSector (pos / img.sectorSize)
    img.writeSectors (pos / img.sectorSize)
      (Bytes.overwrite sector (pos % img.sectorSize) (data.extract 0 n))
    img.writeFrom (pos + n) (data.extract n data.size)) := by
  have hpos := h.nonempty
  have hle := h.le
  rw [writeFrom, dif_neg (by omega), if_neg h.not_whole, ← h.eq]

end

/-- What is shown of a write that writes nothing, and of one that goes on behind whole sectors
or behind a part of one, is shown of every write. -/
theorem writeFrom_induct (img : Image σ) {P : Nat → ByteArray → Prop}
    (empty : ∀ pos data, data.size = 0 → P pos data)
    (whole : ∀ pos data n, img.FrontWhole pos data n →
      P (pos + n) (data.extract n data.size) → P pos data)
    (part : ∀ pos data n, img.FrontPart pos data n →
      P (pos + n) (data.extract n data.size) → P pos data)
    (pos : Nat) (data : ByteArray) : P pos data := by
  induction hsize : data.size using Nat.strongRecOn generalizing pos data with
  | ind size ih =>
    subst hsize
    have hrest : ∀ n, 0 < n → n ≤ data.size → P (pos + n) (data.extract n data.size) := by
      intro n hn hle
      have hback : (data.extract n data.size).size = data.size - n := by
        rw [ByteArray.size_extract, Nat.min_self]
      exact ih _ (by omega) _ _ rfl
    by_cases hempty : data.size = 0
    · exact empty pos data hempty
    · by_cases hwhole : pos % img.sectorSize = 0 ∧ img.sectorSize ≤ data.size
      · have hfront := frontWhole hwhole
        exact whole pos data _ hfront (hrest _ hfront.nonempty hfront.le)
      · have hfront := frontPart hempty hwhole
        exact part pos data _ hfront (hrest _ hfront.nonempty hfront.le)

end FatImage.Image
