import FatImage.Bytes
import FatImage.Device

/-!
# Byte ranges of an image

Links are two bytes long and files end in the middle of a sector, but a device moves whole sectors.
This module is the bridge: a byte range is read sector by sector, and written so that every sector
it covers whole goes straight to the device while the others are read into a scratch, patched there
and written back.

The sectors of a written range go to the device in ascending order, the whole ones together in one
call. Zeroing a long range is split into writes of at most sixty-four sectors.
-/

namespace FatImage

/-- A device together with the length of what is stored on it. -/
structure Image (σ : Type) where
  device : Device σ
  sectorSize : Nat
  /-- Bytes on the device, at most what 64 bits can count. -/
  length : Nat
  sectorSize_pos : 0 < sectorSize

namespace Image

/-- The greatest number of 64 bits, which stands for everything greater. -/
def greatest : Nat := 0xFFFFFFFFFFFFFFFF

/-- Looks at a device as an image with sectors of `sectorSize` bytes, which must be its own. -/
def ofDevice (d : Device σ) (sectorSize : Nat) : Action σ VolumeError (Image σ) :=
  if h : leastSectorSize ≤ sectorSize ∧ sectorSize = d.sectorSize then do
    let sectors ← d.perform .count
    return {
      device := d
      sectorSize := sectorSize
      length := min (sectors * sectorSize) greatest
      sectorSize_pos := Nat.lt_of_lt_of_le (by decide) h.1 }
  else throw .wrongSectorSize

/-- Checks that a byte range lies on the image. -/
def checkRange (img : Image σ) (offset length : Nat) : Except VolumeError Unit :=
  let stop := min (offset + length) greatest
  if img.length < stop then .error (.imageTooSmall stop img.length) else .ok ()

def ensureFits (img : Image σ) (offset length : Nat) : Action σ VolumeError Unit :=
  Action.ofExcept (img.checkRange offset length)

def readSector (img : Image σ) (lba : Nat) : Action σ VolumeError ByteArray :=
  img.device.perform (.read lba img.sectorSize)

def writeSectors (img : Image σ) (lba : Nat) (data : ByteArray) : Action σ VolumeError Unit :=
  img.device.perform (.write lba data)

/-- How many of `length` bytes from `pos` on lie in the sector of `pos`. -/
def inSector (img : Image σ) (pos length : Nat) : Nat :=
  min (img.sectorSize - pos % img.sectorSize) length

theorem inSector_pos (img : Image σ) (pos : Nat) {length : Nat} (h : 0 < length) :
    0 < img.inSector pos length := by
  have := Nat.mod_lt pos img.sectorSize_pos
  unfold inSector
  omega

/-! ## Accesses by way of a scratch

A sector of which only a part is meant is read into a scratch of one sector. Whoever works on the
image keeps the scratch from one access to the next: it goes into every access and comes out of it
with what was read last. -/

/-- Reads the `length` bytes from `pos` on and appends them to `front`. Every sector that is read
replaces all of the scratch. -/
def readThrough (img : Image σ) (scratch : ByteArray) (pos length : Nat) (front : ByteArray) :
    Action σ VolumeError (ByteArray × ByteArray) :=
  if _h : length = 0 then return (front, scratch)
  else do
    let chunk := img.inSector pos length
    let scratch ← img.readSector (pos / img.sectorSize)
    img.readThrough scratch (pos + chunk) (length - chunk)
      (front ++ Bytes.slice scratch (pos % img.sectorSize) chunk)
termination_by length
decreasing_by
  have := img.inSector_pos pos (Nat.pos_of_ne_zero _h)
  omega

@[inline] def readWith (img : Image σ) (scratch : ByteArray) (offset length : Nat) :
    Action σ VolumeError (ByteArray × ByteArray) := do
  img.ensureFits offset length
  img.readThrough scratch offset length .empty

/-- Writes `data` from `pos` on: whole sectors at once, a part of a sector by patching it in the
scratch. -/
def writeThrough (img : Image σ) (scratch : ByteArray) (pos : Nat) (data : ByteArray) :
    Action σ VolumeError ByteArray :=
  if _h : data.size = 0 then return scratch
  else if pos % img.sectorSize = 0 ∧ img.sectorSize ≤ data.size then do
    let whole := data.size - data.size % img.sectorSize
    img.writeSectors (pos / img.sectorSize) (data.extract 0 whole)
    img.writeThrough scratch (pos + whole) (data.extract whole data.size)
  else do
    let chunk := img.inSector pos data.size
    let sector ← img.readSector (pos / img.sectorSize)
    let scratch := Bytes.overwrite sector (pos % img.sectorSize) (data.extract 0 chunk)
    img.writeSectors (pos / img.sectorSize) scratch
    img.writeThrough scratch (pos + chunk) (data.extract chunk data.size)
termination_by data.size
decreasing_by
  · have := Nat.mod_lt data.size img.sectorSize_pos
    simp only [ByteArray.size_extract]
    omega
  · have := img.inSector_pos pos (Nat.pos_of_ne_zero _h)
    simp only [ByteArray.size_extract]
    omega

@[inline] def writeWith (img : Image σ) (scratch : ByteArray) (offset : Nat) (data : ByteArray) :
    Action σ VolumeError ByteArray := do
  img.ensureFits offset data.size
  img.writeThrough scratch offset data

/-- Sectors that are zeroed in one write. -/
def zeroSectors : Nat := 64

/-- Zeroes the `length` bytes from `pos` on, piece by piece. -/
def zeroThrough (img : Image σ) (scratch : ByteArray) (pos length : Nat) :
    Action σ VolumeError ByteArray :=
  if _h : length = 0 then return scratch
  else do
    let piece := min length (img.sectorSize * zeroSectors)
    let scratch ← img.writeWith scratch pos (Bytes.zeros piece)
    img.zeroThrough scratch (pos + piece) (length - piece)
termination_by length
decreasing_by
  have := img.sectorSize_pos
  simp only [zeroSectors]
  omega

@[inline] def zeroWith (img : Image σ) (scratch : ByteArray) (offset length : Nat) :
    Action σ VolumeError ByteArray := do
  img.ensureFits offset length
  img.zeroThrough scratch offset length

/-! ## Accesses

The scratch never shows, so the layers above do not keep it: each access starts with a blank one. A
sector may be very long. What takes a scratch is inlined, and so a blank one is made only for a
range that was found to be on the image. -/

/-- A scratch into which nothing was read yet. -/
@[inline] def blank (img : Image σ) : ByteArray :=
  Bytes.zeros img.sectorSize

def readAt (img : Image σ) (offset length : Nat) : Action σ VolumeError ByteArray := do
  let (bytes, _) ← img.readWith img.blank offset length
  return bytes

def writeAt (img : Image σ) (offset : Nat) (data : ByteArray) : Action σ VolumeError Unit := do
  let _ ← img.writeWith img.blank offset data

def zeroRange (img : Image σ) (offset length : Nat) : Action σ VolumeError Unit := do
  let _ ← img.zeroWith img.blank offset length

/-- Makes everything written so far last. -/
def flush (img : Image σ) : Action σ VolumeError Unit :=
  img.device.perform .flush

end Image

end FatImage
