import FatImage.Bytes
import FatImage.Device

/-!
# A disk in memory

The whole disk is one array of bytes, a whole number of sectors long.
-/

namespace FatImage.Device

/-- Why bytes are not a disk. -/
inductive MemoryError where
  | invalidSectorSize
  | misaligned (bytes : Nat)
  deriving DecidableEq, Repr

def MemoryError.message : MemoryError → String
  | .invalidSectorSize => "invalid block size"
  | .misaligned n => s!"buffer of {n} bytes is not sector aligned"

/-- Checks that bytes can be a disk of sectors of this size. -/
def checkDisk (sectorSize : Nat) (disk : ByteArray) : Except MemoryError Unit :=
  if sectorSize < leastSectorSize then .error .invalidSectorSize
  else if disk.size % sectorSize ≠ 0 then .error (.misaligned disk.size)
  else .ok ()

/-- Checks that a transfer moves whole sectors that are all on a disk of `size` bytes. -/
def checkTransfer (sectorSize size lba bytes : Nat) : Except Refusal Unit :=
  if bytes % sectorSize ≠ 0 then .error (.misaligned bytes)
  else if size < lba * sectorSize + bytes then .error (.outOfBounds lba bytes)
  else .ok ()

/-- A disk in memory with sectors of this size. -/
def memory (sectorSize : Nat) : Device ByteArray where
  medium := .disk
  sectorSize := sectorSize
  answer
    | .count, disk => (.ok (disk.size / sectorSize), disk)
    | .read lba n, disk => match checkTransfer sectorSize disk.size lba n with
      | .error e => (.error e, disk)
      | .ok () => (.ok (Bytes.slice disk (lba * sectorSize) n), disk)
    | .write lba data, disk => match checkTransfer sectorSize disk.size lba data.size with
      | .error e => (.error e, disk)
      | .ok () => (.ok (), Bytes.overwrite disk (lba * sectorSize) data)
    | .flush, disk => (.ok (), disk)

end FatImage.Device
