import FatImage.Device
import FatImage.Host.Tree

/-!
# An image in a file

The image is a file that is there already; it is opened for reading and writing, never created, and
its length never changes. Bytes behind the last whole sector are told to the reader and cannot be
reached.
-/

namespace FatImage.Host

/-- Why a file cannot be used as an image. -/
inductive ImageFileError where
  | cannotOpen (path : String) (why : HostError)
  | invalidSectorSize
  deriving DecidableEq, Repr

/-- The words for a file that cannot be used as an image. -/
def ImageFileError.message : ImageFileError → String
  | .cannotOpen path why => s!"cannot open image {path}: {why.message}"
  | .invalidSectorSize => "invalid block size"

/-- The offset of a run of whole sectors in a file of which `length` bytes can be reached. -/
def seek (sectorSize length lba bytes : Nat) : Except Refusal Nat :=
  let offset := lba * sectorSize
  if bytes % sectorSize ≠ 0 then .error (.misaligned bytes)
  else if offset + bytes ≤ length then .ok offset
  else .error (.outOfBounds lba bytes)

/-- The file at a place as a device, of which `length` bytes can be reached. -/
def fileDevice (p : Place) (sectorSize length : Nat) : Device Tree where
  medium := .image
  sectorSize := sectorSize
  answer
    | .count, t => (.ok (length / sectorSize), t)
    | .read lba n, t => match seek sectorSize length lba n with
      | .error e => (.error e, t)
      | .ok offset => (.ok (Bytes.slice (t.content p) offset n), t)
    | .write lba data, t => match seek sectorSize length lba data.size with
      | .error e => (.error e, t)
      | .ok offset => (.ok (), t.patch p offset data)
    | .flush, t => (.ok (), t)

/-- Opens the file that a path leads to as a device. -/
def openImage (path : String) (sectorSize : Nat) : Action Tree ImageFileError (Device Tree) := do
  if sectorSize < leastSectorSize then throw .invalidSectorSize
  let t := (← get).state
  let (p, bytes) ← Action.ofExcept ((t.findFile path).mapError (.cannotOpen path))
  let tail := bytes.size % sectorSize
  if tail ≠ 0 then Action.note (.trailing path tail)
  return fileDevice p sectorSize (bytes.size - tail)

end FatImage.Host
