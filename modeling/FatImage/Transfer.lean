/-!
# Calls of a block device

A block device moves whole sectors. There are four things to ask of it; each has an answer of its
own kind, and a reason when it is refused.
-/

namespace FatImage

/-- What is asked of a device. -/
inductive Call where
  /-- How many sectors there are. -/
  | count
  /-- The bytes of a run of sectors. -/
  | read (lba bytes : Nat)
  /-- New bytes for a run of sectors. -/
  | write (lba : Nat) (data : ByteArray)
  /-- Everything written so far shall last. -/
  | flush

/-- What a device answers to a call that it carries out. -/
abbrev Call.Answer : Call → Type
  | .count => Nat
  | .read _ _ => ByteArray
  | .write _ _ => Unit
  | .flush => Unit

/-- Why a device does not carry out a call. -/
inductive Refusal where
  /-- The bytes are no whole number of sectors. -/
  | misaligned (bytes : Nat)
  /-- The sectors are not all there. -/
  | outOfBounds (lba bytes : Nat)
  | broken
  deriving DecidableEq, Repr

/-- What a device keeps its sectors on. -/
inductive Medium where
  | disk
  | image
  deriving DecidableEq, Repr

def Medium.label : Medium → String
  | .disk => "disk"
  | .image => "image"

def Refusal.message (medium : Medium) : Refusal → String
  | .misaligned n => s!"buffer of {n} bytes is not sector aligned"
  | .outOfBounds lba n => s!"{n} bytes at LBA {lba} run past the end of the {medium.label}"
  | .broken => "injected fault"

def leastSectorSize : Nat := 512

end FatImage
