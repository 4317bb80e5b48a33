import FatImage.Journal

/-!
# Block devices

A device is a way to answer calls on a state. What the state is, the layers above never learn: it
may be the bytes of a disk, those bytes with a plan of failures, or all files of a machine. Every
call goes into the journal, whether it is carried out or not.
-/

namespace FatImage

/-- Why an image cannot be worked on any further. -/
inductive VolumeError where
  /-- The device did not carry out a call. -/
  | deviceFailed
  /-- The device has sectors of another size, or of a size that no device can have. -/
  | wrongSectorSize
  | imageTooSmall (required available : Nat)
  | directoryFull
  /-- A chain would end at a cluster that cannot be linked. -/
  | tableOverflow (last limit : Nat)
  | fileTooLarge (size : Nat)
  /-- The cluster has no place in the data region. -/
  | noSuchCluster (cluster : UInt16)
  deriving DecidableEq, Repr

/-- The words for what stops the work on an image. -/
def VolumeError.message : VolumeError → String
  | .deviceFailed => "disk image I/O error"
  | .wrongSectorSize => "device block size does not match FAT geometry"
  | .imageTooSmall required available =>
    s!"disk image too small: need {required} bytes, image has {available}"
  | .directoryFull => "root directory is full"
  | .tableOverflow last limit =>
    s!"cluster chain ends at {last} but the FAT only addresses clusters below {limit}"
  | .fileTooLarge size => s!"file of {size} bytes exceeds FAT size field"
  | .noSuchCluster cluster => s!"cluster {cluster.toNat} is not in the data region"

/-- A block device whose sectors are kept in `σ`. -/
structure Device (σ : Type) where
  medium : Medium
  sectorSize : Nat
  answer : (c : Call) → σ → Except Refusal c.Answer × σ

namespace Device

/-- Calls the device and keeps the call in the journal. -/
def ask (d : Device σ) (c : Call) : Action σ Refusal c.Answer := fun w =>
  match w with
  | ⟨s, events⟩ => match d.answer c s with
    | (.ok a, s) => .ok a ⟨s, events.push (.call c true)⟩
    | (.error e, s) => .error e ⟨s, events.push (.call c false)⟩

/-- Calls the device; a refusal is told to the reader and stops the work. -/
def perform (d : Device σ) (c : Call) : Action σ VolumeError c.Answer := do
  match ← Action.attempt (d.ask c) with
  | .ok a => return a
  | .error why =>
    Action.note (.refused d.medium c why)
    throw .deviceFailed

end Device

end FatImage
