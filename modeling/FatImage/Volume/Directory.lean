import FatImage.Record
import FatImage.Volume.Basic

/-!
# The root directory

The root directory is a row of slots for records of thirty-two bytes. Slots fill in order, and the
first record that was never used ends the list. A free slot is looked for sector by sector, in the
pieces of thirty-two bytes that each sector holds.
-/

namespace FatImage.Volume

def clearDirectory (v : Volume σ) : Action σ VolumeError Unit := do
  v.image.zeroRange v.layout.rootOffset v.layout.rootBytes
  Action.note (.directoryCleared v.layout)

/-- Whole records in a sector. -/
def recordsPerSector (v : Volume σ) : Nat :=
  v.layout.sectorSize / Layout.recordSize

/-- The first free slot in a sector of the root directory, whose first slot is `base`. -/
def freeSlotIn (v : Volume σ) (sector : ByteArray) (base : Nat) : Option Nat :=
  (List.range v.recordsPerSector).findSome? fun i =>
    let raw := Bytes.slice sector (i * Layout.recordSize) Layout.recordSize
    if base + i < v.layout.slotCount && Record.isNeverUsed raw then some (base + i) else none

/-- Looks for a free slot in `count` sectors of the root directory from sector `first` on. -/
def freeSlotFrom (v : Volume σ) : (count first : Nat) → Action σ VolumeError Nat
  | 0, _ => throw .directoryFull
  | count + 1, first => do
    let offset := Layout.cut64 (v.layout.rootOffset + first * v.layout.sectorSize)
    let sector ← v.image.readAt offset v.layout.sectorSize
    match v.freeSlotIn sector (first * v.recordsPerSector) with
    | some slot => return slot
    | none => v.freeSlotFrom count (first + 1)

def freeSlot (v : Volume σ) : Action σ VolumeError Nat :=
  v.freeSlotFrom v.layout.rootSectors 0

def writeRecord (v : Volume σ) (slot : Nat) (r : Record) : Action σ VolumeError Unit :=
  if v.layout.slotCount ≤ slot then throw .directoryFull
  else v.image.writeAt (v.layout.slotOffset slot) r.encode

/-- The record in a slot, unless it was never used. -/
def readRecord (v : Volume σ) (slot : Nat) : Action σ VolumeError (Option Record) := do
  let raw ← v.image.readAt (v.layout.slotOffset slot) Layout.recordSize
  return if Record.isNeverUsed raw then none else some (Record.decode raw)

/-- Appends to `front` the records in at most `count` slots from `slot` on. -/
def recordsFrom (v : Volume σ) (front : Array Record) :
    (count slot : Nat) → Action σ VolumeError (List Record)
  | 0, _ => return front.toList
  | count + 1, slot => do
    match ← v.readRecord slot with
    | none => return front.toList
    | some r => v.recordsFrom (front.push r) count (slot + 1)

/-- The records before the first that was never used. -/
def records (v : Volume σ) : Action σ VolumeError (List Record) :=
  v.recordsFrom #[] v.layout.slotCount 0

end FatImage.Volume
