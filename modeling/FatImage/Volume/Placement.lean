import FatImage.Manifest
import FatImage.Volume.Directory
import FatImage.Volume.Table

/-!
# Placing files

A file is placed in steps whose order keeps the volume sound: first everything that can be refused
is checked, then the bytes are written into clusters that belong to nobody, then the links, and
last the record. A run that stops in between leaves no record of the file it stopped at, so nothing
half written is ever visible.

Clusters are handed out from a cursor that only moves forward. A file whose bytes cannot be had is
skipped and takes nothing; any other failure ends the run. The device is flushed in either case.
-/

namespace FatImage

/-- The next free cluster. -/
structure Cursor where
  cluster : UInt16
  deriving DecidableEq, Repr

namespace Cursor

def start : Cursor := ⟨2⟩

/-- The cursor behind the next `count` clusters. -/
def advance (c : Cursor) (count : UInt32) : Cursor :=
  ⟨c.cluster + count.toUInt16⟩

end Cursor

/-- Where a file is going to be, settled before anything of it is written. -/
structure Allocation where
  /-- The first cluster, zero for an empty file. -/
  start : UInt16
  clusters : UInt32
  size : UInt32
  slot : Nat

/-- Where a file is. -/
structure PlacedFile where
  name : ShortName
  slot : Nat
  /-- The first cluster, zero for an empty file. -/
  start : UInt16
  clusters : UInt32
  size : UInt32
  deriving DecidableEq

/-- A file whose bytes could not be had, and why. -/
structure SkippedFile where
  name : ShortName
  source : String
  reason : String
  deriving DecidableEq

/-- What a run has done. -/
structure Report where
  placed : Array PlacedFile := #[]
  skipped : Array SkippedFile := #[]
  /-- The cursor behind the last file placed. -/
  next : Cursor := Cursor.start
  deriving DecidableEq

/-- Where the bytes of an entry come from; a failure is the reason for skipping it. -/
abbrev Source (σ : Type) := Entry → Action σ String ByteArray

namespace Volume

def reset (v : Volume σ) : Action σ VolumeError Unit := do
  v.clearDirectory
  v.resetTable

/-- Checks that `clusters` clusters from `start` on can be linked and lie on the image. -/
def checkClusters (v : Volume σ) (start : UInt16) (clusters : Nat) : Except VolumeError Unit := do
  v.layout.checkChain start clusters
  let some offset := v.layout.clusterOffset? start | throw (.noSuchCluster start)
  v.image.checkRange offset (clusters * v.layout.sectorSize)

/-- Finds a place for `length` bytes at the cursor. An empty file needs a slot but no cluster. -/
def allocate (v : Volume σ) (cursor : Cursor) (length : Nat) :
    Action σ VolumeError Allocation := do
  if 0x100000000 ≤ length then throw (.fileTooLarge length)
  let size := length.toUInt32
  let clusters := (v.layout.clustersFor size.toNat).toUInt32
  let start := if clusters = 0 then 0 else cursor.cluster
  if clusters ≠ 0 then Action.ofExcept (v.checkClusters start clusters.toNat)
  let slot ← v.freeSlot
  return { start, clusters, size, slot }

def writePayload (v : Volume σ) (start : UInt16) (data : ByteArray) :
    Action σ VolumeError Unit :=
  if data.size = 0 then return ()
  else match v.layout.clusterOffset? start with
    | none => throw (.noSuchCluster start)
    | some offset => v.image.writeAt offset data

/-- Places one file at the cursor; the answer has the cursor for the next one.

A build for debugging (`fat12_debug`) also follows the new chain and tells of it before it is done
with the file. It is off by default, and left out here. -/
def place (v : Volume σ) (cursor : Cursor) (name : ShortName) (data : ByteArray) :
    Action σ VolumeError (PlacedFile × Cursor) := do
  let a ← v.allocate cursor data.size
  Action.note (.moved name .pending .allocated)
  v.writePayload a.start data
  Action.note (.moved name .allocated .written)
  v.linkChain a.start a.clusters.toNat
  v.writeRecord a.slot (Record.file name a.start a.size)
  Action.note (.moved name .written .recorded)
  let next := cursor.advance a.clusters
  Action.note (.moved name .recorded .done)
  Action.note (.placed name a.size a.start)
  return ({ name, slot := a.slot, start := a.start, clusters := a.clusters, size := a.size }, next)

/-- Goes on from `report` with the entries that are left. -/
def placeAll (v : Volume σ) (source : Source σ) (report : Report) :
    List Entry → Action σ VolumeError Report
  | [] => return report
  | e :: rest => do
    match ← Action.attempt (source e) with
    | .error reason =>
      Action.record (.load e.name false)
      Action.note (.skipping e.name e.source reason)
      Action.note (.moved e.name .pending .skipped)
      let skipped := report.skipped.push ⟨e.name, e.source, reason⟩
      v.placeAll source { report with skipped := skipped } rest
    | .ok data =>
      Action.record (.load e.name true)
      let (file, next) ← v.place report.next e.name data
      v.placeAll source { report with placed := report.placed.push file, next := next } rest

/-- Resets the volume and places the files of a manifest in order. The device is flushed whether or
not that succeeds, and what went wrong before the flush is what is answered. -/
def run (v : Volume σ) (m : Manifest) (source : Source σ) : Action σ VolumeError Report := do
  let outcome ← Action.attempt do
    v.reset
    v.placeAll source {} m.entries
  let flushed ← Action.attempt v.image.flush
  let report ← Action.ofExcept outcome
  Action.ofExcept flushed
  return report

end Volume

/-- Mounts the volume on a device and places the files of a manifest on it. -/
def fill (d : Device σ) (l : Layout) (m : Manifest) (source : Source σ) :
    Action σ VolumeError Report := do
  let v ← Volume.mount d l
  v.run m source

end FatImage
