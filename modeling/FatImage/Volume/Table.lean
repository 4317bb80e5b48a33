import FatImage.Volume.Basic

/-!
# The allocation table

The table has a link of two bytes for every cluster: the number of the next cluster of the same
file, or an end mark. It is kept in several mirrors that are written alike; only the first is ever
followed. Files take consecutive clusters, so a new chain is one run of bytes in each mirror.

A chain is followed without trust in the table: a link below the first data cluster or in the
reserved range ends it, and so does its length once it reaches the number of clusters that can be
linked, which stops a walk around a cycle.
-/

namespace FatImage

/-- The first links of a mirror: a media mark, and cluster 1 in use. -/
def mediaHeader : ByteArray := [0xF8, 0xFF, 0xFF, 0xFF].toByteArray

/-- The link of the last cluster of a file. -/
def endOfChain : UInt16 := 0xFFFF

/-- Whether a link leads to no further cluster. -/
def endsChain (link : UInt16) : Bool :=
  link.toNat < Layout.firstDataCluster || Layout.reservedLinks ≤ link.toNat

/-- The links of `count` consecutive clusters from `start` on: each to the next, the last
to none. -/
def chainLinks (start : UInt16) (count : Nat) : List UInt16 :=
  (List.range' 1 (count - 1)).map (fun i => start + i.toUInt16) ++ [endOfChain]

/-- Checks that `count` clusters from `start` on can all be linked. -/
def Layout.checkChain (l : Layout) (start : UInt16) (count : Nat) : Except VolumeError Unit :=
  if count = 0 then .ok ()
  else
    let last := cut32 (start.toNat + count - 1)
    if l.clusterLimit ≤ last then .error (.tableOverflow last l.clusterLimit) else .ok ()

namespace Volume

def resetMirror (v : Volume σ) (i : Nat) : Action σ VolumeError Unit := do
  v.image.zeroRange (v.layout.mirrorOffset i) v.layout.mirrorBytes
  v.image.writeAt (v.layout.mirrorOffset i) mediaHeader

def resetTable (v : Volume σ) : Action σ VolumeError Unit := do
  Action.forEach v.resetMirror v.layout.mirrors 0
  Action.note (.tableReset v.layout)

/-- Links `count` consecutive clusters from `start` on in every mirror. -/
def linkChain (v : Volume σ) (start : UInt16) (count : Nat) : Action σ VolumeError Unit := do
  Action.ofExcept (v.layout.checkChain start count)
  if count ≠ 0 then
    let links := ((chainLinks start count).flatMap Bytes.littleEndian16).toByteArray
    Action.forEach (fun i => v.image.writeAt (v.layout.linkOffset i start) links)
      v.layout.mirrors 0

/-- Reads the link of a cluster in mirror `i`. -/
def readLink (v : Volume σ) (i : Nat) (cluster : UInt16) : Action σ VolumeError UInt16 := do
  let raw ← v.image.readAt (v.layout.linkOffset i cluster) 2
  return Bytes.word16At raw 0

/-- Follows the links from `cluster` on over at most `budget` further clusters; `front` holds the
clusters before, the last one first. -/
def followChain (v : Volume σ) (cluster : UInt16) (front : List UInt16) :
    (budget : Nat) → Action σ VolumeError (List UInt16)
  | 0 => do
    let _ ← v.readLink 0 cluster
    return (cluster :: front).reverse
  | budget + 1 => do
    let link ← v.readLink 0 cluster
    if endsChain link then return (cluster :: front).reverse
    else v.followChain link (cluster :: front) budget

/-- The clusters linked from `start` on in the first mirror; none before the first data cluster. -/
def chain (v : Volume σ) (start : UInt16) : Action σ VolumeError (List UInt16) :=
  if start.toNat < Layout.firstDataCluster then return []
  else v.followChain start [] (v.layout.clusterLimit - 1)

end Volume

end FatImage
