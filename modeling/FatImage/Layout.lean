/-!
# The layout of a volume

Five numbers fix every place on the disk. After the reserved sectors come the mirrors of the
allocation table, then the root directory, then the data region, which is cut into clusters of one
sector each. Whoever reads the disk later computes the same places from the same numbers, so none
of them is ever read from the image.

What is computed from the five numbers, which have 32 bits each, is kept in words: places on the
disk in 64 bits, the records of the root directory and the links of a mirror in 32. What a word has
no room for is lost without notice. A product of two of the numbers always has room in 64 bits.
-/

namespace FatImage

/-- The numbers that fix a volume. -/
structure Layout where
  /-- Bytes in a sector, which is also the size of a cluster. -/
  sectorSize : Nat
  /-- Sectors before the first mirror. -/
  reservedSectors : Nat
  /-- Copies of the allocation table. -/
  mirrors : Nat
  /-- Sectors in each copy. -/
  mirrorSectors : Nat
  /-- Records that the root directory must have room for. -/
  rootEntries : Nat
  deriving DecidableEq, Repr

namespace Layout

def bootDisk : Layout where
  sectorSize := 512
  reservedSectors := 4096
  mirrors := 2
  mirrorSectors := 256
  rootEntries := 512

/-- Bytes in a directory record. -/
def recordSize : Nat := 32

/-- The first cluster with a place in the data region. -/
def firstDataCluster : Nat := 2

/-- Links from here on are reserved or end a chain. -/
def reservedLinks : Nat := 0xFFF0

/-- What 32 bits keep of a number. -/
def cut32 (n : Nat) : Nat :=
  n % 0x100000000

/-- What 64 bits keep of a number. -/
def cut64 (n : Nat) : Nat :=
  n % 0x10000000000000000

/-- How many pieces of `size` are needed to hold `n`. -/
def ceilDiv (n size : Nat) : Nat :=
  (n + size - 1) / size

def tableOffset (l : Layout) : Nat :=
  l.reservedSectors * l.sectorSize

def mirrorBytes (l : Layout) : Nat :=
  l.mirrorSectors * l.sectorSize

/-- Where mirror `i` starts. -/
def mirrorOffset (l : Layout) (i : Nat) : Nat :=
  cut64 (l.tableOffset + i * l.mirrorBytes)

/-- Where the link of a cluster stands in mirror `i`: every link has two bytes. -/
def linkOffset (l : Layout) (i : Nat) (cluster : UInt16) : Nat :=
  cut64 (l.mirrorOffset i + 2 * cluster.toNat)

def rootOffset (l : Layout) : Nat :=
  l.mirrorOffset l.mirrors

/-- Sectors of the root directory: enough for all its records, if 32 bits can count their bytes. -/
def rootSectors (l : Layout) : Nat :=
  ceilDiv (cut32 (l.rootEntries * recordSize)) l.sectorSize

def rootBytes (l : Layout) : Nat :=
  l.rootSectors * l.sectorSize

/-- Records that fit the root directory. -/
def slotCount (l : Layout) : Nat :=
  l.rootBytes / recordSize

/-- Where the record in a slot starts. -/
def slotOffset (l : Layout) (slot : Nat) : Nat :=
  cut64 (l.rootOffset + slot * recordSize)

def dataOffset (l : Layout) : Nat :=
  cut64 (l.rootOffset + l.rootBytes)

/-- Links in one mirror, as far as 32 bits can count them. -/
def linkCapacity (l : Layout) : Nat :=
  cut32 (l.mirrorBytes / 2)

/-- The first cluster number that cannot be linked. -/
def clusterLimit (l : Layout) : Nat :=
  min l.linkCapacity reservedLinks

/-- The longest file: as many clusters as can be linked, but no size above 32 bits. -/
def maxFileSize (l : Layout) : Nat :=
  min ((l.clusterLimit - firstDataCluster) * l.sectorSize) 0xFFFFFFFF

/-- Where a cluster starts; clusters 0 and 1 have no place. -/
def clusterOffset? (l : Layout) (cluster : UInt16) : Option Nat :=
  if cluster.toNat < firstDataCluster then none
  else some (cut64 (l.dataOffset + (cluster.toNat - firstDataCluster) * l.sectorSize))

/-- Clusters that `length` bytes of a file take. -/
def clustersFor (l : Layout) (length : Nat) : Nat :=
  ceilDiv length l.sectorSize

end Layout

end FatImage
