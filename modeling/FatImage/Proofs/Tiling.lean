import FatImage.Proofs.Words

/-!
# The regions of a layout tile the disk

Five numbers say where everything is, and nothing else is ever asked. So it
has to follow from the five formulas alone that no byte of a disk belongs to
two things: that the mirrors share out what is between the reserved sectors
and the root directory, that the root directory goes on to the data region
and the clusters go on from there, and that links, records and files stay
inside what is theirs. `Apart` is the list of these facts, and they hold of
every layout whose sectors have the 512 bytes that a device has at least and
whose clusters have places that 64 bits can count.

`Tiled` adds that the root directory has room for the records that it is to
hold, and this is not so for every layout. Their bytes are counted with 32
bits, and from 2^27 records on the count is cut, however far below 2^64 all
places are. With just so many records it is zero: the root directory gets no
sector, the data region starts where it should, and no record has a slot.
There is no other case (`regions_tile_iff`).
-/

namespace FatImage.Layout

variable {piece : Nat → Nat} {size count start stop : Nat} {l : Layout}

/-- `count` pieces of `size` bytes, each of which starts where the one before ends, and
each byte from `start` up to `stop` is in one of them and in no other. -/
structure Tiles (piece : Nat → Nat) (size count start stop : Nat) : Prop where
  first : 0 < count → piece 0 = start
  next : ∀ i, i + 1 < count → piece (i + 1) = piece i + size
  inside : ∀ i < count, start ≤ piece i ∧ piece i + size ≤ stop
  covers : ∀ x, start ≤ x → x < stop → ∃ i < count, piece i ≤ x ∧ x < piece i + size
  apart : ∀ i j, i < j → j < count → piece i + size ≤ piece j

/-- Pieces whose places are multiples of their size, counted from the start. -/
theorem tiles_of_multiples (hpiece : ∀ i < count, piece i = start + i * size)
    (hstop : stop = start + count * size) : Tiles piece size count start stop where
  first hcount := by rw [hpiece 0 hcount, Nat.zero_mul, Nat.add_zero]
  next i hi := by
    rw [hpiece (i + 1) hi, hpiece i (by omega), Nat.succ_mul, Nat.add_assoc]
  inside i hi := by
    have hmul := Nat.mul_le_mul_right size (show i + 1 ≤ count from hi)
    rw [Nat.succ_mul] at hmul
    rw [hpiece i hi]
    omega
  covers x hx hx' := by
    have hpos : 0 < size := by
      refine Nat.pos_of_ne_zero fun h0 => ?_
      rw [h0, Nat.mul_zero] at hstop
      omega
    have hdiv := Nat.div_add_mod' (x - start) size
    have hmod := Nat.mod_lt (x - start) hpos
    have hi : (x - start) / size < count := by
      rw [Nat.div_lt_iff_lt_mul hpos]
      omega
    refine ⟨_, hi, ?_⟩
    rw [hpiece _ hi]
    omega
  apart i j hij hj := by
    have hmul := Nat.mul_le_mul_right size (show i + 1 ≤ j from hij)
    rw [Nat.succ_mul] at hmul
    rw [hpiece i (by omega), hpiece j hj]
    omega

/-- The clusters that have a place in the data region, from the first one on. -/
def clusterCount : Nat := 0x10000 - firstDataCluster

/-- Nothing on a disk is in the way of anything else. -/
structure Apart (l : Layout) : Prop where
  mirrors : Tiles l.mirrorOffset l.mirrorBytes l.mirrors l.tableOffset l.rootOffset
  root : l.rootOffset + l.rootBytes = l.dataOffset
  /-- The clusters, of which the first two have no place, follow one another. -/
  clusters : ∃ place, (∀ c : UInt16, l.clusterOffset? c =
      if c.toNat < firstDataCluster then none else some (place (c.toNat - firstDataCluster))) ∧
    Tiles place l.sectorSize clusterCount l.dataOffset
      (l.dataOffset + clusterCount * l.sectorSize)
  tableAligned : l.sectorSize ∣ l.tableOffset
  mirrorAligned : ∀ i ≤ l.mirrors, l.sectorSize ∣ l.mirrorOffset i
  rootAligned : l.sectorSize ∣ l.rootOffset
  dataAligned : l.sectorSize ∣ l.dataOffset
  clusterAligned : ∀ c place, l.clusterOffset? c = some place → l.sectorSize ∣ place
  /-- The two bytes of a link are in its mirror. -/
  link : ∀ i < l.mirrors, ∀ c : UInt16, c.toNat < l.clusterLimit →
    l.mirrorOffset i ≤ l.linkOffset i c ∧
      l.linkOffset i c + 2 ≤ l.mirrorOffset i + l.mirrorBytes
  slot : ∀ slot < l.slotCount,
    l.rootOffset ≤ l.slotOffset slot ∧ l.slotOffset slot + recordSize ≤ l.dataOffset
  /-- Clusters have room for a file, and one less would not have it. -/
  file : ∀ length, length ≤ l.clustersFor length * l.sectorSize ∧
    l.clustersFor length * l.sectorSize < length + l.sectorSize

theorem mirrors_tile (h : l.Bounded) :
    Tiles l.mirrorOffset l.mirrorBytes l.mirrors l.tableOffset l.rootOffset :=
  tiles_of_multiples (fun _ hi => h.mirrorOffset_eq (Nat.le_of_lt hi)) h.rootOffset_eq

theorem clusters_tile (h : l.Uncut) :
    ∃ place, (∀ c : UInt16, l.clusterOffset? c =
      if c.toNat < firstDataCluster then none else some (place (c.toNat - firstDataCluster))) ∧
    Tiles place l.sectorSize clusterCount l.dataOffset
      (l.dataOffset + clusterCount * l.sectorSize) := by
  refine ⟨fun i => l.dataOffset + i * l.sectorSize, fun c => ?_,
    tiles_of_multiples (fun _ _ => rfl) rfl⟩
  rw [h.clusterOffset?_eq, h.bounded.dataOffset_eq]
  rfl

theorem link_inside (h : l.Bounded) {i : Nat} (hi : i < l.mirrors) {c : UInt16}
    (hc : c.toNat < l.clusterLimit) : l.mirrorOffset i ≤ l.linkOffset i c ∧
      l.linkOffset i c + 2 ≤ l.mirrorOffset i + l.mirrorBytes := by
  have hlimit := two_mul_clusterLimit_le l
  rw [h.linkOffset_eq hi (by omega), h.mirrorOffset_eq (Nat.le_of_lt hi), linkStart_eq]
  omega

theorem slot_inside (h : l.Bounded) {slot : Nat} (hslot : slot < l.slotCount) :
    l.rootOffset ≤ l.slotOffset slot ∧ l.slotOffset slot + recordSize ≤ l.dataOffset := by
  have hend := slotStart_end_le hslot
  rw [h.rootOffset_eq, h.slotOffset_eq hslot, h.dataOffset_eq]
  exact ⟨Nat.le_add_right _ _, hend⟩

theorem apart (h : l.Uncut) (hs : 0 < l.sectorSize) : l.Apart where
  mirrors := mirrors_tile h.bounded
  root := by
    rw [h.bounded.rootOffset_eq, h.bounded.dataOffset_eq]
    rfl
  clusters := clusters_tile h
  tableAligned := l.dvd_tableOffset
  mirrorAligned i hi := h.bounded.mirrorOffset_eq hi ▸ l.dvd_mirrorStart i
  rootAligned := h.bounded.rootOffset_eq ▸ l.dvd_mirrorStart l.mirrors
  dataAligned := h.bounded.dataOffset_eq ▸ l.dvd_dataStart
  clusterAligned c place hplace := dvd_clusterStart (h.clusterOffset?_eq c ▸ hplace)
  link _ hi _ hc := link_inside h.bounded hi hc
  slot _ hslot := slot_inside h.bounded hslot
  file n := ⟨le_clustersFor_mul hs n, clustersFor_mul_lt hs n⟩

end FatImage.Layout
