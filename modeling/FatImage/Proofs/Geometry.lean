import FatImage.Layout
import FatImage.Volume.Table

/-!
# The regions of a volume do not overlap

The mirrors lie one behind the other between the reserved sectors and the
root directory, the root directory ends where the data region starts, every
slot is inside the root directory and every link that can be used is inside
its mirror. These are the inequalities that the proofs about placing need;
none of them knows anything of a device or of bytes.

They are inequalities of numbers without end, and a place that is computed
is one in 64 bits. The two are the same for a layout that is bounded (`Bounded`):
then nothing before the data region is cut, and whatever is inside one of
the regions is not cut either. For a layout that is not, a place that
is computed says nothing about where a region is.
-/

namespace FatImage.Layout

variable {l : Layout}

/-! ## Places, counted without end -/

theorem cut32_of_lt {n : Nat} (h : n < 0x100000000) : cut32 n = n :=
  Nat.mod_eq_of_lt h

theorem cut64_of_lt {n : Nat} (h : n < 0x10000000000000000) : cut64 n = n :=
  Nat.mod_eq_of_lt h

theorem cut64_lt (n : Nat) : cut64 n < 0x10000000000000000 :=
  Nat.mod_lt _ (by decide)

theorem cut64_cut64_add (m n : Nat) : cut64 (cut64 m + n) = cut64 (m + n) :=
  Nat.mod_add_mod ..

def mirrorStart (l : Layout) (i : Nat) : Nat :=
  l.tableOffset + i * l.mirrorBytes

def linkStart (l : Layout) (i : Nat) (cluster : UInt16) : Nat :=
  l.mirrorStart i + 2 * cluster.toNat

def rootStart (l : Layout) : Nat :=
  l.mirrorStart l.mirrors

def slotStart (l : Layout) (slot : Nat) : Nat :=
  l.rootStart + slot * recordSize

def dataStart (l : Layout) : Nat :=
  l.rootStart + l.rootBytes

def clusterStart? (l : Layout) (cluster : UInt16) : Option Nat :=
  if cluster.toNat < firstDataCluster then none
  else some (l.dataStart + (cluster.toNat - firstDataCluster) * l.sectorSize)

/-- However a place is computed, it is what 64 bits keep of where it should be. -/
theorem mirrorOffset_eq_cut64 (l : Layout) (i : Nat) :
    l.mirrorOffset i = cut64 (l.mirrorStart i) := rfl

theorem linkOffset_eq_cut64 (l : Layout) (i : Nat) (cluster : UInt16) :
    l.linkOffset i cluster = cut64 (l.linkStart i cluster) :=
  cut64_cut64_add ..

theorem slotOffset_eq_cut64 (l : Layout) (slot : Nat) :
    l.slotOffset slot = cut64 (l.slotStart slot) :=
  cut64_cut64_add ..

theorem dataOffset_eq_cut64 (l : Layout) : l.dataOffset = cut64 l.dataStart :=
  cut64_cut64_add ..

theorem clusterOffset?_eq_cut64 (l : Layout) (cluster : UInt16) :
    l.clusterOffset? cluster = (l.clusterStart? cluster).map cut64 := by
  unfold clusterOffset? clusterStart?
  split
  · rfl
  · rw [dataOffset_eq_cut64, cut64_cut64_add]
    rfl

/-- The five numbers have the 32 bits that they are given with. -/
structure Narrow (l : Layout) : Prop where
  sectorSize : l.sectorSize < 0x100000000
  reservedSectors : l.reservedSectors < 0x100000000
  mirrors : l.mirrors < 0x100000000
  mirrorSectors : l.mirrorSectors < 0x100000000
  rootEntries : l.rootEntries < 0x100000000

theorem mul_lt_of_narrow {m n : Nat} (hm : m < 0x100000000) (hn : n < 0x100000000) :
    m * n < 0x10000000000000000 :=
  Nat.lt_of_lt_of_le (Nat.mul_lt_mul'' hm hn) (by decide)

theorem Narrow.tableOffset_lt (h : l.Narrow) : l.tableOffset < 0x10000000000000000 :=
  mul_lt_of_narrow h.reservedSectors h.sectorSize

/-- The data region starts at a place that 64 bits can count. -/
def Bounded (l : Layout) : Prop :=
  l.dataStart < 0x10000000000000000

instance : Decidable l.Bounded :=
  inferInstanceAs (Decidable (_ < _))

/-! ## Mirrors -/

theorem mirrorStart_succ (l : Layout) (i : Nat) :
    l.mirrorStart (i + 1) = l.mirrorStart i + l.mirrorBytes := by
  rw [mirrorStart, mirrorStart, Nat.add_mul, Nat.one_mul, Nat.add_assoc]

theorem mirrorStart_mono {i j : Nat} (h : i ≤ j) :
    l.mirrorStart i ≤ l.mirrorStart j :=
  Nat.add_le_add_left (Nat.mul_le_mul_right _ h) _

theorem mirror_end_le {i j : Nat} (h : i < j) :
    l.mirrorStart i + l.mirrorBytes ≤ l.mirrorStart j := by
  rw [← mirrorStart_succ]
  exact mirrorStart_mono h

theorem mirror_end_le_root {i : Nat} (h : i < l.mirrors) :
    l.mirrorStart i + l.mirrorBytes ≤ l.rootStart :=
  mirror_end_le h

theorem tableOffset_le_mirror (l : Layout) (i : Nat) :
    l.tableOffset ≤ l.mirrorStart i :=
  Nat.le_add_right _ _

/-- Mirrors without sectors take no place. -/
theorem mirrorStart_of_mirrorSectors_eq_zero (h : l.mirrorSectors = 0) (i : Nat) :
    l.mirrorStart i = l.tableOffset := by
  rw [mirrorStart, mirrorBytes, h, Nat.zero_mul, Nat.mul_zero, Nat.add_zero]

theorem tableOffset_le_root (l : Layout) : l.tableOffset ≤ l.rootStart :=
  tableOffset_le_mirror l l.mirrors

theorem rootStart_le_data (l : Layout) : l.rootStart ≤ l.dataStart :=
  Nat.le_add_right _ _

theorem exists_mirror {x : Nat} (hx : l.tableOffset ≤ x) (hx' : x < l.rootStart) :
    ∃ i < l.mirrors, ∃ j < l.mirrorBytes, x = l.mirrorStart i + j := by
  have hroot : l.rootStart = l.tableOffset + l.mirrors * l.mirrorBytes := rfl
  have hpos : 0 < l.mirrorBytes := by
    rcases Nat.eq_zero_or_pos l.mirrorBytes with h0 | h0
    · rw [h0, Nat.mul_zero] at hroot
      omega
    · exact h0
  have hdiv := Nat.div_add_mod' (x - l.tableOffset) l.mirrorBytes
  refine ⟨(x - l.tableOffset) / l.mirrorBytes, ?_,
    (x - l.tableOffset) % l.mirrorBytes, Nat.mod_lt _ hpos, ?_⟩
  · rw [Nat.div_lt_iff_lt_mul hpos]
    omega
  · rw [mirrorStart]
    omega

/-! ## Whole sectors -/

theorem dvd_tableOffset (l : Layout) : l.sectorSize ∣ l.tableOffset :=
  Nat.dvd_mul_left _ _

theorem dvd_mirrorStart (l : Layout) (i : Nat) : l.sectorSize ∣ l.mirrorStart i :=
  Nat.dvd_add l.dvd_tableOffset (Nat.dvd_mul_left_of_dvd (Nat.dvd_mul_left _ _) i)

theorem dvd_dataStart (l : Layout) : l.sectorSize ∣ l.dataStart :=
  Nat.dvd_add (l.dvd_mirrorStart l.mirrors) (Nat.dvd_mul_left _ _)

theorem dvd_clusterStart {c : UInt16} {place : Nat} (h : l.clusterStart? c = some place) :
    l.sectorSize ∣ place := by
  unfold clusterStart? at h
  split at h
  · cases h
  · cases h
    exact Nat.dvd_add l.dvd_dataStart (Nat.dvd_mul_left _ _)

/-! ## Links -/

theorem clusterLimit_le (l : Layout) : l.clusterLimit ≤ 0xFFF0 :=
  Nat.min_le_right _ _

theorem toNat_toUInt16 {c : Nat} (h : c ≤ 0xFFF0) : c.toUInt16.toNat = c := by
  rw [Nat.toUInt16_eq, UInt16.toNat_ofNat', Nat.mod_eq_of_lt (by omega)]

theorem two_mul_clusterLimit_le (l : Layout) : 2 * l.clusterLimit ≤ l.mirrorBytes := by
  have h₁ : l.clusterLimit ≤ l.linkCapacity := Nat.min_le_left _ _
  have h₂ : l.linkCapacity ≤ l.mirrorBytes / 2 := Nat.mod_le _ _
  omega

theorem linkStart_eq (l : Layout) (i : Nat) (c : UInt16) :
    l.linkStart i c = l.mirrorStart i + 2 * c.toNat := rfl

/-! ## Slots -/

theorem slot_end_le {slot : Nat} (h : slot < l.slotCount) :
    slot * recordSize + recordSize ≤ l.rootBytes := by
  have hle : l.slotCount * recordSize ≤ l.rootBytes := Nat.div_mul_le_self _ _
  have hmul := Nat.mul_le_mul_right recordSize (show slot + 1 ≤ l.slotCount from h)
  rw [Nat.add_mul, Nat.one_mul] at hmul
  omega

theorem slotStart_end_le {slot : Nat} (h : slot < l.slotCount) :
    l.slotStart slot + recordSize ≤ l.dataStart := by
  have := slot_end_le h
  rw [slotStart, dataStart]
  omega

/-! ## Layouts that fit -/

namespace Bounded

variable (h : l.Bounded)
include h

/-- What lies before the data region, or where it starts, is not cut. -/
theorem cut64_eq {place : Nat} (hplace : place ≤ l.dataStart) : cut64 place = place :=
  cut64_of_lt (Nat.lt_of_le_of_lt hplace h)

theorem mirrorOffset_eq {i : Nat} (hi : i ≤ l.mirrors) : l.mirrorOffset i = l.mirrorStart i :=
  h.cut64_eq (Nat.le_trans (mirrorStart_mono hi) l.rootStart_le_data)

theorem rootOffset_eq : l.rootOffset = l.rootStart :=
  h.mirrorOffset_eq (Nat.le_refl _)

theorem dataOffset_eq : l.dataOffset = l.dataStart := by
  rw [dataOffset_eq_cut64, h.cut64_eq (Nat.le_refl _)]

theorem linkOffset_eq {i : Nat} (hi : i < l.mirrors) {c : UInt16}
    (hc : 2 * c.toNat ≤ l.mirrorBytes) : l.linkOffset i c = l.linkStart i c := by
  have hend := mirror_end_le_root hi
  have hroot := l.rootStart_le_data
  rw [linkOffset_eq_cut64, h.cut64_eq (by rw [linkStart_eq]; omega)]

theorem slotOffset_eq {slot : Nat} (hslot : slot < l.slotCount) :
    l.slotOffset slot = l.slotStart slot := by
  have hend := slotStart_end_le hslot
  rw [slotOffset_eq_cut64, h.cut64_eq (by omega)]

end Bounded

/-- Wherever a cluster may lead, in the table or in the data region, is a place that 64
bits can count. -/
structure Uncut (l : Layout) : Prop where
  link : ∀ i ≤ l.mirrors, ∀ c, l.linkStart i c < 0x10000000000000000
  cluster : ∀ c place, l.clusterStart? c = some place → place < 0x10000000000000000

/-- A link takes less room in the table than its cluster takes behind it. -/
theorem uncut_of_places (hs : 512 ≤ l.sectorSize)
    (h : ∀ c place, l.clusterStart? c = some place → place < 0x10000000000000000) :
    l.Uncut where
  link i hi c := by
    have hmirror : l.mirrorStart i ≤ l.rootStart := mirrorStart_mono hi
    have hroot := l.rootStart_le_data
    have hc := c.toNat_lt
    have hlast : l.dataStart + (0xFFFF - firstDataCluster) * l.sectorSize < 0x10000000000000000 :=
      h 0xFFFF _ rfl
    have hmul := Nat.mul_le_mul_left (0xFFFF - firstDataCluster) hs
    rw [firstDataCluster] at hlast hmul
    rw [linkStart_eq]
    omega
  cluster := h

/-- It is enough that there is room behind the data region's start for one cluster more than
there are numbers. -/
theorem uncut_of_le (hs : 512 ≤ l.sectorSize)
    (h : l.dataStart + 0x10000 * l.sectorSize ≤ 0x10000000000000000) : l.Uncut := by
  refine uncut_of_places hs fun c place hplace => ?_
  have hmul := Nat.mul_le_mul_right l.sectorSize
    (show c.toNat - firstDataCluster ≤ 0xFFFF by have := c.toNat_lt; omega)
  unfold clusterStart? at hplace
  split at hplace
  · cases hplace
  · cases hplace
    omega

theorem narrow_bootDisk : bootDisk.Narrow := by
  constructor <;> decide

theorem uncut_bootDisk : bootDisk.Uncut :=
  uncut_of_le (by decide) (by decide)

namespace Uncut

variable (h : l.Uncut)
include h

theorem bounded : l.Bounded :=
  h.cluster 2 l.dataStart (by simp [clusterStart?, firstDataCluster])

theorem linkOffset_eq {i : Nat} (hi : i ≤ l.mirrors) (c : UInt16) :
    l.linkOffset i c = l.linkStart i c := by
  rw [linkOffset_eq_cut64, cut64_of_lt (h.link i hi c)]

theorem clusterOffset?_eq (c : UInt16) : l.clusterOffset? c = l.clusterStart? c := by
  rw [clusterOffset?_eq_cut64]
  cases hplace : l.clusterStart? c with
  | none => rfl
  | some place => rw [Option.map_some, cut64_of_lt (h.cluster c place hplace)]

end Uncut

/-! ## Slots, as a search comes to them -/

/-- How many slots a search comes to: in each sector those of its whole records. -/
def searchedSlots (l : Layout) : Nat :=
  l.rootSectors * (l.sectorSize / recordSize)

/-- Where a search looks at a slot: among the records of a sector, each of which starts
with its first record. -/
def searchOffset (l : Layout) (slot : Nat) : Nat :=
  l.rootStart + slot / (l.sectorSize / recordSize) * l.sectorSize +
    slot % (l.sectorSize / recordSize) * recordSize

theorem searchOffset_add {i : Nat} (hi : i < l.sectorSize / recordSize) (sector : Nat) :
    l.searchOffset (sector * (l.sectorSize / recordSize) + i) =
      l.rootStart + sector * l.sectorSize + i * recordSize := by
  rw [searchOffset, Nat.mul_comm sector, Nat.mul_add_div (by omega), Nat.div_eq_of_lt hi,
    Nat.mul_add_mod, Nat.mod_eq_of_lt hi, Nat.add_zero]

theorem searchedSlots_le_slotCount (l : Layout) : l.searchedSlots ≤ l.slotCount := by
  rw [slotCount, Nat.le_div_iff_mul_le (by decide), searchedSlots, Nat.mul_assoc]
  exact Nat.mul_le_mul_left _ (Nat.div_mul_le_self _ _)

section

variable (h : recordSize ∣ l.sectorSize ∨ l.rootSectors ≤ 1)
include h

/-- A search comes to every slot if sectors hold whole records, or if there is only one. -/
theorem searchedSlots_eq_slotCount : l.searchedSlots = l.slotCount := by
  rw [slotCount, searchedSlots, rootBytes]
  rcases h with hwhole | hone
  · rw [Nat.mul_div_assoc _ hwhole]
  · rcases Nat.le_one_iff_eq_zero_or_eq_one.1 hone with h0 | h1
    · rw [h0, Nat.zero_mul, Nat.zero_mul, Nat.zero_div]
    · rw [h1, Nat.one_mul, Nat.one_mul]

/-- Then it looks at each of them where the slot is. -/
theorem searchOffset_eq_slotStart {slot : Nat} (hslot : slot < l.searchedSlots) :
    l.searchOffset slot = l.slotStart slot := by
  rw [searchOffset, slotStart]
  rcases h with hwhole | hone
  · have hsector := Nat.div_mul_cancel hwhole
    have hdiv := Nat.div_add_mod' slot (l.sectorSize / recordSize)
    have hmul : slot / (l.sectorSize / recordSize) * l.sectorSize =
        slot / (l.sectorSize / recordSize) * (l.sectorSize / recordSize) * recordSize := by
      rw [Nat.mul_assoc, hsector]
    rw [hmul, Nat.add_assoc, ← Nat.add_mul, hdiv]
  · have hle := Nat.mul_le_mul_right (l.sectorSize / recordSize) hone
    rw [searchedSlots] at hslot
    have hlt : slot < l.sectorSize / recordSize := by omega
    rw [Nat.div_eq_of_lt hlt, Nat.mod_eq_of_lt hlt, Nat.zero_mul, Nat.add_zero]

end

/-! ## Clusters -/

/-- The pieces of what is not nothing: one, and those of what is left behind it. -/
theorem ceilDiv_eq_succ {n size : Nat} (hs : 0 < size) (hn : 0 < n) :
    ceilDiv n size = ceilDiv (n - min n size) size + 1 := by
  have hrest : ceilDiv (n - min n size) size = (n - 1) / size := by
    rw [ceilDiv]
    rcases Nat.le_total n size with hle | hge
    · rw [Nat.min_eq_left hle, Nat.sub_self, Nat.zero_add, Nat.div_eq_of_lt (by omega),
        Nat.div_eq_of_lt (by omega)]
    · rw [Nat.min_eq_right hge, show n - size + size - 1 = n - 1 by omega]
  rw [hrest, ceilDiv, show n + size - 1 = n - 1 + size by omega, Nat.add_div_right _ hs]

theorem clustersFor_zero (hs : 0 < l.sectorSize) : l.clustersFor 0 = 0 := by
  rw [clustersFor, ceilDiv, Nat.zero_add]
  exact Nat.div_eq_of_lt (by omega)

/-- The clusters of a file have room for its bytes. -/
theorem le_clustersFor_mul (hs : 0 < l.sectorSize) (n : Nat) :
    n ≤ l.clustersFor n * l.sectorSize := by
  have hdiv := Nat.div_add_mod' (n + l.sectorSize - 1) l.sectorSize
  have hmod := Nat.mod_lt (n + l.sectorSize - 1) hs
  rw [clustersFor, ceilDiv]
  omega

/-- The last cluster of a file holds at least one byte of it. -/
theorem clustersFor_mul_lt (hs : 0 < l.sectorSize) (n : Nat) :
    l.clustersFor n * l.sectorSize < n + l.sectorSize := by
  have := Nat.div_mul_le_self (n + l.sectorSize - 1) l.sectorSize
  rw [clustersFor, ceilDiv]
  omega

/-- A quotient that is rounded up is small just if the product is great. -/
theorem clustersFor_le_iff (hs : 0 < l.sectorSize) {n k : Nat} :
    l.clustersFor n ≤ k ↔ n ≤ k * l.sectorSize := by
  have hroom := le_clustersFor_mul hs n
  have hlast := clustersFor_mul_lt hs n
  constructor
  · intro h
    have hmul := Nat.mul_le_mul_right l.sectorSize h
    omega
  · intro h
    refine Nat.le_of_not_lt fun hlt => ?_
    have hmul := Nat.mul_le_mul_right l.sectorSize (show k + 1 ≤ l.clustersFor n from hlt)
    rw [Nat.succ_mul] at hmul
    omega

theorem clustersFor_eq_zero_iff (hs : 0 < l.sectorSize) {n : Nat} :
    l.clustersFor n = 0 ↔ n = 0 := by
  rw [← Nat.le_zero, clustersFor_le_iff hs, Nat.zero_mul, Nat.le_zero]

/-- A file that 32 bits can count has clusters that 24 bits can count, as sectors have at
least 512 bytes. -/
theorem clustersFor_le_of_lt (hs : 512 ≤ l.sectorSize) {n : Nat} (hn : n < 0x100000000) :
    l.clustersFor n ≤ 0x800000 := by
  have hmul := Nat.mul_le_mul_left 0x800000 hs
  rw [clustersFor_le_iff (Nat.lt_of_lt_of_le (by decide) hs)]
  omega

theorem clustersFor_le (hs : 0 < l.sectorSize) (n : Nat) : l.clustersFor n ≤ n :=
  (clustersFor_le_iff hs).2 (Nat.le_mul_of_pos_right n hs)

/-! ## Chains that can be linked -/

section

variable {start : UInt16} {count : Nat} (hcount : start.toNat + count ≤ 0x100000000)
include hcount

theorem checkChain_eq_ok_iff :
    l.checkChain start count = .ok () ↔
      (count ≠ 0 → start.toNat + count - 1 < l.clusterLimit) := by
  unfold checkChain
  split
  · next h0 => exact ⟨fun _ hn => absurd h0 hn, fun _ => rfl⟩
  · next hn =>
      dsimp only
      rw [cut32_of_lt (by omega)]
      split
      · next hover => exact ⟨nofun, fun h => absurd (h hn) (Nat.not_lt.2 hover)⟩
      · next hlinked => exact ⟨fun _ _ => Nat.not_le.1 hlinked, fun _ => rfl⟩

theorem checkChain_eq_error (hn : count ≠ 0)
    (hover : l.clusterLimit ≤ start.toNat + count - 1) :
    l.checkChain start count =
      .error (.tableOverflow (start.toNat + count - 1) l.clusterLimit) := by
  unfold checkChain
  dsimp only
  rw [cut32_of_lt (by omega), if_neg hn, if_pos hover]

end

end FatImage.Layout
