import FatImage.Proofs.Words

/-!
# What a larger table holds

Whoever runs out of clusters gives each mirror more sectors, and expects that
nothing is lost by it: the limit, the longest file and the chains that are
accepted should be those of the smaller table or more.

On the way from the sectors of a mirror to the limit there is a product, a
half, a cut to 32 bits and a greatest value. All of them but the cut respect
order, and so do the length of the longest file and the check of a chain,
which look at the limit alone. The cut does not. A mirror of 8 GiB has room
for 2^32 links and is counted as one without any, so that it can link no
cluster, whereas a mirror of one sector can link 254.

The cut does no harm if there is nothing to be cut off, or if what it leaves
is still no less than the greatest limit. There are no other cases
(`holdsAllOf_smaller_iff`). A mirror from which something is cut has more
sectors than one with the greatest limit: a single sector has fewer than 2^31
links, so the least number of sectors that has links for that limit does not
yet reach the cut.
-/

namespace FatImage

variable {l small : Layout} {n : Nat}

namespace Words

/-- The number of links is put into its word without a look at what it loses there. -/
def clusterLimit (l : Layout) : Except Overflow Nat := do
  let bytes ← mul .w64 l.mirrorSectors l.sectorSize
  let capacity := bytes / 2 % Width.w32.size
  return if capacity < Layout.reservedLinks then capacity else Layout.reservedLinks

def maxFileSize (l : Layout) : Except Overflow Nat := do
  let limit ← clusterLimit l
  if limit ≤ Layout.firstDataCluster then return 0
  else do
    let clusters ← sub limit Layout.firstDataCluster
    let bytes ← mul .w64 clusters l.sectorSize
    return if 0xFFFFFFFF < bytes then 0xFFFFFFFF else bytes

theorem clusterLimit_eq (h : l.mirrorBytes < Width.w64.size) :
    clusterLimit l = .ok l.clusterLimit := by
  have hlimit : (if l.linkCapacity < Layout.reservedLinks then l.linkCapacity
      else Layout.reservedLinks) = l.clusterLimit := by
    unfold Layout.clusterLimit
    split <;> omega
  unfold clusterLimit
  rw [mul_of_lt h, ok_bind]
  exact congrArg Except.ok hlimit

theorem maxFileSize_eq (h : l.mirrorBytes < Width.w64.size)
    (hsector : l.sectorSize < Width.w32.size) : maxFileSize l = .ok l.maxFileSize := by
  unfold maxFileSize Layout.maxFileSize
  rw [clusterLimit_eq h, ok_bind]
  split
  · next hnone =>
      rw [Nat.sub_eq_zero_of_le hnone, Nat.zero_mul, Nat.zero_min]
      rfl
  · next hsome =>
      have hle := l.clusterLimit_le
      have hbytes : (l.clusterLimit - Layout.firstDataCluster) * l.sectorSize <
          Width.w64.size :=
        calc (l.clusterLimit - Layout.firstDataCluster) * l.sectorSize
            ≤ 0xFFF0 * Width.w32.size := Nat.mul_le_mul (by omega) (Nat.le_of_lt hsector)
          _ < Width.w64.size := by decide
      rw [sub_of_le (by omega), ok_bind, mul_of_lt hbytes, ok_bind]
      refine congrArg Except.ok ?_
      split <;> omega

/-- A chain that is checked in words is one whose last cluster has room, and is checked
as it would be otherwise. -/
theorem checkChain_eq_ok_iff {start : UInt16} {count : Nat} {r : Except VolumeError Unit} :
    checkChain l start count = .ok r ↔
      (count ≠ 0 → start.toNat + count < Width.w32.size) ∧ l.checkChain start count = r := by
  unfold checkChain Layout.checkChain add
  split
  · next hnone =>
      exact ⟨fun hr => ⟨fun hsome => absurd hnone hsome, Except.ok.inj hr⟩,
        fun hr => congrArg Except.ok hr.2⟩
  · next hsome =>
      rw [hold_bind_eq_ok_iff, sub_of_le (by omega), ok_bind]
      have hlast : start.toNat + count < Width.w32.size →
          Layout.cut32 (start.toNat + count - 1) = start.toNat + count - 1 :=
        fun hr => Layout.cut32_of_lt (Nat.lt_of_le_of_lt (Nat.sub_le _ _) hr)
      dsimp only
      constructor
      · intro hr
        rw [hlast hr.1]
        exact ⟨fun _ => hr.1, Except.ok.inj hr.2⟩
      · intro hr
        rw [hlast (hr.1 hsome)] at hr
        exact ⟨hr.1 hsome, congrArg Except.ok hr.2⟩

end Words

namespace Layout

/-- The layout that has `n` sectors in each mirror and is the same otherwise. -/
def withMirrorSectors (l : Layout) (n : Nat) : Layout :=
  { l with mirrorSectors := n }

/-- Links that there is room for in a mirror; `linkCapacity` is what 32 bits keep of it. -/
def linkRoom (l : Layout) : Nat :=
  l.mirrorBytes / 2

/-- Whatever can be linked in the smaller layout can be linked in this one. -/
structure HoldsAllOf (l small : Layout) : Prop where
  limit : small.clusterLimit ≤ l.clusterLimit
  longest : small.maxFileSize ≤ l.maxFileSize
  chain : ∀ start count, small.checkChain start count = .ok () →
    l.checkChain start count = .ok ()
  /-- Also where the number of the last cluster has to have room. -/
  chainInWords : ∀ start count, Words.checkChain small start count = .ok (.ok ()) →
    Words.checkChain l start count = .ok (.ok ())

/-- What a layout holds is the same in words: there, too, nothing but the number of links is
ever cut. -/
structure CountedInWords (l : Layout) : Prop where
  limit : Words.clusterLimit l = .ok l.clusterLimit
  longest : Words.maxFileSize l = .ok l.maxFileSize

theorem countedInWords (hsector : l.sectorSize < Words.Width.w32.size)
    (hmirror : l.mirrorSectors < Words.Width.w32.size) : l.CountedInWords := by
  have hbytes : l.mirrorBytes < Words.Width.w64.size := Nat.mul_lt_mul'' hmirror hsector
  exact ⟨Words.clusterLimit_eq hbytes, Words.maxFileSize_eq hbytes hsector⟩

/-! ## What looks at the limit alone -/

theorem maxFileSize_mono (hsector : small.sectorSize = l.sectorSize)
    (h : small.clusterLimit ≤ l.clusterLimit) : small.maxFileSize ≤ l.maxFileSize := by
  have hbytes := Nat.mul_le_mul_right l.sectorSize
    (Nat.sub_le_sub_right h firstDataCluster)
  rw [maxFileSize, maxFileSize, hsector]
  omega

theorem checkChain_mono (h : small.clusterLimit ≤ l.clusterLimit) {start : UInt16} {count : Nat}
    (hchain : small.checkChain start count = .ok ()) : l.checkChain start count = .ok () := by
  unfold checkChain at hchain ⊢
  dsimp only at hchain ⊢
  split
  · rfl
  · next hsome =>
      rw [if_neg hsome] at hchain
      split at hchain
      · cases hchain
      · next hlinked => exact if_neg fun hover => hlinked (Nat.le_trans h hover)

theorem holdsAllOf_iff : l.HoldsAllOf (l.withMirrorSectors n) ↔
    (l.withMirrorSectors n).clusterLimit ≤ l.clusterLimit := by
  refine ⟨HoldsAllOf.limit, fun h => ⟨h, maxFileSize_mono rfl h, ?_, ?_⟩⟩
  · exact fun _ _ => checkChain_mono h
  · intro start count hchain
    rw [Words.checkChain_eq_ok_iff] at hchain ⊢
    exact ⟨hchain.1, checkChain_mono h hchain.2⟩

/-! ## What the limit makes of the links -/

/-- No limit is above the greatest, so it is the number of links that decides. -/
theorem clusterLimit_le_clusterLimit_iff :
    small.clusterLimit ≤ l.clusterLimit ↔ small.clusterLimit ≤ l.linkCapacity := by
  have hmin : l.clusterLimit = min l.linkCapacity reservedLinks := rfl
  rw [hmin, Nat.le_min]
  exact and_iff_left small.clusterLimit_le

theorem clusterLimit_le_linkRoom (l : Layout) : l.clusterLimit ≤ l.linkRoom :=
  Nat.le_trans (Nat.min_le_left _ _) (Nat.mod_le _ _)

theorem clusterLimit_eq_linkRoom_iff : l.clusterLimit = min l.linkRoom reservedLinks ↔
    l.linkRoom < Words.Width.w32.size ∨ reservedLinks ≤ l.linkCapacity := by
  have hkept : l.linkCapacity = l.linkRoom % 0x100000000 := rfl
  have hsize : Words.Width.w32.size = 0x100000000 := rfl
  rw [clusterLimit]
  omega

section

variable (h : n ≤ l.mirrorSectors)
include h

theorem mirrorBytes_withMirrorSectors_le : (l.withMirrorSectors n).mirrorBytes ≤ l.mirrorBytes :=
  Nat.mul_le_mul_right _ h

theorem linkRoom_withMirrorSectors_le : (l.withMirrorSectors n).linkRoom ≤ l.linkRoom :=
  Nat.div_le_div_right (mirrorBytes_withMirrorSectors_le h)

/-- Fewer sectors in the mirrors move every place towards the start of the disk. -/
theorem exists_geometry_withMirrorSectors {g : Words.Geometry} (hg : Words.geometry l = .ok g) :
    ∃ g', Words.geometry (l.withMirrorSectors n) = .ok g' := by
  obtain ⟨htable, hsectors, hmirrors, hroot, hrecords, hrootBytes, hdata, -⟩ :=
    Words.geometry_eq_ok_iff.1 hg
  have hbytes := Nat.mul_le_mul_left l.mirrors (mirrorBytes_withMirrorSectors_le h)
  have hroot' : (l.withMirrorSectors n).rootStart ≤ l.rootStart :=
    Nat.add_le_add_left hbytes _
  have hdata' : (l.withMirrorSectors n).dataStart ≤ l.dataStart :=
    Nat.add_le_add_right hroot' _
  exact ⟨_, Words.geometry_eq_ok_iff.2 ⟨htable,
    Nat.lt_of_le_of_lt (Nat.mul_le_mul_left _ h) hsectors, Nat.lt_of_le_of_lt hbytes hmirrors,
    Nat.lt_of_le_of_lt hroot' hroot, hrecords, hrootBytes,
    Nat.lt_of_le_of_lt hdata' hdata, rfl⟩⟩

end

/-- A table from which something is cut has more sectors than one with the greatest limit. -/
theorem exists_greatest_clusterLimit (hsector : l.sectorSize < Words.Width.w32.size)
    (hroom : Words.Width.w32.size ≤ l.linkRoom) :
    ∃ n ≤ l.mirrorSectors, (l.withMirrorSectors n).clusterLimit = reservedLinks := by
  have hsize : Words.Width.w32.size = 0x100000000 := rfl
  have hlinks : reservedLinks = 0xFFF0 := rfl
  have hbytes : 2 * Words.Width.w32.size ≤ l.mirrorBytes := by
    rw [linkRoom] at hroom
    omega
  have hpos : 0 < l.sectorSize := by
    refine Nat.pos_of_ne_zero fun h0 => ?_
    rw [mirrorBytes, h0, Nat.mul_zero] at hbytes
    omega
  -- the least number of sectors with links up to the limit
  obtain ⟨n, hn, hleast, hmost⟩ : ∃ n ≤ l.mirrorSectors,
      2 * reservedLinks ≤ (l.withMirrorSectors n).mirrorBytes ∧
      (l.withMirrorSectors n).mirrorBytes < 2 * reservedLinks + l.sectorSize :=
    ⟨l.clustersFor (2 * reservedLinks),
      (clustersFor_le_iff hpos).2 (Nat.le_trans (by omega) hbytes),
      le_clustersFor_mul hpos _, clustersFor_mul_lt hpos _⟩
  have hkept : (l.withMirrorSectors n).linkCapacity = (l.withMirrorSectors n).mirrorBytes / 2 :=
    Nat.mod_eq_of_lt (by omega)
  refine ⟨n, hn, ?_⟩
  rw [clusterLimit, hkept]
  exact Nat.min_eq_right (by omega)

/-! ## Larger and smaller tables -/

/-- A table holds all that one with fewer sectors holds just if the limit of that one is
within the number of links that is kept of it. And it holds all that any of them holds just
if that number is not cut, or is no less than the greatest limit for all that is cut. -/
theorem holdsAllOf_smaller_iff (hsector : l.sectorSize < Words.Width.w32.size)
    (hmirror : l.mirrorSectors < Words.Width.w32.size) :
    (∀ n ≤ l.mirrorSectors, (l.withMirrorSectors n).CountedInWords ∧
      (∀ g, Words.geometry l = .ok g →
        ∃ g', Words.geometry (l.withMirrorSectors n) = .ok g') ∧
      (l.HoldsAllOf (l.withMirrorSectors n) ↔
        (l.withMirrorSectors n).clusterLimit ≤ l.linkCapacity)) ∧
    ((∀ n ≤ l.mirrorSectors, l.HoldsAllOf (l.withMirrorSectors n)) ↔
      l.linkRoom < Words.Width.w32.size ∨ reservedLinks ≤ l.linkCapacity) := by
  constructor
  · intro n hn
    exact ⟨countedInWords hsector (Nat.lt_of_le_of_lt hn hmirror),
      fun g hg => exists_geometry_withMirrorSectors hn hg,
      holdsAllOf_iff.trans clusterLimit_le_clusterLimit_iff⟩
  · constructor
    · intro hall
      refine Decidable.byContradiction fun hno => ?_
      rw [not_or, Nat.not_lt, Nat.not_le] at hno
      obtain ⟨n, hn, hgreatest⟩ := exists_greatest_clusterLimit hsector hno.1
      have hlimit := (hall n hn).limit
      have hkept : l.clusterLimit ≤ l.linkCapacity := Nat.min_le_left _ _
      omega
    · intro hkept n hn
      rw [holdsAllOf_iff, clusterLimit_eq_linkRoom_iff.2 hkept, Nat.le_min]
      exact ⟨Nat.le_trans (clusterLimit_le_linkRoom _) (linkRoom_withMirrorSectors_le hn),
        clusterLimit_le _⟩

/-- On the boot disk nothing is cut. -/
theorem holdsAllOf_smaller_bootDisk :
    bootDisk.sectorSize < Words.Width.w32.size ∧ bootDisk.mirrorSectors < Words.Width.w32.size ∧
    ∀ n ≤ bootDisk.mirrorSectors, bootDisk.HoldsAllOf (bootDisk.withMirrorSectors n) :=
  ⟨by decide, by decide,
    (holdsAllOf_smaller_iff (by decide) (by decide)).2.2 (Or.inl (by decide))⟩

/-- A mirror of 8 GiB, with room for 2^32 links. -/
def hugeTable : Layout where
  sectorSize := 512
  reservedSectors := 1
  mirrors := 1
  mirrorSectors := 0x1000000
  rootEntries := 16

/-- The huge table holds nothing, and one sector of it would hold 254 clusters. -/
theorem not_holdsAllOf_hugeTable :
    (∃ g, Words.geometry hugeTable = .ok g) ∧
    (∃ g, Words.geometry (hugeTable.withMirrorSectors 1) = .ok g) ∧
    (hugeTable.withMirrorSectors 1).clusterLimit = 256 ∧ hugeTable.clusterLimit = 0 ∧
    (hugeTable.withMirrorSectors 1).maxFileSize = 254 * 512 ∧ hugeTable.maxFileSize = 0 ∧
    (hugeTable.withMirrorSectors 1).checkChain 2 1 = .ok () ∧
    hugeTable.checkChain 2 1 = .error (.tableOverflow 2 0) ∧
    ¬ ∀ l : Layout, 512 ≤ l.sectorSize → l.sectorSize < Words.Width.w32.size →
      l.mirrorSectors < Words.Width.w32.size → (∃ g, Words.geometry l = .ok g) →
      ∀ n ≤ l.mirrorSectors, (∃ g, Words.geometry (l.withMirrorSectors n) = .ok g) →
        l.HoldsAllOf (l.withMirrorSectors n) := by
  have hlarge : ∃ g, Words.geometry hugeTable = .ok g := ⟨_, rfl⟩
  have hsmall : ∃ g, Words.geometry (hugeTable.withMirrorSectors 1) = .ok g := ⟨_, rfl⟩
  refine ⟨hlarge, hsmall, rfl, rfl, rfl, rfl, rfl, rfl, fun hall => ?_⟩
  have hlimit : 256 ≤ 0 :=
    (hall hugeTable (by decide) (by decide) (by decide) hlarge 1 (by decide) hsmall).limit
  exact absurd hlimit (by decide)

end Layout

end FatImage
