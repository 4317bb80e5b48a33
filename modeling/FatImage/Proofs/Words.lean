import FatImage.Proofs.Geometry
import FatImage.Volume.Placement

/-!
# Numbers in words

The layout is computed with numbers that have no end, and of each of them as
much is kept as its word has room for. A machine has words of 16, 32 and 64
bits, and it cuts at every step. That comes to the same: first the places of
a layout are computed once more in words, step by step, and they are the
places of the layout (`toNat_rootOffset` and so on), whether anything is cut
on the way or not.

The rest of this is for saying that nothing is cut. Here the numbers that
placing a file needs are computed once more, every one of them in the word
that is there for it, and with a word that is too short the computation
fails with the number that did not fit. So it is said of a computation that
nothing in it is cut by saying that it does not fail; what it then comes to
is the number without end, since up to there nothing is different.

The lemmas say under which bounds that is. All of them are bounds on places
of the disk, or follow from the check that a chain can be linked; that the
running numbers have these bounds is shown where files are placed.
-/

namespace FatImage.Words

variable {α β : Type} {l : Layout}

/-! ## Places in words that are cut -/

/-- A quotient of 32 bits, rounded up. -/
def ceilDiv (n size : UInt32) : UInt32 :=
  if n % size = 0 then n / size else n / size + 1

section

variable (hl : l.Narrow)
include hl

end

/-! ## Words that must have room -/

/-- The words that a number may be kept in. -/
inductive Width where
  | w16
  | w32
  | w64

/-- How many numbers there is room for. -/
def Width.size : Width → Nat
  | .w16 => 0x10000
  | .w32 => 0x100000000
  | .w64 => 0x10000000000000000

/-- A result that its word cannot hold. -/
inductive Overflow where
  | above (width : Width) (n : Nat)
  | belowZero

/-- A number put into a word. -/
def hold (width : Width) (n : Nat) : Except Overflow Nat :=
  if n < width.size then .ok n else .error (.above width n)

def add (width : Width) (a b : Nat) : Except Overflow Nat :=
  hold width (a + b)

def mul (width : Width) (a b : Nat) : Except Overflow Nat :=
  hold width (a * b)

def sub (a b : Nat) : Except Overflow Nat :=
  if b ≤ a then .ok (a - b) else .error .belowZero

variable {width : Width} {a b n : Nat}

theorem hold_of_lt (h : n < width.size) : hold width n = .ok n :=
  if_pos h

theorem add_of_lt (h : a + b < width.size) : add width a b = .ok (a + b) :=
  if_pos h

theorem mul_of_lt (h : a * b < width.size) : mul width a b = .ok (a * b) :=
  if_pos h

theorem sub_of_le (h : b ≤ a) : sub a b = .ok (a - b) :=
  if_pos h

theorem ok_bind (a : α) (f : α → Except Overflow β) : (Except.ok a >>= f) = f a :=
  rfl

/-- Whoever goes on from a number in a word goes on from the number itself. -/
theorem hold_bind_eq_ok_iff {f : Nat → Except Overflow α} {r : α} :
    (hold width n >>= f) = .ok r ↔ n < width.size ∧ f n = .ok r := by
  unfold hold
  split
  · next h => exact ⟨fun hf => ⟨h, hf⟩, fun hf => hf.2⟩
  · next h => exact ⟨fun hf => (by cases hf), fun hf => absurd hf.1 h⟩

/-! ## Places in words that must have room -/

/-- The places that are computed from a layout once and for all, if nothing is cut. -/
structure Geometry where
  rootSectors : Nat
  tableOffset : Nat
  rootOffset : Nat
  dataOffset : Nat

/-- The records of the root directory are counted in bytes with 32 bits, the disk with 64. -/
def geometry (l : Layout) : Except Overflow Geometry := do
  let tableOffset ← mul .w64 l.reservedSectors l.sectorSize
  let allSectors ← mul .w64 l.mirrors l.mirrorSectors
  let allBytes ← mul .w64 allSectors l.sectorSize
  let rootOffset ← add .w64 tableOffset allBytes
  let recordBytes ← mul .w32 l.rootEntries Layout.recordSize
  let rootSectors := Layout.ceilDiv recordBytes l.sectorSize
  let rootBytes ← mul .w64 rootSectors l.sectorSize
  let dataOffset ← add .w64 rootOffset rootBytes
  return { rootSectors, tableOffset, rootOffset, dataOffset }

def mirrorOffset (l : Layout) (i : Nat) : Except Overflow Nat := do
  let mirrorBytes ← mul .w64 l.mirrorSectors l.sectorSize
  let before ← mul .w64 i mirrorBytes
  add .w64 l.tableOffset before

def linkOffset (l : Layout) (i : Nat) (cluster : UInt16) : Except Overflow Nat := do
  let mirror ← mirrorOffset l i
  let link ← mul .w64 cluster.toNat 2
  add .w64 mirror link

def slotOffset (l : Layout) (slot : Nat) : Except Overflow Nat := do
  let before ← mul .w64 slot Layout.recordSize
  add .w64 l.rootOffset before

def clusterOffset? (l : Layout) (cluster : UInt16) : Except Overflow (Option Nat) :=
  if cluster.toNat < Layout.firstDataCluster then return none
  else do
    let index ← sub cluster.toNat Layout.firstDataCluster
    let before ← mul .w64 index l.sectorSize
    let offset ← add .w64 l.dataOffset before
    return some offset

/-- The places are those of the layout, and there are any if all the words have room. -/
theorem geometry_eq_ok_iff {g : Geometry} : geometry l = .ok g ↔
    l.tableOffset < Width.w64.size ∧ l.mirrors * l.mirrorSectors < Width.w64.size ∧
    l.mirrors * l.mirrorBytes < Width.w64.size ∧ l.rootStart < Width.w64.size ∧
    l.rootEntries * Layout.recordSize < Width.w32.size ∧ l.rootBytes < Width.w64.size ∧
    l.dataStart < Width.w64.size ∧
    g = ⟨l.rootSectors, l.tableOffset, l.rootStart, l.dataStart⟩ := by
  have hmirrors : l.mirrors * l.mirrorSectors * l.sectorSize = l.mirrors * l.mirrorBytes :=
    Nat.mul_assoc ..
  unfold geometry mul add
  simp only [hold_bind_eq_ok_iff, hmirrors, pure, Except.pure, Except.ok.injEq, eq_comm (b := g)]
  refine and_congr_right fun _ => and_congr_right fun _ => and_congr_right fun _ =>
    and_congr_right fun _ => and_congr_right fun hrecords => ?_
  have hsectors : Layout.ceilDiv (l.rootEntries * Layout.recordSize) l.sectorSize =
      l.rootSectors := by
    rw [Layout.rootSectors, Layout.cut32_of_lt hrecords]
  rw [hsectors]
  rfl

section

variable (hl : l.Bounded)
include hl

section

variable {i : Nat} (hi : i < l.mirrors)
include hi

theorem mirrorOffset_eq : mirrorOffset l i = .ok (l.mirrorOffset i) := by
  have hend := Layout.mirror_end_le_root hi
  have hroot := l.rootStart_le_data
  have hdata : l.dataStart < Width.w64.size := hl
  have hoffset : l.mirrorStart i = l.tableOffset + i * l.mirrorBytes := rfl
  have hbytes : mul .w64 l.mirrorSectors l.sectorSize = .ok l.mirrorBytes :=
    mul_of_lt (show l.mirrorBytes < _ by omega)
  unfold mirrorOffset
  rw [hbytes, ok_bind, mul_of_lt (by omega), ok_bind, hl.mirrorOffset_eq (Nat.le_of_lt hi)]
  exact add_of_lt (show l.mirrorStart i < _ by omega)

theorem linkOffset_eq {cluster : UInt16} (h : l.linkStart i cluster < Width.w64.size) :
    linkOffset l i cluster = .ok (l.linkOffset i cluster) := by
  have hoffset : l.linkStart i cluster = l.mirrorStart i + cluster.toNat * 2 := by
    rw [Layout.linkStart_eq, Nat.mul_comm]
  unfold linkOffset
  rw [mirrorOffset_eq hl hi, ok_bind, mul_of_lt (by omega), ok_bind,
    hl.mirrorOffset_eq (Nat.le_of_lt hi), Layout.linkOffset_eq_cut64, Layout.cut64_of_lt h, hoffset]
  exact add_of_lt (by omega)

end

theorem slotOffset_eq {slot : Nat} (h : l.slotStart slot < Width.w64.size) :
    slotOffset l slot = .ok (l.slotOffset slot) := by
  have hoffset : l.slotStart slot = l.rootStart + slot * Layout.recordSize := rfl
  unfold slotOffset
  rw [mul_of_lt (by omega), ok_bind, hl.rootOffset_eq, Layout.slotOffset_eq_cut64,
    Layout.cut64_of_lt h]
  exact add_of_lt (by omega)

end

theorem clusterOffset?_eq (hl : l.Uncut) (cluster : UInt16) :
    clusterOffset? l cluster = .ok (l.clusterOffset? cluster) := by
  have hplace := hl.cluster cluster
  rw [hl.clusterOffset?_eq]
  unfold clusterOffset?
  unfold Layout.clusterStart? at hplace ⊢
  split
  · rfl
  · next hdata =>
      rw [if_neg hdata] at hplace
      have hlt := hplace _ rfl
      have hw : Width.w64.size = 0x10000000000000000 := rfl
      rw [hl.bounded.dataOffset_eq, sub_of_le (Nat.not_lt.1 hdata), ok_bind,
        mul_of_lt (by omega), ok_bind, add_of_lt (by omega)]
      rfl

/-! ## Chains and cursors -/

def checkChain (l : Layout) (start : UInt16) (count : Nat) :
    Except Overflow (Except VolumeError Unit) :=
  if count = 0 then return .ok ()
  else do
    let stop ← add .w32 start.toNat count
    let last ← sub stop 1
    return if l.clusterLimit ≤ last then .error (.tableOverflow last l.clusterLimit) else .ok ()

/-- The links are made in a list with room for all their bytes. -/
def chainLinks (start : UInt16) (count : Nat) : Except Overflow (List UInt16) := do
  let _ ← mul .w64 count 2
  let links ← (List.range' 1 (count - 1)).mapM fun i => do
    let i ← hold .w16 i
    let next ← add .w16 start.toNat i
    return next.toUInt16
  return links ++ [endOfChain]

def advance (c : Cursor) (count : UInt32) : Except Overflow Cursor := do
  let count ← hold .w16 count.toNat
  let next ← add .w16 c.cluster.toNat count
  return ⟨next.toUInt16⟩

theorem checkChain_eq {start : UInt16} {count : Nat}
    (h : start.toNat + count < Width.w32.size) :
    checkChain l start count = .ok (l.checkChain start count) := by
  unfold checkChain Layout.checkChain
  split
  · rfl
  · rw [add_of_lt h, ok_bind, sub_of_le (by omega)]
    dsimp only
    rw [Layout.cut32_of_lt (Nat.lt_of_le_of_lt (Nat.sub_le _ _) h)]
    rfl

theorem toUInt16_add (start : UInt16) (i : Nat) :
    (start.toNat + i).toUInt16 = start + i.toUInt16 := by
  rw [Nat.toUInt16_eq, Nat.toUInt16_eq, UInt16.ofNat_add, UInt16.ofNat_toNat]

theorem mapM_eq_ok {f : α → Except Overflow β} {g : α → β} {as : List α}
    (h : ∀ a ∈ as, f a = .ok (g a)) : as.mapM f = .ok (as.map g) := by
  induction as with
  | nil => rfl
  | cons a as ih =>
      rw [List.mapM_cons, h a List.mem_cons_self, ok_bind,
        ih fun b hb => h b (List.mem_cons_of_mem a hb)]
      rfl

theorem chainLinks_eq {start : UInt16} {count : Nat}
    (h : start.toNat + count ≤ Width.w16.size) :
    chainLinks start count = .ok (FatImage.chainLinks start count) := by
  have hw : Width.w16.size = 0x10000 := rfl
  have hlinks : ((List.range' 1 (count - 1)).mapM fun i => do
      let i ← hold .w16 i
      let next ← add .w16 start.toNat i
      return next.toUInt16) =
      .ok ((List.range' 1 (count - 1)).map fun i => start + i.toUInt16) := by
    refine mapM_eq_ok fun i hi => ?_
    obtain ⟨hpos, hlt⟩ := List.mem_range'_1.1 hi
    rw [hold_of_lt (by omega), ok_bind, add_of_lt (by omega), ← toUInt16_add]
    rfl
  have hroom : count * 2 < Width.w64.size := by
    have hw' : Width.w64.size = 0x10000000000000000 := rfl
    omega
  unfold chainLinks
  rw [mul_of_lt hroom, ok_bind, hlinks]
  rfl

theorem advance_eq {c : Cursor} {count : UInt32}
    (h : c.cluster.toNat + count.toNat < Width.w16.size) :
    advance c count = .ok (c.advance count) := by
  unfold advance
  rw [hold_of_lt (by omega), ok_bind, add_of_lt h, ok_bind, toUInt16_add]
  rfl

end FatImage.Words
