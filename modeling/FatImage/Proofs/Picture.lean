import Mathlib.Algebra.GroupWithZero.Nat
import Mathlib.Data.List.Induction
import FatImage.Volume.Placement
import FatImage.Proofs.Geometry
import FatImage.Proofs.Overwrite

/-!
# The picture of a volume

What a volume with certain files on it has to look like is a function of
the layout, of the image that was there before, and of the names and bytes
of the files in their order; no device and no run come into it. The files
take consecutive clusters and consecutive slots. Each mirror is the media
header, the links of all files one behind the other, and zeros; the root
directory is one record for each file, and zeros; and of the data region
exactly the bytes of the files are new.

A run adds files at the end, so for every part of the picture there is a
lemma about `fs ++ [f]` that says what one more file changes: a few links
from the next cluster on, one record, the bytes of the file.
-/

namespace FatImage

/-- A file to place: its name and its bytes. -/
structure File where
  name : ShortName
  data : ByteArray

/-- The record of a placed file. -/
def PlacedFile.record (p : PlacedFile) : Record :=
  Record.file p.name p.start p.size

namespace Layout

/-- Clusters that a file takes. -/
def clustersOf (l : Layout) (f : File) : Nat :=
  l.clustersFor f.data.size

/-- The first cluster behind the files. -/
def nextCluster (l : Layout) (fs : List File) : Nat :=
  firstDataCluster + (fs.map l.clustersOf).sum

/-- The files, each with the first cluster behind those before it. -/
def located (l : Layout) (fs : List File) : List (Nat × File) :=
  fs.mapIdx fun i f => (l.nextCluster (fs.take i), f)

/-- The place of a file that gets a slot and the clusters from `c` on. -/
def placement (l : Layout) (slot c : Nat) (f : File) : PlacedFile where
  name := f.name
  slot := slot
  start := if l.clustersOf f = 0 then 0 else c.toUInt16
  clusters := (l.clustersOf f).toUInt32
  size := f.data.size.toUInt32

/-- The places of the files, in slots from 0 on. -/
def placements (l : Layout) (fs : List File) : List PlacedFile :=
  (l.located fs).mapIdx fun slot p => l.placement slot p.1 p.2

/-- The links of `n` clusters from `c` on: each leads to the next one, the
last ends the chain. -/
def linksFrom (c n : Nat) : List UInt16 :=
  (List.range n).map fun i => if i + 1 = n then endOfChain else (c + i + 1).toUInt16

/-- The links of the files. -/
def links (l : Layout) (fs : List File) : List UInt16 :=
  (l.located fs).flatMap fun p => linksFrom p.1 (l.clustersOf p.2)

/-- A mirror of the allocation table with the chains of the files. -/
def table (l : Layout) (fs : List File) : ByteArray :=
  Bytes.padded l.mirrorBytes
    (mediaHeader.data.toList ++ (l.links fs).flatMap Bytes.littleEndian16)

/-- The root directory with the records of the files. -/
def directory (l : Layout) (fs : List File) : ByteArray :=
  Bytes.padded l.rootBytes
    ((l.placements fs).flatMap fun p => p.record.encode.data.toList)

/-- Where the bytes of a file start that has the clusters from `c` on. -/
def payloadOffset (l : Layout) (c : Nat) : Nat :=
  l.dataStart + (c - firstDataCluster) * l.sectorSize

/-- `base` with the bytes of the files. -/
def payloads (l : Layout) (base : ByteArray) (fs : List File) : ByteArray :=
  (l.located fs).foldl (fun b p => Bytes.overwrite b (l.payloadOffset p.1) p.2.data) base

/-- `b` with `d` at the same place of the first `k` mirrors. -/
def onMirrors (l : Layout) (b : ByteArray) (o : Nat) (d : ByteArray) (k : Nat) :
    ByteArray :=
  (List.range k).foldl (fun b i => Bytes.overwrite b (l.mirrorStart i + o) d) b

/-- The image `base` after a reset and with the files placed on it. -/
def picture (l : Layout) (base : ByteArray) (fs : List File) : ByteArray :=
  l.onMirrors (Bytes.overwrite (l.payloads base fs) l.rootStart (l.directory fs))
    0 (l.table fs) l.mirrors

variable {l : Layout} {fs : List File} {f : File} {base : ByteArray}

/-! ## One more file -/

theorem nextCluster_nil (l : Layout) : l.nextCluster [] = 2 := rfl

theorem nextCluster_append :
    l.nextCluster (fs ++ [f]) = l.nextCluster fs + l.clustersOf f := by
  simp [nextCluster, Nat.add_assoc]

theorem two_le_nextCluster (l : Layout) (fs : List File) : 2 ≤ l.nextCluster fs :=
  Nat.le_add_right _ _

theorem located_append :
    l.located (fs ++ [f]) = l.located fs ++ [(l.nextCluster fs, f)] := by
  rw [located, located, List.mapIdx_append]
  congr 1
  · refine List.ext_getElem (by simp) fun i hi _ => ?_
    have hi' : i < fs.length := by simpa using hi
    simp only [List.getElem_mapIdx]
    rw [List.take_append_of_le_length (by omega)]
  · simp

theorem length_located : (l.located fs).length = fs.length := by
  rw [located, List.length_mapIdx]

theorem getElem?_located (i : Nat) :
    (l.located fs)[i]? = fs[i]?.map fun f => (l.nextCluster (fs.take i), f) := by
  rw [located, List.getElem?_mapIdx]

/-- File number `i` has slot `i`, and the clusters behind those of the files
before it. -/
theorem getElem?_placements (i : Nat) : (l.placements fs)[i]? =
    fs[i]?.map fun f => l.placement i (l.nextCluster (fs.take i)) f := by
  rw [placements, List.getElem?_mapIdx, getElem?_located, Option.map_map]
  rfl

theorem placements_append : l.placements (fs ++ [f]) =
    l.placements fs ++ [l.placement fs.length (l.nextCluster fs) f] := by
  rw [placements, placements, located_append, List.mapIdx_append]
  simp [length_located]

theorem length_placements : (l.placements fs).length = fs.length := by
  rw [placements, List.length_mapIdx, length_located]

theorem links_append :
    l.links (fs ++ [f]) = l.links fs ++ linksFrom (l.nextCluster fs) (l.clustersOf f) := by
  rw [links, located_append, List.flatMap_append]
  simp [links]

theorem payloads_append : l.payloads base (fs ++ [f]) =
    Bytes.overwrite (l.payloads base fs) (l.payloadOffset (l.nextCluster fs)) f.data := by
  rw [payloads, located_append, List.foldl_append]
  rfl

theorem located_end_le {p : Nat × File} (hp : p ∈ l.located fs) :
    2 ≤ p.1 ∧ p.1 + l.clustersOf p.2 ≤ l.nextCluster fs := by
  induction fs using List.reverseRecOn with
  | nil => cases hp
  | append_singleton fs f ih =>
      rw [nextCluster_append]
      rw [located_append, List.mem_append, List.mem_singleton] at hp
      rcases hp with hp | rfl
      · have := ih hp
        omega
      · exact ⟨two_le_nextCluster l fs, Nat.le_refl _⟩

/-! ## The table, byte by byte -/

theorem length_linksFrom (c n : Nat) : (linksFrom c n).length = n := by
  rw [linksFrom, List.length_map, List.length_range]

theorem length_flatMap_littleEndian16 (ws : List UInt16) :
    (ws.flatMap Bytes.littleEndian16).length = 2 * ws.length := by
  induction ws with
  | nil => rfl
  | cons w ws ih =>
      rw [List.flatMap_cons, List.length_append, ih, List.length_cons,
        Bytes.littleEndian16, List.length_cons, List.length_singleton]
      omega

theorem getElem?_flatMap_littleEndian16 {k : Nat} (hk : k < 2) : ∀ (ws : List UInt16)
    {i : Nat} (hi : i < ws.length),
    (ws.flatMap Bytes.littleEndian16)[2 * i + k]? = (Bytes.littleEndian16 ws[i])[k]? := by
  intro ws
  induction ws with
  | nil => intro i hi; cases hi
  | cons w ws ih =>
      intro i hi
      have hlen : (Bytes.littleEndian16 w).length = 2 := rfl
      rw [List.flatMap_cons]
      cases i with
      | zero =>
          rw [List.getElem?_append_left (by omega), Nat.mul_zero, Nat.zero_add]
          rfl
      | succ i =>
          rw [List.getElem?_append_right (by omega), hlen,
            show 2 * (i + 1) + k - 2 = 2 * i + k by omega,
            ih (Nat.lt_of_succ_lt_succ hi)]
          rfl

/-- The links take the bytes behind the header up to the next cluster. -/
theorem length_links (l : Layout) (fs : List File) :
    2 * (l.links fs).length + 4 = 2 * l.nextCluster fs := by
  induction fs using List.reverseRecOn with
  | nil => rfl
  | append_singleton fs f ih =>
      rw [links_append, nextCluster_append, List.length_append, length_linksFrom]
      omega

/-- The bytes of the links of `n` clusters from `c` on. -/
def linkBytes (c n : Nat) : ByteArray :=
  ((linksFrom c n).flatMap Bytes.littleEndian16).toByteArray

theorem size_linkBytes (c n : Nat) : (linkBytes c n).size = 2 * n := by
  rw [linkBytes, List.size_toByteArray, length_flatMap_littleEndian16, length_linksFrom]

theorem word16At_linkBytes {c n i : Nat} (hi : i < n) :
    Bytes.word16At (linkBytes c n) (2 * i) =
      if i + 1 = n then endOfChain else (c + i + 1).toUInt16 := by
  have hi' : i < (linksFrom c n).length := by rwa [length_linksFrom]
  have hlink : (linksFrom c n)[i] =
      if i + 1 = n then endOfChain else (c + i + 1).toUInt16 := by
    simp [linksFrom]
  rw [← hlink]
  refine Bytes.word16At_eq fun k hk => ?_
  rw [linkBytes, Bytes.byteAt_toByteArray, getElem?_flatMap_littleEndian16 hk _ hi']

theorem length_mediaHeader : mediaHeader.data.toList.length = 4 := by
  simp [mediaHeader]

theorem size_table (h : 2 * l.nextCluster fs ≤ l.mirrorBytes) :
    (l.table fs).size = l.mirrorBytes := by
  have hlinks := length_links l fs
  refine Bytes.size_padded ?_
  rw [List.length_append, length_mediaHeader, length_flatMap_littleEndian16]
  omega

theorem byteAt_table_of_lt_four {j : Nat} (hj : j < 4) :
    Bytes.byteAt (l.table fs) j = Bytes.byteAt mediaHeader j := by
  rw [table, Bytes.byteAt_padded,
    List.getElem?_append_left (by rw [length_mediaHeader]; exact hj),
    ← Bytes.byteAt_toByteArray, Bytes.toByteArray_toList_data]

theorem byteAt_table_of_le {j : Nat} (hj : 2 * l.nextCluster fs ≤ j) :
    Bytes.byteAt (l.table fs) j = 0 := by
  have hlinks := length_links l fs
  rw [table, Bytes.byteAt_padded, List.getElem?_eq_none, Option.getD_none]
  rw [List.length_append, length_mediaHeader, length_flatMap_littleEndian16]
  omega

/-- One more file adds its links at the next cluster. -/
theorem byteAt_table_append (j : Nat) :
    Bytes.byteAt (l.table (fs ++ [f])) j =
      if 2 * l.nextCluster fs ≤ j ∧ j < 2 * l.nextCluster fs + 2 * l.clustersOf f then
        Bytes.byteAt (linkBytes (l.nextCluster fs) (l.clustersOf f))
          (j - 2 * l.nextCluster fs)
      else Bytes.byteAt (l.table fs) j := by
  have hlinks := length_links l fs
  have hlen : (mediaHeader.data.toList ++
      (l.links fs).flatMap Bytes.littleEndian16).length = 2 * l.nextCluster fs := by
    rw [List.length_append, length_mediaHeader, length_flatMap_littleEndian16]
    omega
  rw [table, Bytes.byteAt_padded, links_append, List.flatMap_append,
    ← List.append_assoc, List.getElem?_append, hlen]
  split
  · next hlt => rw [if_neg (by omega), table, Bytes.byteAt_padded]
  · next hge =>
      rw [linkBytes, Bytes.byteAt_toByteArray]
      split
      · rfl
      · next hout =>
          rw [byteAt_table_of_le (by omega), List.getElem?_eq_none, Option.getD_none]
          rw [length_flatMap_littleEndian16, length_linksFrom]
          omega

theorem word16At_table {p : Nat × File} (hp : p ∈ l.located fs) {i : Nat}
    (hi : i < l.clustersOf p.2) :
    Bytes.word16At (l.table fs) (2 * (p.1 + i)) =
      if i + 1 = l.clustersOf p.2 then endOfChain else (p.1 + i + 1).toUInt16 := by
  induction fs using List.reverseRecOn with
  | nil => cases hp
  | append_singleton fs f ih =>
      rw [located_append, List.mem_append, List.mem_singleton] at hp
      rcases hp with hp | rfl
      · have hend := (located_end_le hp).2
        rw [← ih hp, Bytes.word16At, Bytes.word16At, byteAt_table_append,
          byteAt_table_append, if_neg (by omega), if_neg (by omega)]
      · rw [← word16At_linkBytes hi, Bytes.word16At, Bytes.word16At,
          byteAt_table_append, byteAt_table_append]
        simp only [] at hi ⊢
        rw [if_pos (by omega), if_pos (by omega), ← Nat.mul_sub,
          Nat.add_sub_cancel_left,
          show 2 * (l.nextCluster fs + i) + 1 - 2 * l.nextCluster fs = 2 * i + 1 by omega]

/-! ## The directory, byte by byte -/

theorem length_recordBytes (ps : List PlacedFile) :
    (ps.flatMap fun p => p.record.encode.data.toList).length = 32 * ps.length := by
  induction ps with
  | nil => rfl
  | cons p ps ih =>
      have hp : p.record.encode.data.toList.length = 32 := Record.size_encode p.record
      rw [List.flatMap_cons, List.length_append, ih, hp, List.length_cons]
      omega

theorem size_directory (h : fs.length ≤ l.slotCount) :
    (l.directory fs).size = l.rootBytes := by
  have hslots : l.slotCount * 32 ≤ l.rootBytes := Nat.div_mul_le_self _ _
  refine Bytes.size_padded ?_
  rw [length_recordBytes, length_placements]
  omega

theorem byteAt_directory_of_le {j : Nat} (hj : 32 * fs.length ≤ j) :
    Bytes.byteAt (l.directory fs) j = 0 := by
  rw [directory, Bytes.byteAt_padded, List.getElem?_eq_none, Option.getD_none]
  rw [length_recordBytes, length_placements]
  exact hj

/-- One more file adds its record in the next slot. -/
theorem byteAt_directory_append (j : Nat) :
    Bytes.byteAt (l.directory (fs ++ [f])) j =
      if 32 * fs.length ≤ j ∧ j < 32 * fs.length + 32 then
        Bytes.byteAt (l.placement fs.length (l.nextCluster fs) f).record.encode
          (j - 32 * fs.length)
      else Bytes.byteAt (l.directory fs) j := by
  have hlen : ((l.placements fs).flatMap fun p => p.record.encode.data.toList).length =
      32 * fs.length := by
    rw [length_recordBytes, length_placements]
  rw [directory, Bytes.byteAt_padded, placements_append, List.flatMap_append,
    List.getElem?_append, hlen]
  split
  · next hlt => rw [if_neg (by omega), directory, Bytes.byteAt_padded]
  · next hge =>
      rw [List.flatMap_singleton, ← Bytes.byteAt_toByteArray,
        Bytes.toByteArray_toList_data]
      split
      · rfl
      · next hout =>
          rw [byteAt_directory_of_le (by omega)]
          exact Bytes.byteAt_of_size_le (by rw [Record.size_encode]; omega)

theorem byteAt_directory {i j : Nat} {p : PlacedFile}
    (hp : (l.placements fs)[i]? = some p) (hj : j < 32) :
    Bytes.byteAt (l.directory fs) (32 * i + j) = Bytes.byteAt p.record.encode j := by
  induction fs using List.reverseRecOn with
  | nil => cases hp
  | append_singleton fs f ih =>
      rw [byteAt_directory_append]
      rw [placements_append, List.getElem?_append, length_placements] at hp
      split at hp
      · rw [if_neg (by omega)]
        exact ih hp
      · next hge =>
          have hi : i = fs.length := by
            rcases Nat.lt_or_ge (i - fs.length) 1 with h | h
            · omega
            · rw [List.getElem?_eq_none (by rw [List.length_singleton]; exact h)] at hp
              cases hp
          rw [hi, Nat.sub_self, List.getElem?_cons_zero, Option.some.injEq] at hp
          rw [if_pos (by omega), hp, hi, Nat.add_sub_cancel_left]

/-! ## The bytes of the files -/

/-- There is room for the clusters of the files in `size` bytes. -/
def Stored (l : Layout) (size : Nat) (fs : List File) : Prop :=
  l.payloadOffset (l.nextCluster fs) ≤ size

theorem payloadOffset_add {c n : Nat} (hc : 2 ≤ c) :
    l.payloadOffset (c + n) = l.payloadOffset c + n * l.sectorSize := by
  rw [payloadOffset, payloadOffset, firstDataCluster,
    show c + n - 2 = c - 2 + n by omega, Nat.add_mul, Nat.add_assoc]

theorem payloadOffset_mono {c c' : Nat} (h : c ≤ c') :
    l.payloadOffset c ≤ l.payloadOffset c' :=
  Nat.add_le_add_left (Nat.mul_le_mul_right _ (Nat.sub_le_sub_right h _)) _

theorem dataStart_le_payload (l : Layout) (c : Nat) : l.dataStart ≤ l.payloadOffset c :=
  Nat.le_add_right _ _

theorem payload_end_le (hs : 0 < l.sectorSize) {c : Nat} (hc : 2 ≤ c) :
    l.payloadOffset c + f.data.size ≤ l.payloadOffset (c + l.clustersOf f) := by
  rw [payloadOffset_add hc]
  exact Nat.add_le_add_left (le_clustersFor_mul hs f.data.size) _

theorem Stored.of_append {size : Nat} (h : l.Stored size (fs ++ [f])) :
    l.Stored size fs := by
  rw [Stored, nextCluster_append] at h
  exact Nat.le_trans (payloadOffset_mono (Nat.le_add_right _ _)) h

theorem Stored.end_le {size : Nat} (hs : 0 < l.sectorSize)
    (h : l.Stored size (fs ++ [f])) :
    l.payloadOffset (l.nextCluster fs) + f.data.size ≤ size := by
  rw [Stored, nextCluster_append] at h
  exact Nat.le_trans (payload_end_le hs (two_le_nextCluster l fs)) h

theorem size_payloads (hs : 0 < l.sectorSize) (h : l.Stored base.size fs) :
    (l.payloads base fs).size = base.size := by
  induction fs using List.reverseRecOn with
  | nil => rfl
  | append_singleton fs f ih =>
      rw [payloads_append, Bytes.size_overwrite (by rw [ih h.of_append]; exact h.end_le hs),
        ih h.of_append]

theorem byteAt_payloads_append (hs : 0 < l.sectorSize)
    (h : l.Stored base.size (fs ++ [f])) (x : Nat) :
    Bytes.byteAt (l.payloads base (fs ++ [f])) x =
      if l.payloadOffset (l.nextCluster fs) ≤ x ∧
          x < l.payloadOffset (l.nextCluster fs) + f.data.size then
        Bytes.byteAt f.data (x - l.payloadOffset (l.nextCluster fs))
      else Bytes.byteAt (l.payloads base fs) x := by
  rw [payloads_append, Bytes.byteAt_overwrite]
  rw [size_payloads hs h.of_append]
  exact h.end_le hs

theorem byteAt_payloads (hs : 0 < l.sectorSize) (h : l.Stored base.size fs)
    {p : Nat × File} (hp : p ∈ l.located fs) {j : Nat} (hj : j < p.2.data.size) :
    Bytes.byteAt (l.payloads base fs) (l.payloadOffset p.1 + j) =
      Bytes.byteAt p.2.data j := by
  induction fs using List.reverseRecOn with
  | nil => cases hp
  | append_singleton fs f ih =>
      rw [byteAt_payloads_append hs h]
      rw [located_append, List.mem_append, List.mem_singleton] at hp
      rcases hp with hp | rfl
      · have hend := located_end_le hp
        have hlast := payload_end_le (f := p.2) hs hend.1
        have hnext := payloadOffset_mono (l := l) hend.2
        rw [if_neg (by omega)]
        exact ih h.of_append hp
      · simp only [] at hj ⊢
        rw [if_pos (by omega), Nat.add_sub_cancel_left]

theorem byteAt_payloads_of_lt (hs : 0 < l.sectorSize) (h : l.Stored base.size fs)
    {x : Nat} (hx : x < l.dataStart) :
    Bytes.byteAt (l.payloads base fs) x = Bytes.byteAt base x := by
  induction fs using List.reverseRecOn with
  | nil => rfl
  | append_singleton fs f ih =>
      have := dataStart_le_payload l (l.nextCluster fs)
      rw [byteAt_payloads_append hs h, if_neg (by omega)]
      exact ih h.of_append

end Layout

end FatImage
