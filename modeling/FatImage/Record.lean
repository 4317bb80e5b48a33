import FatImage.Bytes
import FatImage.ShortName

/-!
# Directory records

A record takes thirty-two bytes: the name, an attribute byte, fourteen bytes that stay zero, the
first cluster and the size. A record whose first byte is zero was never used, and neither was any
record behind it.
-/

namespace FatImage

/-- A file in the root directory. -/
structure Record where
  name : ShortName
  attributes : UInt8
  /-- Zero for an empty file, which owns no cluster. -/
  firstCluster : UInt16
  size : UInt32
  deriving DecidableEq

namespace Record

/-- The attribute of an ordinary file. -/
def archive : UInt8 := 0x20

/-- The first byte of a record that was never used. -/
def neverUsed : UInt8 := 0

def file (name : ShortName) (firstCluster : UInt16) (size : UInt32) : Record :=
  { name, attributes := archive, firstCluster, size }

/-- The thirty-two bytes of a record. -/
def encode (r : Record) : ByteArray :=
  (r.name.bytes ++ [r.attributes] ++ List.replicate 14 0 ++
    Bytes.littleEndian16 r.firstCluster ++ Bytes.littleEndian32 r.size).toByteArray

/-- The record in thirty-two bytes; the fourteen bytes without a meaning are not kept. -/
def decode (raw : ByteArray) : Record where
  name := ShortName.ofBytes (Bytes.byteAt raw)
  attributes := Bytes.byteAt raw 11
  firstCluster := Bytes.word16At raw 26
  size := Bytes.word32At raw 28

/-- Whether the bytes start like a record that was never used; no bytes at all do not. -/
def isNeverUsed (raw : ByteArray) : Bool :=
  !raw.isEmpty && Bytes.byteAt raw 0 == neverUsed

theorem isNeverUsed_iff {raw : ByteArray} (h : 0 < raw.size) :
    isNeverUsed raw = true ↔ Bytes.byteAt raw 0 = 0 := by
  have hne : raw.isEmpty = false := by
    rw [ByteArray.isEmpty, beq_eq_false_iff_ne]
    omega
  simp [isNeverUsed, hne, neverUsed]

/-! ## Reading back what was written -/

theorem size_encode (r : Record) : r.encode.size = 32 := by
  show r.encode.data.size = 32
  rw [encode, List.data_toByteArray, List.size_toArray]
  simp [ShortName.length_bytes, Bytes.littleEndian16, Bytes.littleEndian32]

/-- Where each byte of a record comes from. -/
theorem byteAt_encode (r : Record) (i : Nat) :
    Bytes.byteAt r.encode i =
      if i < 11 then r.name.bytes[i]?.getD 0
      else if i = 11 then r.attributes
      else if i < 26 then 0
      else if i < 28 then (Bytes.littleEndian16 r.firstCluster)[i - 26]?.getD 0
      else (Bytes.littleEndian32 r.size)[i - 28]?.getD 0 := by
  rw [encode, Bytes.byteAt_toByteArray]
  simp only [List.getElem?_append, List.length_append, ShortName.length_bytes, List.length_cons,
    List.length_nil, List.length_replicate, Bytes.littleEndian16, Nat.reduceAdd]
  split
  · next h28 =>
    split
    · next h26 =>
      split
      · next h12 =>
        split
        · rfl
        · next h11 =>
          have he : i = 11 := by omega
          rw [if_pos he, he]
          rfl
      · next h12 =>
        rw [if_neg (by omega), if_neg (by omega), List.getElem?_replicate, if_pos (by omega)]
        rfl
    · next h26 =>
      rw [if_neg (by omega), if_neg (by omega)]
  · next h28 =>
    rw [if_neg (by omega), if_neg (by omega), if_neg (by omega)]

theorem decode_encode (r : Record) : decode r.encode = r := by
  have hname : ShortName.ofBytes (Bytes.byteAt r.encode) = r.name :=
    ShortName.ofBytes_eq fun i hi => by rw [byteAt_encode, if_pos hi]
  have hattributes : Bytes.byteAt r.encode 11 = r.attributes := by
    rw [byteAt_encode, if_neg (by omega), if_pos rfl]
  have hcluster : Bytes.word16At r.encode 26 = r.firstCluster :=
    Bytes.word16At_eq fun j hj => by
      rw [byteAt_encode, if_neg (by omega), if_neg (by omega), if_neg (by omega),
        if_pos (by omega), Nat.add_sub_cancel_left]
  have hsize : Bytes.word32At r.encode 28 = r.size :=
    Bytes.word32At_eq fun j hj => by
      rw [byteAt_encode, if_neg (by omega), if_neg (by omega), if_neg (by omega),
        if_neg (by omega), Nat.add_sub_cancel_left]
  rw [decode, hname, hattributes, hcluster, hsize]

end Record

end FatImage
