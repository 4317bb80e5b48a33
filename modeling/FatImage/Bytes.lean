/-!
# Bytes of an image

Whatever is on a disk is an array of bytes, and the layers above do only three things with it: look
at one byte, cut out a range, and replace a range by other bytes. Numbers on the disk are
little-endian words of two or four bytes.

Reading past the end gives zero, so that no operation here is partial; every caller stays inside.
-/

namespace FatImage.Bytes

/-- Byte `i`; zero past the end. -/
def byteAt (b : ByteArray) (i : Nat) : UInt8 :=
  if h : i < b.size then b[i] else 0

/-- The `length` bytes from `offset` on, fewer if `b` ends before. -/
def slice (b : ByteArray) (offset length : Nat) : ByteArray :=
  b.extract offset (offset + length)

def zeros (n : Nat) : ByteArray :=
  n.fold (fun _ _ b => b.push 0) (ByteArray.emptyWithCapacity n)

/-- `b` with its bytes from `offset` on replaced by those of `d`; no other byte changes. -/
def overwrite (b : ByteArray) (offset : Nat) (d : ByteArray) : ByteArray :=
  d.copySlice 0 b offset d.size

/-- The two bytes of a word, low byte first. -/
def littleEndian16 (w : UInt16) : List UInt8 :=
  [w.toUInt8, (w / 256).toUInt8]

/-- The four bytes of a word, low byte first. -/
def littleEndian32 (w : UInt32) : List UInt8 :=
  [w.toUInt8, (w / 256).toUInt8, (w / 65536).toUInt8, (w / 16777216).toUInt8]

/-- The little-endian word in bytes `i` and `i + 1`. -/
def word16At (b : ByteArray) (i : Nat) : UInt16 :=
  (byteAt b i).toUInt16 + (byteAt b (i + 1)).toUInt16 * 256

/-- The little-endian word in bytes `i` to `i + 3`. -/
def word32At (b : ByteArray) (i : Nat) : UInt32 :=
  (byteAt b i).toUInt32 + (byteAt b (i + 1)).toUInt32 * 256 +
    (byteAt b (i + 2)).toUInt32 * 65536 + (byteAt b (i + 3)).toUInt32 * 16777216

/-! ## What the operations do to a byte -/

theorem byteAt_of_size_le {b : ByteArray} {i : Nat} (h : b.size ≤ i) : byteAt b i = 0 := by
  rw [byteAt, dif_neg (by omega)]

theorem byteAt_of_lt {b : ByteArray} {i : Nat} (h : i < b.size) : byteAt b i = b[i] := by
  rw [byteAt, dif_pos h]

theorem ext_byteAt {a b : ByteArray} (hs : a.size = b.size)
    (h : ∀ i < a.size, byteAt a i = byteAt b i) : a = b := by
  refine ByteArray.ext_getElem hs fun i hi hi' => ?_
  rw [← byteAt_of_lt hi, ← byteAt_of_lt hi', h i hi]

theorem size_slice (b : ByteArray) (offset length : Nat) :
    (slice b offset length).size = min (offset + length) b.size - offset :=
  ByteArray.size_extract

theorem byteAt_slice {b : ByteArray} {offset length i : Nat} (h : i < length) :
    byteAt (slice b offset length) i = byteAt b (offset + i) := by
  by_cases hb : offset + i < b.size
  · have hi : i < (slice b offset length).size := by rw [size_slice]; omega
    rw [byteAt_of_lt hi, byteAt_of_lt hb]
    exact ByteArray.getElem_extract _
  · rw [byteAt_of_size_le (by rw [size_slice]; omega), byteAt_of_size_le (by omega)]

theorem data_overwrite (b : ByteArray) (offset : Nat) (d : ByteArray) :
    (overwrite b offset d).data =
      b.data.extract 0 offset ++ d.data ++ b.data.extract (offset + d.size) := by
  have h : min d.size (d.data.size - 0) = d.size := by
    show min d.data.size (d.data.size - 0) = d.data.size
    omega
  have h' : d.data.extract 0 (0 + d.size) = d.data := by
    rw [Nat.zero_add]
    exact Array.extract_size
  simp only [overwrite, ByteArray.copySlice, h, h']

theorem size_overwrite {b : ByteArray} {offset : Nat} {d : ByteArray}
    (h : offset + d.size ≤ b.size) : (overwrite b offset d).size = b.size := by
  have h' : offset + d.data.size ≤ b.data.size := h
  show (overwrite b offset d).data.size = b.data.size
  rw [data_overwrite]
  simp only [Array.size_append, Array.size_extract]
  show _ + d.data.size + (_ - (offset + d.data.size)) = _
  omega

/-- An overwrite inside `b` puts the bytes of `d` from `offset` on and keeps every other byte. -/
theorem byteAt_overwrite {b : ByteArray} {offset : Nat} {d : ByteArray}
    (h : offset + d.size ≤ b.size) (i : Nat) :
    byteAt (overwrite b offset d) i =
      if offset ≤ i ∧ i < offset + d.size then byteAt d (i - offset) else byteAt b i := by
  have hb : b.data.size = b.size := rfl
  have hd : d.data.size = d.size := rfl
  by_cases hi : i < b.size
  · have hi' : i < (overwrite b offset d).size := by rwa [size_overwrite h]
    rw [byteAt_of_lt hi']
    have hdata : i < (overwrite b offset d).data.size := hi'
    show (overwrite b offset d).data[i] = _
    simp only [data_overwrite, Array.getElem_append, Array.size_append, Array.size_extract,
      Array.getElem_extract]
    split
    · next h1 =>
      split
      · next h2 =>
        rw [if_neg (by omega), byteAt_of_lt hi]
        simp only [Nat.zero_add]
        rfl
      · next h2 =>
        have he : i - (min offset b.data.size - 0) = i - offset := by omega
        rw [if_pos (by omega), byteAt_of_lt (by omega)]
        simp only [he]
        rfl
    · next h1 =>
      have he : offset + d.size + (i - (min offset b.data.size - 0 + d.data.size)) = i := by omega
      rw [if_neg (by omega), byteAt_of_lt hi]
      simp only [he]
      rfl
  · rw [byteAt_of_size_le (by rw [size_overwrite h]; omega), if_neg (by omega),
      byteAt_of_size_le (by omega)]

theorem data_zeros (n : Nat) : (zeros n).data = Array.replicate n 0 := by
  have h : ∀ m (hm : m ≤ n),
      (Nat.fold m (fun _ _ b => b.push 0) (ByteArray.emptyWithCapacity n)).data
        = Array.replicate m 0 := by
    intro m
    induction m with
    | zero => intro _; rfl
    | succ m ih =>
      intro hm
      rw [Nat.fold_succ, Array.replicate_succ, ← ih (by omega)]
      rfl
  exact h n (Nat.le_refl n)

theorem size_zeros (n : Nat) : (zeros n).size = n := by
  show (zeros n).data.size = n
  rw [data_zeros, Array.size_replicate]

theorem byteAt_zeros (n i : Nat) : byteAt (zeros n) i = 0 := by
  by_cases h : i < (zeros n).size
  · rw [byteAt_of_lt h]
    show (zeros n).data[i] = 0
    simp only [data_zeros, Array.getElem_replicate]
  · exact byteAt_of_size_le (by omega)

theorem byteAt_toByteArray (l : List UInt8) (i : Nat) :
    byteAt l.toByteArray i = l[i]?.getD 0 := by
  have hs : l.toByteArray.size = l.length := by
    show l.toByteArray.data.size = l.length
    rw [List.data_toByteArray, List.size_toArray]
  by_cases h : i < l.length
  · rw [byteAt_of_lt (by omega), List.getElem?_eq_getElem h, Option.getD_some]
    have hd : i < l.toByteArray.data.size := Nat.lt_of_lt_of_eq h hs.symm
    show l.toByteArray.data[i] = l[i]
    simp only [List.data_toByteArray, List.getElem_toArray]
  · rw [byteAt_of_size_le (by omega), List.getElem?_eq_none (by omega), Option.getD_none]

/-! ## Words on the disk -/

/-- A word is made of its two bytes. -/
theorem word16At_eq {b : ByteArray} {i : Nat} {w : UInt16}
    (h : ∀ j < 2, byteAt b (i + j) = (littleEndian16 w)[j]?.getD 0) : word16At b i = w := by
  have h0 : byteAt b i = w.toUInt8 := h 0 (by omega)
  have h1 : byteAt b (i + 1) = (w / 256).toUInt8 := h 1 (by omega)
  apply UInt16.toNat_inj.mp
  have hw := w.toNat_lt
  simp only [word16At, h0, h1, UInt16.toNat_add, UInt16.toNat_mul, UInt8.toNat_toUInt16,
    UInt16.toNat_toUInt8, UInt16.toNat_div, UInt16.toNat_ofNat, Nat.reducePow,
    Nat.reduceMod] at hw ⊢
  omega

/-- A word is made of its four bytes. -/
theorem word32At_eq {b : ByteArray} {i : Nat} {w : UInt32}
    (h : ∀ j < 4, byteAt b (i + j) = (littleEndian32 w)[j]?.getD 0) : word32At b i = w := by
  have h0 : byteAt b i = w.toUInt8 := h 0 (by omega)
  have h1 : byteAt b (i + 1) = (w / 256).toUInt8 := h 1 (by omega)
  have h2 : byteAt b (i + 2) = (w / 65536).toUInt8 := h 2 (by omega)
  have h3 : byteAt b (i + 3) = (w / 16777216).toUInt8 := h 3 (by omega)
  apply UInt32.toNat_inj.mp
  have hw := w.toNat_lt
  simp only [word32At, h0, h1, h2, h3, UInt32.toNat_add, UInt32.toNat_mul, UInt8.toNat_toUInt32,
    UInt32.toNat_toUInt8, UInt32.toNat_div, UInt32.toNat_ofNat, Nat.reducePow,
    Nat.reduceMod] at hw ⊢
  omega

end FatImage.Bytes
