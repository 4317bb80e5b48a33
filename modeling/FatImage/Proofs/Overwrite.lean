import FatImage.Bytes

/-!
# The algebra of cutting and overwriting

A device moves whole sectors, so a byte range reaches the disk in pieces:
cut out of sectors that were read, patched into sectors that are written
back. That the pieces amount to one read or one overwrite of the range
comes down to the laws in this file. Each is proved byte by byte from what
the operations do to a single byte.
-/

namespace FatImage.Bytes

theorem byteAt_append (a b : ByteArray) (i : Nat) :
    byteAt (a ++ b) i = if i < a.size then byteAt a i else byteAt b (i - a.size) := by
  split
  · next h =>
      have h' : i < (a ++ b).size := by rw [ByteArray.size_append]; omega
      rw [byteAt_of_lt h', byteAt_of_lt h]
      exact ByteArray.getElem_append_left h
  · next h =>
      by_cases hb : i - a.size < b.size
      · have h' : i < (a ++ b).size := by rw [ByteArray.size_append]; omega
        rw [byteAt_of_lt h', byteAt_of_lt hb]
        exact ByteArray.getElem_append_right (by omega)
      · rw [byteAt_of_size_le (by rw [ByteArray.size_append]; omega),
          byteAt_of_size_le (by omega)]

theorem byteAt_extract (b : ByteArray) (start stop i : Nat) :
    byteAt (b.extract start stop) i =
      if start + i < stop then byteAt b (start + i) else 0 := by
  split
  · next h =>
      have he : b.extract start stop = slice b start (stop - start) := by
        rw [slice, show start + (stop - start) = stop by omega]
      rw [he, byteAt_slice (by omega)]
  · exact byteAt_of_size_le (by rw [ByteArray.size_extract]; omega)

/-! ## Cutting -/

theorem slice_zero (b : ByteArray) (o : Nat) : slice b o 0 = .empty :=
  ByteArray.extract_same

theorem slice_slice {b : ByteArray} {o n m k : Nat} (h : m + k ≤ n) :
    slice (slice b o n) m k = slice b (o + m) k := by
  rw [slice, slice, slice, ByteArray.extract_extract,
    show min (o + (m + k)) (o + n) = o + m + k by omega]

theorem extract_slice {b : ByteArray} {o n k : Nat} (h : k ≤ n) :
    (slice b o n).extract 0 k = slice b o k := by
  rw [slice, slice, ByteArray.extract_extract, Nat.add_zero, Nat.min_eq_left (by omega)]

theorem slice_append_slice {b : ByteArray} {o m n : Nat} :
    slice b o m ++ slice b (o + m) n = slice b o (m + n) := by
  rw [slice, slice, slice, ByteArray.extract_append_extract,
    show min o (o + m) = o by omega, show max (o + m) (o + m + n) = o + (m + n) by omega]

theorem slice_congr {a b : ByteArray} {o o' n : Nat} (ha : o + n ≤ a.size)
    (hb : o' + n ≤ b.size)
    (h : ∀ i < n, byteAt a (o + i) = byteAt b (o' + i)) :
    slice a o n = slice b o' n := by
  have hs : (slice a o n).size = (slice b o' n).size := by
    simp only [size_slice]; omega
  refine ext_byteAt hs fun i hi => ?_
  rw [size_slice] at hi
  rw [byteAt_slice (by omega), byteAt_slice (by omega)]
  exact h i (by omega)

theorem slice_eq {b d : ByteArray} {o : Nat} (h : o + d.size ≤ b.size)
    (hd : ∀ i < d.size, byteAt b (o + i) = byteAt d i) : slice b o d.size = d := by
  refine ext_byteAt (by rw [size_slice]; omega) fun i hi => ?_
  rw [size_slice] at hi
  rw [byteAt_slice (by omega)]
  exact hd i (by omega)

/-! ## Overwriting -/

theorem byteAt_overwrite_of_inside {b d : ByteArray} {o : Nat}
    (h : o + d.size ≤ b.size) {i : Nat} (hi : i < d.size) :
    byteAt (overwrite b o d) (o + i) = byteAt d i := by
  rw [byteAt_overwrite h, if_pos (by omega), Nat.add_sub_cancel_left]

theorem byteAt_overwrite_of_outside {b d : ByteArray} {o : Nat}
    (h : o + d.size ≤ b.size) {i : Nat} (hi : i < o ∨ o + d.size ≤ i) :
    byteAt (overwrite b o d) i = byteAt b i := by
  rw [byteAt_overwrite h, if_neg (by omega)]

/-- Overwriting with nothing changes nothing, wherever it is. -/
theorem overwrite_of_size_eq_zero {b d : ByteArray} {o : Nat} (hd : d.size = 0) :
    overwrite b o d = b := by
  have hd' : d.data = #[] := Array.eq_empty_of_size_eq_zero hd
  refine ByteArray.ext ?_
  rw [data_overwrite, hd', hd, Array.append_empty, Nat.add_zero,
    Array.extract_append_extract, Nat.zero_min]
  exact Array.extract_eq_self_of_le (Nat.le_max_right o b.data.size)

/-- Overwriting in two adjoining pieces. -/
theorem overwrite_overwrite {b d : ByteArray} {o k n : Nat} (hk : k ≤ n)
    (hn : n ≤ d.size) (h : o + d.size ≤ b.size) :
    overwrite (overwrite b o (d.extract 0 k)) (o + k) (d.extract k n) =
      overwrite b o (d.extract 0 n) := by
  have hs₁ : (d.extract 0 k).size = k := by rw [ByteArray.size_extract]; omega
  have hs₂ : (d.extract k n).size = n - k := by rw [ByteArray.size_extract]; omega
  have hs₃ : (d.extract 0 n).size = n := by rw [ByteArray.size_extract]; omega
  have h₁ : o + (d.extract 0 k).size ≤ b.size := by omega
  have h₂ : o + k + (d.extract k n).size ≤ (overwrite b o (d.extract 0 k)).size := by
    rw [size_overwrite h₁]; omega
  have h₃ : o + (d.extract 0 n).size ≤ b.size := by omega
  refine ext_byteAt ?_ fun i _ => ?_
  · rw [size_overwrite h₂, size_overwrite h₁, size_overwrite h₃]
  · rw [byteAt_overwrite h₂, byteAt_overwrite h₁, byteAt_overwrite h₃, hs₁, hs₂, hs₃]
    simp only [byteAt_extract]
    split
    · rw [if_pos (by omega), if_pos (by omega), if_pos (by omega),
        show k + (i - (o + k)) = 0 + (i - o) by omega]
    · split
      · rw [if_pos (by omega), if_pos (by omega), if_pos (by omega)]
      · rw [if_neg (by omega)]

/-- A sector that was cut out, patched and put back is a patch of the disk. -/
theorem overwrite_patch {b d : ByteArray} {o n k : Nat} (hb : o + n ≤ b.size)
    (hk : k + d.size ≤ n) :
    overwrite b o (overwrite (slice b o n) k d) = overwrite b (o + k) d := by
  have hs : (slice b o n).size = n := by rw [size_slice]; omega
  have hp : k + d.size ≤ (slice b o n).size := by omega
  have h₁ : o + (overwrite (slice b o n) k d).size ≤ b.size := by
    rw [size_overwrite hp]; omega
  have h₂ : o + k + d.size ≤ b.size := by omega
  refine ext_byteAt (by rw [size_overwrite h₁, size_overwrite h₂]) fun i _ => ?_
  rw [byteAt_overwrite h₁, byteAt_overwrite h₂, byteAt_overwrite hp, size_overwrite hp, hs]
  split
  · split
    · rw [if_pos (by omega), show i - o - k = i - (o + k) by omega]
    · rw [if_neg (by omega), byteAt_slice (by omega), show o + (i - o) = i by omega]
  · rw [if_neg (by omega)]

/-! ## Zeros -/

theorem extract_zeros {n i j : Nat} (h : j ≤ n) :
    (zeros n).extract i j = zeros (j - i) := by
  refine ext_byteAt ?_ fun k _ => ?_
  · rw [ByteArray.size_extract, size_zeros, size_zeros, Nat.min_eq_left h]
  · rw [byteAt_extract, byteAt_zeros, byteAt_zeros, ite_self]

theorem overwrite_zeros {b : ByteArray} {o m n : Nat} (h : o + (m + n) ≤ b.size) :
    overwrite (overwrite b o (zeros m)) (o + m) (zeros n) =
      overwrite b o (zeros (m + n)) := by
  have hjoin := overwrite_overwrite (b := b) (d := zeros (m + n)) (o := o)
    (Nat.le_add_right m n) (Nat.le_of_eq (size_zeros (m + n)).symm)
    (by rw [size_zeros]; exact h)
  rwa [extract_zeros (by omega), extract_zeros (by omega), extract_zeros (by omega),
    Nat.sub_zero, Nat.add_sub_cancel_left, Nat.sub_zero] at hjoin

/-- The bytes of a list, filled up with zeros to `n` bytes. -/
def padded (n : Nat) (l : List UInt8) : ByteArray :=
  l.toByteArray ++ zeros (n - l.length)

theorem size_padded {n : Nat} {l : List UInt8} (h : l.length ≤ n) :
    (padded n l).size = n := by
  rw [padded, ByteArray.size_append, List.size_toByteArray, size_zeros]
  omega

theorem toByteArray_toList_data (b : ByteArray) : b.data.toList.toByteArray = b :=
  ByteArray.ext (by rw [List.data_toByteArray, Array.toArray_toList])

/-- The filling is not seen: past the list there are zeros anyway. -/
theorem byteAt_padded (n : Nat) (l : List UInt8) (i : Nat) :
    byteAt (padded n l) i = l[i]?.getD 0 := by
  rw [padded, byteAt_append, List.size_toByteArray]
  split
  · exact byteAt_toByteArray l i
  · next h => rw [byteAt_zeros, List.getElem?_eq_none (by omega), Option.getD_none]

end FatImage.Bytes
