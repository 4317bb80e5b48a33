import FatImage.Proofs.Distinct

/-!
# A filled image is no text

A list of files is read as UTF-8, which encodes no character with the byte
0xFF. Every mirror of the allocation table has this byte in its header. So an
image that was filled cannot be read as a list any more, be it filled to the
end or not, and whatever stands behind its last whole sector.
-/

namespace FatImage

variable {τ : Type} {l : Layout} {m : Manifest} {b : ByteArray}

theorem ne_of_mem_utf8EncodeChar {c : Char} {u : UInt8} (h : u ∈ String.utf8EncodeChar c) :
    u ≠ 0xFF := by
  suffices hlt : u.toNat < 0xFF by
    rintro rfl
    exact absurd hlt (by decide)
  simp only [String.utf8EncodeChar] at h
  -- the first byte depends on how many there are, and the others are below 0xC0
  split at h
  · simp only [List.mem_singleton] at h
    subst h
    rw [UInt8.toNat_ofNat']
    omega
  · split at h
    · simp only [List.mem_cons, List.not_mem_nil, or_false] at h
      rcases h with rfl | rfl <;> rw [UInt8.toNat_ofNat'] <;> omega
    · split at h
      · simp only [List.mem_cons, List.not_mem_nil, or_false] at h
        rcases h with rfl | rfl | rfl <;> rw [UInt8.toNat_ofNat'] <;> omega
      · simp only [List.mem_cons, List.not_mem_nil, or_false] at h
        rcases h with rfl | rfl | rfl | rfl <;> rw [UInt8.toNat_ofNat'] <;> omega

/-- Bytes with 0xFF among them are no text. -/
theorem fromUTF8?_eq_none {i : Nat} (h : Bytes.byteAt b i = 0xFF) :
    String.fromUTF8? b = none := by
  rw [String.fromUTF8?, dif_neg]
  rintro ⟨cs, rfl⟩
  rw [List.utf8Encode, Bytes.byteAt_toByteArray] at h
  cases hget : (cs.flatMap String.utf8EncodeChar)[i]? with
  | none =>
      rw [hget] at h
      cases h
  | some u =>
      obtain ⟨c, -, hc⟩ := List.mem_flatMap.1 (List.mem_of_getElem? hget)
      rw [hget] at h
      exact ne_of_mem_utf8EncodeChar hc h

theorem Layout.TableOn.fromUTF8? {fs : List File} (h : l.TableOn b fs) (hmirrors : 0 < l.mirrors)
    (hroom : 4 ≤ l.mirrorBytes) (tail : ByteArray) : String.fromUTF8? (b ++ tail) = none := by
  have hbyte := h 0 hmirrors 1 (by omega)
  rw [Layout.byteAt_table_of_lt_four (by omega)] at hbyte
  have hlt : l.mirrorStart 0 + 1 < b.size := by
    refine Nat.lt_of_not_le fun hle => ?_
    rw [Bytes.byteAt_of_size_le hle] at hbyte
    cases hbyte
  refine fromUTF8?_eq_none (i := l.mirrorStart 0 + 1) ?_
  rw [Bytes.byteAt_append, if_pos hlt, hbyte]
  rfl

/-- However filling a disk in memory ends, it is no text, whatever follows it. -/
theorem fill_no_text (load : Loader τ) {n : Nat} {disk : ByteArray} {t : τ}
    {vol : Volume (ByteArray × τ)} {w : World (ByteArray × τ)}
    (hmount : (Volume.mount ((Device.memory n).beside τ) l).start (disk, t) = (.ok vol, w))
    (hdisk : disk.size < Image.greatest) (hu : l.Uncut) (hmirrors : 0 < l.mirrors)
    (hmirror : 0 < l.mirrorSectors) (h32 : 32 ∣ l.sectorSize) (hm : m.Built) :
    ∃ r w', (fill ((Device.memory n).beside τ) l m load.source).start (disk, t) = (r, w') ∧
      ∀ tail, String.fromUTF8? (w'.state.1 ++ tail) = none := by
  obtain ⟨k, r, w', hfill, hstopped⟩ :=
    fill_stopped hmount load hdisk hu hmirror h32 hm.proper.parsed
  obtain ⟨-, rfl, hstands, -, -⟩ :=
    Volume.of_mount ((Device.keeps_memory n).beside τ) hdisk hmount hu.bounded
  exact ⟨r, w', hfill, hstopped.sound.holds.table.fromUTF8? hmirrors
    (hstands.four_le_mirrorBytes hmirror)⟩

end FatImage
