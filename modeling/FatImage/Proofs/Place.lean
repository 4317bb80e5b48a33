import FatImage.Proofs.Chain
import FatImage.Proofs.Directory

/-!
# Placing one file

What one call of `place` does, on any device that keeps a disk. If it
succeeds, the disk is `withFile` of what it was, and the journal tells of
one more file. If it fails, the journal tells of none, and the disk either
is what it was, or the device is faulty and only spare bytes have changed.

Everything that can be refused for another reason than the device is
refused by `allocate`, before the first write. The last write is the
record, and the one thing that a torn write of it could spoil is excluded
by its lying in a single sector; this is why sectors must hold whole
records where the device may fail.
-/

namespace FatImage

variable {σ τ : Type} {look : σ → ByteArray × τ} {faulty : Prop} {v : View τ}
variable {vol : Volume σ} {l : Layout} {c : Nat} {f : File}

/-- What the journal tells of a placed file. -/
def PlacedFile.placing (p : PlacedFile) : Placing :=
  (p.name, p.size, p.start)

/-! ## Clusters that are free to use -/

/-- The clusters of a file can be linked from `c` on and lie on an image of
`size` bytes. -/
def Layout.Fits (l : Layout) (size c : Nat) (f : File) : Prop :=
  l.clustersOf f ≠ 0 → c + l.clustersOf f ≤ l.clusterLimit ∧
    l.payloadOffset (c + l.clustersOf f) ≤ size

namespace Layout

variable {size : Nat}

theorem Reach.step (h : l.Reach size c) (hf : l.Fits size c f) :
    l.Reach size (c + l.clustersOf f) := by
  rcases Nat.eq_zero_or_pos (l.clustersOf f) with h0 | hpos
  · rwa [h0, Nat.add_zero]
  · obtain ⟨hlimit, hsize⟩ := hf (by omega)
    have hfirst := h.first
    have hmirror := two_mul_clusterLimit_le l
    exact ⟨by omega, hsize, by omega, Or.inr hlimit⟩

theorem clusterStart?_eq {start : UInt16} (h : start.toNat = c) (hc : 2 ≤ c) :
    l.clusterStart? start = some (l.payloadOffset c) := by
  rw [clusterStart?, if_neg (by rw [h, firstDataCluster]; omega), h, payloadOffset]

theorem placement_start_toNat {slot : Nat} (hc : c ≤ 0xFFF0) (hn : l.clustersOf f ≠ 0) :
    (l.placement slot c f).start.toNat = c := by
  rw [placement, if_neg hn]
  exact toNat_toUInt16 hc

/-- Below the limit of 32 bits, a file has no more clusters than bytes. -/
theorem placement_clusters_toNat (hs : 0 < l.sectorSize) {slot : Nat}
    (hf : f.data.size < 0x100000000) : (l.placement slot c f).clusters.toNat = l.clustersOf f :=
  UInt32.toNat_ofNat_of_lt' (Nat.lt_of_le_of_lt (clustersFor_le hs f.data.size) hf)

theorem placement_size_toNat (l : Layout) (slot c : Nat) (hf : f.data.size < 0x100000000) :
    (l.placement slot c f).size.toNat = f.data.size :=
  UInt32.toNat_ofNat_of_lt' hf

end Layout

namespace Volume

section

variable (hu : vol.layout.Uncut)
include hu

theorem checkClusters_eq {start : UInt16} {n : Nat} (hstart : start.toNat = c) (hc : 2 ≤ c)
    (hn : n ≠ 0) (hcount : c + n ≤ 0x100000000) :
    vol.checkClusters start n =
      if vol.layout.clusterLimit ≤ c + n - 1 then
        .error (.tableOverflow (c + n - 1) vol.layout.clusterLimit)
      else vol.image.checkRange (vol.layout.payloadOffset c) (n * vol.layout.sectorSize) := by
  have hchain : vol.layout.checkChain start n =
      if vol.layout.clusterLimit ≤ c + n - 1 then
        .error (.tableOverflow (c + n - 1) vol.layout.clusterLimit)
      else .ok () := by
    subst hstart
    have hlast : Layout.cut32 (start.toNat + n - 1) = start.toNat + n - 1 :=
      Layout.cut32_of_lt (by omega)
    unfold Layout.checkChain
    dsimp only
    rw [if_neg hn, hlast]
  unfold Volume.checkClusters
  rw [hchain, hu.clusterOffset?_eq, Layout.clusterStart?_eq hstart hc]
  split <;> rfl

/-- Clusters that can be linked may be refused, but for want of sectors only. -/
theorem checkClusters_eq_error_of_linked {start : UInt16} {count : Nat} {e : VolumeError}
    (hstart : 2 ≤ start.toNat) (hlinked : vol.layout.checkChain start count = .ok ())
    (h : vol.checkClusters start count = .error e) :
    ∃ needed, e = .imageTooSmall needed vol.image.length := by
  unfold checkClusters at h
  rw [hlinked, hu.clusterOffset?_eq, Layout.clusterStart?_eq rfl hstart] at h
  exact ⟨_, (Image.checkRange_eq_error_iff.1 h).2⟩

theorem checkClusters_eq_ok {start : UInt16} {count : Nat} (hstart : 2 ≤ start.toNat)
    (hlinked : vol.layout.checkChain start count = .ok ())
    (hstored : vol.layout.payloadOffset start.toNat + count * vol.layout.sectorSize ≤
      vol.image.length) : vol.checkClusters start count = .ok () := by
  unfold checkClusters
  rw [hlinked, hu.clusterOffset?_eq, Layout.clusterStart?_eq rfl hstart]
  exact Image.checkRange_eq_ok hstored

end

theorem Whole.clustersOf_le (h : vol.Whole look faulty) (hsize : f.data.size < 0x100000000) :
    vol.layout.clustersOf f ≤ 0x800000 :=
  Layout.clustersFor_le_of_lt h.least hsize

theorem Whole.fits_of_checkClusters (h : vol.Whole look faulty) {start : UInt16}
    (hstart : start.toNat = c) (hc : 2 ≤ c) (hsize : f.data.size < 0x100000000)
    (hok : vol.checkClusters start (vol.layout.clustersOf f) = .ok ()) :
    vol.layout.Fits vol.image.length c f := by
  intro hn
  have hcount := h.clustersOf_le hsize
  have hcluster := start.toNat_lt
  rw [checkClusters_eq h.uncut hstart hc hn (by omega)] at hok
  split at hok
  · cases hok
  · have hrange := Image.le_length_of_checkRange h.backed.counted hok
    rw [Layout.payloadOffset_add hc]
    exact ⟨by omega, hrange⟩

/-! ## The steps of placing -/

/-- Why no place is found for a file from `c` on: it is too long, its clusters
are not free to use, or no slot is free. -/
inductive Refused (vol : Volume σ) (c : Nat) (f : File) (b : ByteArray) :
    VolumeError → Prop where
  | size (h : 0x100000000 ≤ f.data.size) : Refused vol c f b (.fileTooLarge f.data.size)
  | clusters {e : VolumeError} (hn : vol.layout.clustersOf f ≠ 0)
      (h : vol.checkClusters c.toUInt16 (vol.layout.clustersOf f) = .error e) :
      Refused vol c f b e
  | slot (hfits : vol.layout.Fits vol.image.length c f)
      (h : 32 ∣ vol.layout.sectorSize → NoneFree vol.layout b vol.layout.slotCount) :
      Refused vol c f b .directoryFull

/-- What is allocated for a file, if anything is: room from `c` on, and the
first free slot. -/
structure AllocatedAt (vol : Volume σ) (c : Nat) (f : File) (b : ByteArray)
    (a : Allocation) : Prop where
  size : f.data.size < 0x100000000
  fits : vol.layout.Fits vol.image.length c f
  slot : a.slot < vol.layout.slotCount
  first : 32 ∣ vol.layout.sectorSize →
    Bytes.byteAt b (vol.layout.slotStart a.slot) = 0 ∧ NoneFree vol.layout b a.slot
  place : a = ⟨(vol.layout.placement a.slot c f).start,
    (vol.layout.placement a.slot c f).clusters,
    (vol.layout.placement a.slot c f).size, a.slot⟩

/-- What there is still to do of `allocate` when the clusters of `n` bytes are settled. -/
def takeSlot (vol : Volume σ) (start : UInt16) (n : Nat) : Action σ VolumeError Allocation := do
  let slot ← vol.freeSlot
  return ⟨start, (vol.layout.clustersFor n).toUInt32, n.toUInt32, slot⟩

/-- As long as the length has 32 bits, none of the numbers is cut. -/
theorem allocate_eq (vol : Volume σ) (hs : 0 < vol.layout.sectorSize) (cursor : Cursor)
    {n : Nat} (hn : n < 0x100000000) :
    vol.allocate cursor n =
      if vol.layout.clustersFor n = 0 then vol.takeSlot 0 n
      else
        Action.ofExcept (vol.checkClusters cursor.cluster (vol.layout.clustersFor n)) >>=
          fun _ => vol.takeSlot cursor.cluster n := by
  have hsize : n.toUInt32.toNat = n := UInt32.toNat_ofNat_of_lt' hn
  have hclusters : (vol.layout.clustersFor n).toUInt32.toNat = vol.layout.clustersFor n :=
    UInt32.toNat_ofNat_of_lt' (Nat.lt_of_le_of_lt (Layout.clustersFor_le hs n) hn)
  have hzero : (vol.layout.clustersFor n).toUInt32 = 0 ↔ vol.layout.clustersFor n = 0 := by
    rw [← UInt32.toNat_inj, hclusters]
    rfl
  unfold Volume.allocate
  rw [if_neg (Nat.not_le.2 hn)]
  simp only [hsize, hclusters, hzero, ne_eq]
  by_cases h0 : vol.layout.clustersFor n = 0
  · rw [if_neg (not_not_intro h0), if_pos h0, if_pos h0]
    rfl
  · rw [if_pos h0, if_neg h0, if_neg h0]
    rfl

theorem Whole.allocate (h : vol.Whole look faulty)
    (hv : vol.image.length ≤ v.disk.size) {cursor : Cursor}
    (hcursor : cursor.cluster.toNat = c) (hc : 2 ≤ c) :
    (vol.allocate cursor f.data.size).Ends (World.view look) v
      (fun a v' => v' = v ∧ AllocatedAt vol c f v.disk a)
      (fun e v' => v' = v ∧ ((e = .deviceFailed ∧ faulty) ∨ Refused vol c f v.disk e)) := by
  rcases Nat.lt_or_ge f.data.size (0x100000000) with hsize | hsize
  · have hcluster : cursor.cluster = c.toUInt16 := by
      rw [← hcursor, Nat.toUInt16_eq, UInt16.ofNat_toNat]
    -- the search for a slot, once the clusters are known to be free to use
    have hslot : ∀ start, start = (if vol.layout.clustersOf f = 0 then 0 else c.toUInt16) →
        vol.layout.Fits vol.image.length c f →
        (vol.takeSlot start f.data.size).Ends (World.view look) v
          (fun a v' => v' = v ∧ AllocatedAt vol c f v.disk a)
          (fun e v' => v' = v ∧
            ((e = .deviceFailed ∧ faulty) ∨ Refused vol c f v.disk e)) := by
      intro start hstart hfits
      subst hstart
      refine (h.freeSlot hv).bind ?_ ?_
      · intro slot v' hv'
        obtain ⟨rfl, hcount, hfirst⟩ := hv'
        exact Action.ends_pure ⟨rfl, hsize, hfits, hcount, hfirst, rfl⟩
      · intro e v' hv'
        obtain ⟨rfl, hfailed | ⟨rfl, hnone⟩⟩ := hv'
        · exact ⟨rfl, Or.inl hfailed⟩
        · exact ⟨rfl, Or.inr (.slot hfits hnone)⟩
    rw [allocate_eq vol h.sectorSize_pos cursor hsize, hcluster]
    split
    · next hn0 => exact hslot 0 (if_pos hn0).symm fun hn1 => absurd hn0 hn1
    · next hn0 =>
        refine Action.ends_ofExcept_bind ?_
          (fun _ he => ⟨rfl, Or.inr (.clusters hn0 he)⟩)
        intro _ hok
        refine hslot _ (if_neg hn0).symm ?_
        exact h.fits_of_checkClusters (by rw [← hcluster, hcursor]) hc hsize hok
  · unfold Volume.allocate
    rw [if_pos hsize]
    refine Action.ends_ofExcept_bind (r := Except.error (VolumeError.fileTooLarge _))
      (fun _ he => by cases he) ?_
    intro e he
    cases he
    exact ⟨rfl, Or.inr (.size hsize)⟩

/-- What is left of a disk by a call that failed: nothing has changed, or the
device is faulty and spare bytes alone have. -/
def LeftOver (l : Layout) (c : Nat) (faulty : Prop) (b b' : ByteArray) : Prop :=
  b' = b ∨ faulty ∧ l.SpareOnly c b b'

theorem Whole.writePayload (h : vol.Whole look faulty)
    (hv : vol.image.length ≤ v.disk.size) {start : UInt16}
    (hstart : vol.layout.clustersOf f ≠ 0 → start.toNat = c) (hc : 2 ≤ c)
    (hfit : vol.layout.payloadOffset c + f.data.size ≤ vol.image.length) :
    (vol.writePayload start f.data).Ends (World.view look) v
      (fun _ v' => v' = { v with
        disk := Bytes.overwrite v.disk (vol.layout.payloadOffset c) f.data })
      (fun e v' => (e = .deviceFailed ∧ faulty) ∧
        ∃ b, vol.layout.SpareOnly c v.disk b ∧ v' = { v with disk := b }) := by
  unfold Volume.writePayload
  split
  · next hempty =>
      refine Action.ends_pure ?_
      rw [Bytes.overwrite_of_size_eq_zero hempty]
  · next hne =>
      have hn : vol.layout.clustersOf f ≠ 0 := fun h0 =>
        hne ((Layout.clustersFor_eq_zero_iff h.sectorSize_pos).1 h0)
      rw [h.uncut.clusterOffset?_eq, Layout.clusterStart?_eq (hstart hn) hc]
      refine (h.backed.writeAt hv hfit).mono (fun _ _ hv' => hv') ?_
      intro e v' hv'
      obtain ⟨he, b, htorn, rfl⟩ := hv'
      refine ⟨he, b, Layout.spareOnly_torn htorn (by omega) ?_, rfl⟩
      intro x hx _
      exact Or.inr hx

/-- What a call of `place` has done when it succeeds. -/
structure PlacedAt (vol : Volume σ) (c : Nat) (f : File) (v v' : View τ)
    (p : PlacedFile) (next : Cursor) : Prop where
  slot : p.slot < vol.layout.slotCount
  first : 32 ∣ vol.layout.sectorSize →
    Bytes.byteAt v.disk (vol.layout.slotStart p.slot) = 0 ∧
      NoneFree vol.layout v.disk p.slot
  place : p = vol.layout.placement p.slot c f
  size : f.data.size < 0x100000000
  reach : vol.layout.Reach vol.image.length (c + vol.layout.clustersOf f)
  next : next.cluster.toNat = c + vol.layout.clustersOf f
  seen : v' = ⟨vol.layout.withFile v.disk p.slot c f, v.aside, v.placed ++ [p.placing]⟩

theorem Cursor.advance_toNat {cursor : Cursor} {n : UInt32} {k : Nat}
    (hcursor : cursor.cluster.toNat = c) (hn : n.toNat = k) (hle : c + k ≤ 0xFFF0) :
    (cursor.advance n).cluster.toNat = c + k := by
  rw [Cursor.advance, UInt16.toNat_add, UInt32.toNat_toUInt16, hcursor, hn]
  omega

/-- A file is placed as a whole, or nothing of it is ever seen; and it is placed
unless it is refused or the device fails. -/
theorem Whole.place (h : vol.Whole look faulty)
    (hv : vol.image.length ≤ v.disk.size) (h32 : faulty → 32 ∣ vol.layout.sectorSize)
    {cursor : Cursor} (hcursor : cursor.cluster.toNat = c)
    (hreach : vol.layout.Reach vol.image.length c) :
    (vol.place cursor f.name f.data).Ends (World.view look) v
      (fun r v' => PlacedAt vol c f v v' r.1 r.2)
      (fun e v' => (∃ b, LeftOver vol.layout c faulty v.disk b ∧ v' = { v with disk := b }) ∧
        ((e = .deviceFailed ∧ faulty) ∨ Refused vol c f v.disk e)) := by
  have hs := h.sectorSize_pos
  have hc := hreach.first
  have hc' := hreach.counted
  unfold Volume.place
  refine (h.allocate hv hcursor hc).bind ?_ ?_
  · intro a v₀ hv₀
    obtain ⟨rfl, hsize, hfits, hslot, hfirst, ha⟩ := hv₀
    generalize hslot' : a.slot = slot at hslot hfirst ha
    subst ha
    have hreach' := hreach.step hfits
    have hreachv := hreach'.size_mono hv
    have hclusters : (vol.layout.placement slot c f).clusters.toNat = vol.layout.clustersOf f :=
      Layout.placement_clusters_toNat hs hsize
    have hstart : vol.layout.clustersOf f ≠ 0 →
        (vol.layout.placement slot c f).start.toNat = c :=
      Layout.placement_start_toNat hc'
    refine ends_quiet_bind rfl ?_
    refine (h.writePayload hv hstart hc
      (Nat.le_trans (Layout.payload_end_le hs hc) hreach'.stored)).bind ?_ ?_
    · intro _ v₁ hv₁
      subst hv₁
      have hsize₁ := hreachv.size_payload hs hc
      refine ends_quiet_bind rfl ?_
      simp only [hclusters]
      refine (h.linkChain (by simp only [hsize₁]; exact hv) hstart
        (fun hn => (hfits hn).1)).bind ?_ ?_
      · intro _ v₂ hv₂
        have hseen₂ : v₂ = { v₀ with disk := vol.layout.withChain v₀.disk c f } := hv₂
        subst hseen₂
        have hsize₂ := hreachv.size_withChain hs hc
        refine (h.writeRecord (by simp only [hsize₂]; exact hv) hslot
          (vol.layout.placement slot c f).record).bind ?_ ?_
        · intro _ v₃ hv₃
          have hseen₃ : v₃ = { v₀ with disk := vol.layout.withFile v₀.disk slot c f } := hv₃
          refine ends_quiet_bind rfl (ends_quiet_bind rfl ?_)
          refine ends_placed.bind ?_ (fun _ _ => False.elim)
          intro _ v₄ hv₄
          refine Action.ends_pure ⟨hslot, hfirst, rfl, hsize, hreach', ?_, ?_⟩
          · exact Cursor.advance_toNat hcursor hclusters hreach'.counted
          · rw [hv₄, hseen₃]
            rfl
        · intro e v₃ hv₃
          obtain ⟨⟨he, hf⟩, b, htorn, rfl⟩ := hv₃
          -- the record lies in one sector, so a torn write of it did nothing
          have hb := htorn.eq_of_inside (by
            rw [Record.size_encode]
            exact h.record_in_sector (h32 hf) slot)
          subst hb
          exact ⟨⟨_, Or.inr ⟨hf, hreachv.spareOnly_withChain hs hc⟩, rfl⟩, Or.inl ⟨he, hf⟩⟩
      · intro e v₂ hv₂
        obtain ⟨⟨he, hf⟩, b, hb, rfl⟩ := hv₂
        exact ⟨⟨b, Or.inr ⟨hf, (hreachv.spareOnly_payload hs hc).trans hb⟩, rfl⟩,
          Or.inl ⟨he, hf⟩⟩
    · intro e v₁ hv₁
      obtain ⟨⟨he, hf⟩, b, hb, rfl⟩ := hv₁
      exact ⟨⟨b, Or.inr ⟨hf, hb⟩, rfl⟩, Or.inl ⟨he, hf⟩⟩
  · intro e v₀ hv₀
    obtain ⟨rfl, hwhy⟩ := hv₀
    exact ⟨⟨_, Or.inl rfl, rfl⟩, hwhy⟩

end Volume

end FatImage
