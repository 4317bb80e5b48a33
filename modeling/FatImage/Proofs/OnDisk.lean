import FatImage.Proofs.Picture
import FatImage.Proofs.Ranges

/-!
# What is on the disk

Two invariants tie the bytes of a disk to the files that were placed on it.
`Holds` is the strong one: the disk is the picture of the files over what
was there before, region by region. `Legible` is what is left of it for a
reader: each mirror up to the next cluster, the root directory, and the
bytes of the files. A run without a failure keeps the first; a run that
breaks off in the middle of a file only keeps the second, because a write
may have come through for bytes that no file uses yet. These bytes are
`Spare`, and a change of spare bytes alone is never seen by a reader.

Both invariants are about the three regions separately, so the lemmas come
in the order of the regions: what the bytes of a mirror, of the directory
and of the data region are once one more file is on the disk.
-/

namespace FatImage.Layout

variable {l : Layout} {base b b' d : ByteArray} {f : File} {fs : List File}

/-! ## Writing alike to all mirrors -/

theorem onMirrors_succ (b : ByteArray) (o : Nat) (d : ByteArray) (k : Nat) :
    l.onMirrors b o d (k + 1) =
      Bytes.overwrite (l.onMirrors b o d k) (l.mirrorStart k + o) d := by
  rw [onMirrors, List.range_succ, List.foldl_append]
  rfl

theorem onMirrors_of_size_eq_zero (hd : d.size = 0) (b : ByteArray) (o k : Nat) :
    l.onMirrors b o d k = b := by
  induction k with
  | zero => rfl
  | succ k ih => rw [onMirrors_succ, ih, Bytes.overwrite_of_size_eq_zero hd]

variable {o k : Nat}

theorem size_onMirrors (hd : o + d.size ≤ l.mirrorBytes) (hk : k ≤ l.mirrors)
    (hb : l.rootStart ≤ b.size) : (l.onMirrors b o d k).size = b.size := by
  induction k with
  | zero => rfl
  | succ k ih =>
      have hsize := ih (by omega)
      have hend := mirror_end_le_root (l := l) (i := k) (by omega)
      rw [onMirrors_succ, Bytes.size_overwrite (by omega), hsize]

theorem byteAt_onMirrors_of_outside (hd : o + d.size ≤ l.mirrorBytes)
    (hk : k ≤ l.mirrors) (hb : l.rootStart ≤ b.size) {x : Nat}
    (hx : x < l.tableOffset ∨ l.rootStart ≤ x) :
    Bytes.byteAt (l.onMirrors b o d k) x = Bytes.byteAt b x := by
  induction k with
  | zero => rfl
  | succ k ih =>
      have hsize := size_onMirrors (k := k) hd (by omega) hb
      have hend := mirror_end_le_root (l := l) (i := k) (by omega)
      have hstart := tableOffset_le_mirror l k
      rw [onMirrors_succ, Bytes.byteAt_overwrite_of_outside (by omega) (by omega),
        ih (by omega)]

theorem byteAt_onMirrors (hd : o + d.size ≤ l.mirrorBytes) (hk : k ≤ l.mirrors)
    (hb : l.rootStart ≤ b.size) {i j : Nat} (hi : i < k) (hj : j < l.mirrorBytes) :
    Bytes.byteAt (l.onMirrors b o d k) (l.mirrorStart i + j) =
      if o ≤ j ∧ j < o + d.size then Bytes.byteAt d (j - o)
      else Bytes.byteAt b (l.mirrorStart i + j) := by
  have hkeep : ∀ k ≤ i, Bytes.byteAt (l.onMirrors b o d k) (l.mirrorStart i + j) =
      Bytes.byteAt b (l.mirrorStart i + j) := by
    intro k hki
    induction k with
    | zero => rfl
    | succ k ih =>
        have hsize := size_onMirrors (k := k) hd (by omega) hb
        have hend := mirror_end_le_root (l := l) (i := k) (by omega)
        have hbefore := mirror_end_le (l := l) (show k < i by omega)
        rw [onMirrors_succ, Bytes.byteAt_overwrite_of_outside (by omega) (by omega),
          ih (by omega)]
  induction k with
  | zero => omega
  | succ k ih =>
      have hsize := size_onMirrors (k := k) hd (by omega) hb
      have hend := mirror_end_le_root (l := l) (i := k) (by omega)
      rw [onMirrors_succ]
      rcases Nat.lt_or_ge i k with hik | hik
      · have hbefore := mirror_end_le (l := l) hik
        rw [Bytes.byteAt_overwrite_of_outside (by omega) (by omega), ih (by omega) hik]
      · have hik' : i = k := by omega
        subst hik'
        rw [Bytes.byteAt_overwrite (by omega), hkeep i (Nat.le_refl i),
          show l.mirrorStart i + j - (l.mirrorStart i + o) = j - o by omega]
        split
        · next hin => rw [if_pos (by omega)]
        · next hout => rw [if_neg (by omega)]

/-! ## One more file on the disk -/

/-- The cluster `c` can be the next one on an image of `size` bytes: those
before it can all be linked and lie on the image. -/
structure Reach (l : Layout) (size c : Nat) : Prop where
  first : 2 ≤ c
  stored : l.payloadOffset c ≤ size
  linked : 2 * c ≤ l.mirrorBytes
  limit : c = 2 ∨ c ≤ l.clusterLimit

/-- `b` with the bytes of a file in the clusters from `c` on, and with their
links in every mirror. -/
def withChain (l : Layout) (b : ByteArray) (c : Nat) (f : File) : ByteArray :=
  l.onMirrors (Bytes.overwrite b (l.payloadOffset c) f.data) (2 * c)
    (linkBytes c (l.clustersOf f)) l.mirrors

/-- `b` with a file in a slot and in the clusters from `c` on. -/
def withFile (l : Layout) (b : ByteArray) (slot c : Nat) (f : File) : ByteArray :=
  Bytes.overwrite (l.withChain b c f) (l.slotStart slot)
    (l.placement slot c f).record.encode

variable {size c slot : Nat}

theorem Reach.size_mono {size' : Nat} (h : l.Reach size c) (hle : size ≤ size') :
    l.Reach size' c where
  first := h.first
  stored := Nat.le_trans h.stored hle
  linked := h.linked
  limit := h.limit

theorem Reach.counted (h : l.Reach size c) : c ≤ 0xFFF0 := by
  have := clusterLimit_le l
  have := h.limit
  omega

theorem Reach.dataStart_le (h : l.Reach size c) : l.dataStart ≤ size :=
  Nat.le_trans (dataStart_le_payload l c) h.stored

/-- The clusters of a file behind which `c` can be the next one. -/
theorem Reach.links_end_le (h : l.Reach size (c + l.clustersOf f)) :
    2 * c + (linkBytes c (l.clustersOf f)).size ≤ l.mirrorBytes := by
  have := h.linked
  rw [size_linkBytes]
  omega

section WithFile

variable (hs : 0 < l.sectorSize) (hc : 2 ≤ c) (h : l.Reach b.size (c + l.clustersOf f))
include hs hc h

theorem Reach.payload_le : l.payloadOffset c + f.data.size ≤ b.size :=
  Nat.le_trans (payload_end_le hs hc) h.stored

theorem Reach.size_payload :
    (Bytes.overwrite b (l.payloadOffset c) f.data).size = b.size :=
  Bytes.size_overwrite (h.payload_le hs hc)

theorem Reach.size_withChain : (l.withChain b c f).size = b.size := by
  have hsize := h.size_payload hs hc
  have hroot := rootStart_le_data l
  have hdata := h.dataStart_le
  rw [withChain, size_onMirrors h.links_end_le (Nat.le_refl _) (by omega), hsize]

theorem Reach.byteAt_withChain_of_outside {x : Nat}
    (hx : x < l.tableOffset ∨ l.rootStart ≤ x) (hx' : x < l.dataStart) :
    Bytes.byteAt (l.withChain b c f) x = Bytes.byteAt b x := by
  have hsize := h.size_payload hs hc
  have hroot := rootStart_le_data l
  have hdata := h.dataStart_le
  have hpay := dataStart_le_payload l c
  have hend := h.payload_le hs hc
  rw [withChain, byteAt_onMirrors_of_outside h.links_end_le (Nat.le_refl _) (by omega) hx,
    Bytes.byteAt_overwrite_of_outside hend (by omega)]

theorem Reach.byteAt_withChain_mirror {i j : Nat} (hi : i < l.mirrors)
    (hj : j < l.mirrorBytes) :
    Bytes.byteAt (l.withChain b c f) (l.mirrorStart i + j) =
      if 2 * c ≤ j ∧ j < 2 * c + 2 * l.clustersOf f then
        Bytes.byteAt (linkBytes c (l.clustersOf f)) (j - 2 * c)
      else Bytes.byteAt b (l.mirrorStart i + j) := by
  have hsize := h.size_payload hs hc
  have hroot := rootStart_le_data l
  have hdata := h.dataStart_le
  have hpay := dataStart_le_payload l c
  have hend := h.payload_le hs hc
  have hmirror := mirror_end_le_root hi
  rw [withChain, byteAt_onMirrors h.links_end_le (Nat.le_refl _) (by omega) hi hj,
    Bytes.byteAt_overwrite_of_outside hend (by omega), size_linkBytes]

theorem Reach.byteAt_withChain_data {x : Nat} (hx : l.dataStart ≤ x) :
    Bytes.byteAt (l.withChain b c f) x =
      if l.payloadOffset c ≤ x ∧ x < l.payloadOffset c + f.data.size then
        Bytes.byteAt f.data (x - l.payloadOffset c)
      else Bytes.byteAt b x := by
  have hsize := h.size_payload hs hc
  have hroot := rootStart_le_data l
  have hdata := h.dataStart_le
  have hend := h.payload_le hs hc
  rw [withChain, byteAt_onMirrors_of_outside h.links_end_le (Nat.le_refl _) (by omega)
    (by omega), Bytes.byteAt_overwrite hend]

variable (hslot : slot < l.slotCount)
include hslot

theorem Reach.record_le : l.slotStart slot +
    (l.placement slot c f).record.encode.size ≤ (l.withChain b c f).size := by
  have hsize := h.size_withChain hs hc
  have hend := slotStart_end_le hslot
  have hdata := h.dataStart_le
  rw [Record.size_encode, hsize]
  exact Nat.le_trans hend hdata

theorem Reach.size_withFile : (l.withFile b slot c f).size = b.size := by
  rw [withFile, Bytes.size_overwrite (h.record_le hs hc hslot), h.size_withChain hs hc]

/-- Outside of the root directory a record changes nothing. -/
theorem Reach.byteAt_withFile_of_outside {x : Nat}
    (hx : x < l.rootStart ∨ l.dataStart ≤ x) :
    Bytes.byteAt (l.withFile b slot c f) x = Bytes.byteAt (l.withChain b c f) x := by
  have hend := slotStart_end_le hslot
  have hstart : l.rootStart ≤ l.slotStart slot := Nat.le_add_right _ _
  rw [withFile, Bytes.byteAt_overwrite_of_outside (h.record_le hs hc hslot)]
  rw [Record.size_encode]
  rw [Layout.recordSize] at hend
  omega

theorem Reach.byteAt_withFile_reserved {x : Nat} (hx : x < l.tableOffset) :
    Bytes.byteAt (l.withFile b slot c f) x = Bytes.byteAt b x := by
  have htable := tableOffset_le_root l
  have hroot := rootStart_le_data l
  rw [h.byteAt_withFile_of_outside hs hc hslot (by omega),
    h.byteAt_withChain_of_outside hs hc (by omega) (by omega)]

theorem Reach.byteAt_withFile_mirror {i j : Nat} (hi : i < l.mirrors)
    (hj : j < l.mirrorBytes) :
    Bytes.byteAt (l.withFile b slot c f) (l.mirrorStart i + j) =
      if 2 * c ≤ j ∧ j < 2 * c + 2 * l.clustersOf f then
        Bytes.byteAt (linkBytes c (l.clustersOf f)) (j - 2 * c)
      else Bytes.byteAt b (l.mirrorStart i + j) := by
  have hmirror := mirror_end_le_root hi
  rw [h.byteAt_withFile_of_outside hs hc hslot (by omega),
    h.byteAt_withChain_mirror hs hc hi hj]

theorem Reach.byteAt_withFile_root {j : Nat} (hj : j < l.rootBytes) :
    Bytes.byteAt (l.withFile b slot c f) (l.rootStart + j) =
      if 32 * slot ≤ j ∧ j < 32 * slot + 32 then
        Bytes.byteAt (l.placement slot c f).record.encode (j - 32 * slot)
      else Bytes.byteAt b (l.rootStart + j) := by
  have hdata : l.dataStart = l.rootStart + l.rootBytes := rfl
  have hoffset : l.slotStart slot = l.rootStart + slot * 32 := rfl
  rw [withFile, Bytes.byteAt_overwrite (h.record_le hs hc hslot), Record.size_encode,
    h.byteAt_withChain_of_outside hs hc (by omega) (by omega), hoffset,
    show l.rootStart + j - (l.rootStart + slot * 32) = j - 32 * slot by omega]
  split
  · next hin => rw [if_pos (by omega)]
  · next hout => rw [if_neg (by omega)]

theorem Reach.byteAt_withFile_data {x : Nat} (hx : l.dataStart ≤ x) :
    Bytes.byteAt (l.withFile b slot c f) x =
      if l.payloadOffset c ≤ x ∧ x < l.payloadOffset c + f.data.size then
        Bytes.byteAt f.data (x - l.payloadOffset c)
      else Bytes.byteAt b x := by
  rw [h.byteAt_withFile_of_outside hs hc hslot (by omega),
    h.byteAt_withChain_data hs hc hx]

end WithFile

/-! ## The picture, region by region -/

/-- The link of the cluster `c` in mirror `i`. -/
def linkAt (l : Layout) (b : ByteArray) (i c : Nat) : UInt16 :=
  Bytes.word16At b (l.mirrorStart i + 2 * c)

/-- Every mirror is the table of the files. -/
def TableOn (l : Layout) (b : ByteArray) (fs : List File) : Prop :=
  ∀ i < l.mirrors, ∀ j < l.mirrorBytes,
    Bytes.byteAt b (l.mirrorStart i + j) = Bytes.byteAt (l.table fs) j

/-- The root directory is the one of the files. -/
def DirectoryOn (l : Layout) (b : ByteArray) (fs : List File) : Prop :=
  ∀ j < l.rootBytes,
    Bytes.byteAt b (l.rootStart + j) = Bytes.byteAt (l.directory fs) j

/-- On `b`, which was `base` before the reset, there are the files and nothing
else has changed. -/
structure Holds (l : Layout) (base b : ByteArray) (fs : List File) : Prop where
  size : b.size = base.size
  reserved : ∀ x < l.tableOffset, Bytes.byteAt b x = Bytes.byteAt base x
  table : l.TableOn b fs
  directory : l.DirectoryOn b fs
  payload : ∀ x, l.dataStart ≤ x →
    Bytes.byteAt b x = Bytes.byteAt (l.payloads base fs) x

theorem Reach.of_nextCluster (h : l.Reach size (l.nextCluster (fs ++ [f]))) :
    l.Reach size (l.nextCluster fs + l.clustersOf f) := by
  rwa [nextCluster_append] at h

section Append

variable (hs : 0 < l.sectorSize) (h : l.Reach b.size (l.nextCluster (fs ++ [f])))
include hs h

/-- One more file adds its links in every mirror, whatever slot it gets. -/
theorem TableOn.append (ht : l.TableOn b fs) (hslot : slot < l.slotCount) :
    l.TableOn (l.withFile b slot (l.nextCluster fs) f) (fs ++ [f]) := by
  intro i hi j hj
  have hreach := h.of_nextCluster
  rw [hreach.byteAt_withFile_mirror hs (two_le_nextCluster l fs) hslot hi hj,
    byteAt_table_append, ht i hi j hj]

theorem DirectoryOn.append (hd : l.DirectoryOn b fs) (hslot : fs.length < l.slotCount) :
    l.DirectoryOn (l.withFile b fs.length (l.nextCluster fs) f) (fs ++ [f]) := by
  intro j hj
  have hreach := h.of_nextCluster
  rw [hreach.byteAt_withFile_root hs (two_le_nextCluster l fs) hslot hj,
    byteAt_directory_append, hd j hj]

/-- What placing one file preserves. -/
theorem Holds.append (hb : l.Holds base b fs) (hslot : fs.length < l.slotCount) :
    l.Holds base (l.withFile b fs.length (l.nextCluster fs) f) (fs ++ [f]) where
  size := by
    rw [(h.of_nextCluster).size_withFile hs (two_le_nextCluster l fs) hslot, hb.size]
  reserved x hx := by
    rw [(h.of_nextCluster).byteAt_withFile_reserved hs (two_le_nextCluster l fs) hslot
      hx, hb.reserved x hx]
  table := hb.table.append hs h hslot
  directory := hb.directory.append hs h hslot
  payload x hx := by
    have hstored : l.Stored base.size (fs ++ [f]) := hb.size ▸ h.stored
    rw [(h.of_nextCluster).byteAt_withFile_data hs (two_le_nextCluster l fs) hslot hx,
      byteAt_payloads_append hs hstored, hb.payload x hx]

end Append

/-- All bytes of the disk are settled by the files and by what was there before. -/
theorem Holds.unique (h : l.Holds base b fs) (h' : l.Holds base b' fs) : b = b' := by
  refine Bytes.ext_byteAt (by rw [h.size, h'.size]) fun x _ => ?_
  rcases Nat.lt_or_ge x l.tableOffset with hx | htable
  · rw [h.reserved x hx, h'.reserved x hx]
  · rcases Nat.lt_or_ge x l.rootStart with hx | hroot
    · obtain ⟨i, hi, j, hj, rfl⟩ := exists_mirror htable hx
      rw [h.table i hi j hj, h'.table i hi j hj]
    · rcases Nat.lt_or_ge x l.dataStart with hx | hdata
      · have hend : l.dataStart = l.rootStart + l.rootBytes := rfl
        have hj : x - l.rootStart < l.rootBytes := by omega
        have h₁ := h.directory _ hj
        have h₂ := h'.directory _ hj
        rw [Nat.add_sub_cancel' hroot] at h₁ h₂
        rw [h₁, h₂]
      · rw [h.payload x hdata, h'.payload x hdata]

/-- There is room for the files: clusters, links and slots. -/
structure Room (l : Layout) (size : Nat) (fs : List File) : Prop where
  reach : l.Reach size (l.nextCluster fs)
  slots : fs.length ≤ l.slotCount

theorem holds_picture (hs : 0 < l.sectorSize) (h : l.Room base.size fs) :
    l.Holds base (l.picture base fs) fs := by
  have htable := size_table h.reach.linked
  have hdir := size_directory h.slots
  have hpay := size_payloads hs h.reach.stored
  have hroot := rootStart_le_data l
  have hdata := h.reach.dataStart_le
  have hend : l.dataStart = l.rootStart + l.rootBytes := rfl
  have hfits : l.rootStart + (l.directory fs).size ≤ (l.payloads base fs).size := by
    omega
  have hsize := Bytes.size_overwrite hfits
  have hmirrors : 0 + (l.table fs).size ≤ l.mirrorBytes := by omega
  have hsmall : l.rootStart ≤
      (Bytes.overwrite (l.payloads base fs) l.rootStart (l.directory fs)).size := by
    omega
  refine ⟨?_, ?_, ?_, ?_, ?_⟩
  · rw [picture, size_onMirrors hmirrors (Nat.le_refl _) hsmall, hsize, hpay]
  · intro x hx
    have := tableOffset_le_root l
    rw [picture, byteAt_onMirrors_of_outside hmirrors (Nat.le_refl _) hsmall (by omega),
      Bytes.byteAt_overwrite_of_outside hfits (by omega),
      byteAt_payloads_of_lt hs h.reach.stored (by omega)]
  · intro i hi j hj
    rw [picture, byteAt_onMirrors hmirrors (Nat.le_refl _) hsmall hi hj,
      if_pos (by omega), Nat.sub_zero]
  · intro j hj
    rw [picture, byteAt_onMirrors_of_outside hmirrors (Nat.le_refl _) hsmall (by omega),
      Bytes.byteAt_overwrite_of_inside hfits (by omega)]
  · intro x hx
    rw [picture, byteAt_onMirrors_of_outside hmirrors (Nat.le_refl _) hsmall (by omega),
      Bytes.byteAt_overwrite_of_outside hfits (by omega)]

theorem Holds.eq_picture (hs : 0 < l.sectorSize) (h : l.Holds base b fs)
    (hroom : l.Room base.size fs) : b = l.picture base fs :=
  h.unique (holds_picture hs hroom)

/-! ## Spare bytes -/

/-- A byte that no file uses as long as `c` is the next cluster: part of a
link from `c` on, in some mirror, or of the data region from `c` on. -/
def Spare (l : Layout) (c x : Nat) : Prop :=
  (∃ i < l.mirrors, l.mirrorStart i + 2 * c ≤ x ∧
    x < l.mirrorStart i + l.mirrorBytes) ∨ l.payloadOffset c ≤ x

/-- `b'` differs from `b` in spare bytes alone. -/
structure SpareOnly (l : Layout) (c : Nat) (b b' : ByteArray) : Prop where
  size : b'.size = b.size
  same : ∀ x, ¬ l.Spare c x → Bytes.byteAt b' x = Bytes.byteAt b x

theorem SpareOnly.refl (l : Layout) (c : Nat) (b : ByteArray) : l.SpareOnly c b b :=
  ⟨rfl, fun _ _ => rfl⟩

theorem SpareOnly.trans {b'' : ByteArray} (h : l.SpareOnly c b b')
    (h' : l.SpareOnly c b' b'') : l.SpareOnly c b b'' where
  size := by rw [h'.size, h.size]
  same x hx := by rw [h'.same x hx, h.same x hx]

theorem spareOnly_overwrite (hb : o + d.size ≤ b.size)
    (hspare : ∀ x, o ≤ x → x < o + d.size → l.Spare c x) :
    l.SpareOnly c b (Bytes.overwrite b o d) where
  size := Bytes.size_overwrite hb
  same x hx := by
    refine Bytes.byteAt_overwrite_of_outside hb ?_
    rcases Nat.lt_or_ge x o with h | h
    · exact Or.inl h
    · rcases Nat.lt_or_ge x (o + d.size) with h' | h'
      · exact absurd (hspare x h h') hx
      · exact Or.inr h'

theorem spareOnly_torn {sectorSize : Nat} (h : Bytes.Torn sectorSize b o d b')
    (hb : o + d.size ≤ b.size)
    (hspare : ∀ x, o ≤ x → x < o + d.size → l.Spare c x) : l.SpareOnly c b b' := by
  obtain ⟨k, hk, -, rfl⟩ := h
  have hsize := Bytes.size_extract_zero (d := d) (k := k) (by omega)
  exact spareOnly_overwrite (by omega) fun x hx hx' => hspare x hx (by omega)

theorem spare_link {i : Nat} (hi : i < l.mirrors) (hd : 2 * c + d.size ≤ l.mirrorBytes)
    {x : Nat} (hx : l.mirrorStart i + 2 * c ≤ x)
    (hx' : x < l.mirrorStart i + 2 * c + d.size) : l.Spare c x :=
  Or.inl ⟨i, hi, hx, by omega⟩

theorem spareOnly_onMirrors (hd : 2 * c + d.size ≤ l.mirrorBytes) (hk : k ≤ l.mirrors)
    (hb : l.rootStart ≤ b.size) : l.SpareOnly c b (l.onMirrors b (2 * c) d k) := by
  induction k with
  | zero => exact SpareOnly.refl l c b
  | succ k ih =>
      have hsize := size_onMirrors (k := k) hd (by omega) hb
      have hend := mirror_end_le_root (l := l) (i := k) (by omega)
      rw [onMirrors_succ]
      refine (ih (by omega)).trans (spareOnly_overwrite (by omega) ?_)
      intro x hx hx'
      exact spare_link (show k < l.mirrors by omega) hd hx hx'

section Spare

variable (hs : 0 < l.sectorSize) (hc : 2 ≤ c) (h : l.Reach b.size (c + l.clustersOf f))
include hs hc h

theorem Reach.spareOnly_payload :
    l.SpareOnly c b (Bytes.overwrite b (l.payloadOffset c) f.data) :=
  spareOnly_overwrite (h.payload_le hs hc) fun _ hx _ => Or.inr hx

/-- Until its record is written, a file is in spare bytes alone. -/
theorem Reach.spareOnly_withChain : l.SpareOnly c b (l.withChain b c f) := by
  have hsize := h.size_payload hs hc
  have hroot := rootStart_le_data l
  have hdata := h.dataStart_le
  exact (h.spareOnly_payload hs hc).trans
    (spareOnly_onMirrors h.links_end_le (Nat.le_refl _) (by omega))

end Spare

/-! ## What a reader finds -/

/-- A reader of `b` finds the files: their links in every mirror, the root
directory, and their bytes. -/
structure Legible (l : Layout) (b : ByteArray) (fs : List File) : Prop where
  link : ∀ i < l.mirrors, ∀ j < 2 * l.nextCluster fs,
    Bytes.byteAt b (l.mirrorStart i + j) = Bytes.byteAt (l.table fs) j
  directory : l.DirectoryOn b fs
  payload : ∀ p ∈ l.located fs, ∀ j < p.2.data.size,
    Bytes.byteAt b (l.payloadOffset p.1 + j) = Bytes.byteAt p.2.data j

theorem Holds.legible (hs : 0 < l.sectorSize) (h : l.Holds base b fs)
    (hroom : l.Room base.size fs) : l.Legible b fs where
  link i hi j hj := h.table i hi j (Nat.lt_of_lt_of_le hj hroom.reach.linked)
  directory := h.directory
  payload p hp j hj := by
    have hstart := dataStart_le_payload l p.1
    rw [h.payload _ (by omega), byteAt_payloads hs hroom.reach.stored hp hj]

theorem located_payload_le (hs : 0 < l.sectorSize) {p : Nat × File}
    (hp : p ∈ l.located fs) :
    l.payloadOffset p.1 + p.2.data.size ≤ l.payloadOffset (l.nextCluster fs) := by
  have hend := located_end_le hp
  exact Nat.le_trans (payload_end_le hs hend.1) (payloadOffset_mono hend.2)

/-- A reader does not see spare bytes. -/
theorem Legible.spare (hs : 0 < l.sectorSize) (h : l.Legible b fs)
    (hlinked : 2 * l.nextCluster fs ≤ l.mirrorBytes)
    (hb : l.SpareOnly (l.nextCluster fs) b b') : l.Legible b' fs where
  link i hi j hj := by
    rw [← h.link i hi j hj]
    refine hb.same _ ?_
    intro hx
    have hroot := mirror_end_le_root hi
    have hdata := rootStart_le_data l
    have hpay := dataStart_le_payload l (l.nextCluster fs)
    rcases hx with ⟨i', hi', hx, hx'⟩ | hx
    · rcases Nat.lt_trichotomy i i' with hlt | heq | hlt
      · have := mirror_end_le (l := l) hlt
        omega
      · subst heq
        omega
      · have := mirror_end_le (l := l) hlt
        omega
    · omega
  directory j hj := by
    rw [← h.directory j hj]
    refine hb.same _ ?_
    intro hx
    have hend : l.dataStart = l.rootStart + l.rootBytes := rfl
    have hpay := dataStart_le_payload l (l.nextCluster fs)
    rcases hx with ⟨i, hi, -, hx⟩ | hx
    · have := mirror_end_le_root hi
      omega
    · omega
  payload p hp j hj := by
    rw [← h.payload p hp j hj]
    refine hb.same _ ?_
    intro hx
    have hlast := located_payload_le hs hp
    have hdata := rootStart_le_data l
    have hpay := dataStart_le_payload l p.1
    rcases hx with ⟨i, hi, -, hx⟩ | hx
    · have := mirror_end_le_root hi
      omega
    · omega

theorem Legible.linkAt_eq (h : l.Legible b fs) {i : Nat} (hi : i < l.mirrors)
    {p : Nat × File} (hp : p ∈ l.located fs) {k : Nat} (hk : k < l.clustersOf p.2) :
    l.linkAt b i (p.1 + k) =
      if k + 1 = l.clustersOf p.2 then endOfChain else (p.1 + k + 1).toUInt16 := by
  have hend := (located_end_le hp).2
  rw [← word16At_table hp hk, linkAt, Bytes.word16At, Bytes.word16At, h.link i hi _ (by omega),
    Nat.add_assoc, h.link i hi _ (by omega)]

theorem Legible.slice_payload (h : l.Legible b fs) {p : Nat × File}
    (hp : p ∈ l.located fs) (hb : l.payloadOffset p.1 + p.2.data.size ≤ b.size) :
    Bytes.slice b (l.payloadOffset p.1) p.2.data.size = p.2.data :=
  Bytes.slice_eq hb (h.payload p hp)

theorem Legible.slice_record (h : l.Legible b fs) {i : Nat} {p : PlacedFile}
    (hp : (l.placements fs)[i]? = some p) (hi : i < l.slotCount)
    (hb : l.dataStart ≤ b.size) :
    Bytes.slice b (l.slotStart i) 32 = p.record.encode := by
  have hslot := slot_end_le hi
  have hend := slotStart_end_le hi
  rw [recordSize] at hslot hend
  have hsize := Record.size_encode p.record
  rw [← hsize]
  refine Bytes.slice_eq (by omega) fun j hj => ?_
  rw [slotStart, Nat.add_assoc, h.directory _ (by rw [recordSize]; omega), recordSize,
    Nat.mul_comm, byteAt_directory hp (by omega)]

theorem Legible.byteAt_slot (h : l.Legible b fs) {i : Nat} (hi : i < l.slotCount)
    (hlen : fs.length ≤ i) : Bytes.byteAt b (l.slotStart i) = 0 := by
  have hslot := slot_end_le hi
  rw [recordSize] at hslot
  rw [slotStart, h.directory _ (by rw [recordSize]; omega), recordSize]
  exact byteAt_directory_of_le (by omega)

end FatImage.Layout
