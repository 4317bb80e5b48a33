import FatImage.Proofs.Search

/-!
# What a reset leaves behind

A reset writes two regions that adjoin each other. It clears the root
directory, and then it clears each mirror of the table and stamps the header
on its first four bytes. `Blank` says what the disk should be after that: no
byte of the directory is set, each mirror has the header and zeros behind it,
and nothing is changed in front of the table or behind the directory.

Clearing takes the length of a mirror from the layout, but the header has
always the same length. A mirror of one sector has room for it. A mirror of
no sectors has none, and then the header is stamped on what comes next: on the
directory that has just been cleared, on the first bytes of the files if
there is no directory, and if there is nothing at all behind the table the
reset fails. So a volume is reset as it should be just if there is no mirror
to stamp, or if mirrors have sectors.
-/

namespace FatImage

variable {σ τ : Type} {look : σ → ByteArray × τ} {faulty : Prop} {v : View τ} {w : World σ}
variable {vol : Volume σ} {l : Layout} {b : ByteArray}

/-- On `b` there is an empty directory and an empty table, and everything else is as it
was on `base`. -/
structure Layout.Blank (l : Layout) (base b : ByteArray) : Prop where
  size : b.size = base.size
  directory : ∀ j < l.rootBytes, Bytes.byteAt b (l.rootStart + j) = 0
  mirror : ∀ i < l.mirrors, ∀ j < l.mirrorBytes, Bytes.byteAt b (l.mirrorStart i + j) =
    [0xF8, 0xFF, 0xFF, 0xFF][j]?.getD 0
  apart : ∀ x, x < l.tableOffset ∨ l.dataStart ≤ x →
    Bytes.byteAt b x = Bytes.byteAt base x

namespace Layout

theorem byteAt_table_nil (j : Nat) :
    Bytes.byteAt (l.table []) j = [0xF8, 0xFF, 0xFF, 0xFF][j]?.getD 0 := by
  rw [table, Bytes.byteAt_padded]
  rfl

/-- Zeros in the directory and the table of no files in every mirror make a disk blank. -/
theorem blank_onMirrors (hroom : 0 < l.mirrors → 4 ≤ l.mirrorBytes)
    (hb : l.dataStart ≤ b.size) :
    l.Blank b (l.onMirrors (Bytes.overwrite b l.rootStart (Bytes.zeros l.rootBytes)) 0
      (l.table []) l.mirrors) := by
  have hend : l.dataStart = l.rootStart + l.rootBytes := rfl
  have htable := tableOffset_le_root l
  have hfits : l.rootStart + (Bytes.zeros l.rootBytes).size ≤ b.size := by
    rw [Bytes.size_zeros]
    omega
  have hsize := Bytes.size_overwrite hfits
  generalize hcleared : Bytes.overwrite b l.rootStart (Bytes.zeros l.rootBytes) = cleared
    at hsize ⊢
  have hdir : ∀ j < l.rootBytes, Bytes.byteAt cleared (l.rootStart + j) = 0 := by
    intro j hj
    rw [← hcleared, Bytes.byteAt_overwrite_of_inside hfits (by rwa [Bytes.size_zeros]),
      Bytes.byteAt_zeros]
  have hapart : ∀ x, x < l.tableOffset ∨ l.dataStart ≤ x →
      Bytes.byteAt cleared x = Bytes.byteAt b x := by
    intro x hx
    rw [← hcleared, Bytes.byteAt_overwrite_of_outside hfits]
    rw [Bytes.size_zeros]
    omega
  rcases Nat.eq_zero_or_pos l.mirrors with hnone | hsome
  · rw [hnone]
    exact ⟨hsize, hdir, fun i hi => absurd hi (by omega), hapart⟩
  · have hsize' : (l.table []).size = l.mirrorBytes := size_table (hroom hsome)
    have htop : 0 + (l.table []).size ≤ l.mirrorBytes := by omega
    have hroot : l.rootStart ≤ cleared.size := by omega
    have hkeep : ∀ x, x < l.tableOffset ∨ l.rootStart ≤ x → Bytes.byteAt
        (l.onMirrors cleared 0 (l.table []) l.mirrors) x = Bytes.byteAt cleared x := fun _ hx =>
      byteAt_onMirrors_of_outside htop (Nat.le_refl _) hroot hx
    refine ⟨?_, ?_, ?_, ?_⟩
    · rw [size_onMirrors htop (Nat.le_refl _) hroot, hsize]
    · intro j hj
      rw [hkeep _ (Or.inr (Nat.le_add_right _ _)), hdir j hj]
    · intro i hi j hj
      rw [byteAt_onMirrors htop (Nat.le_refl _) hroot hi hj, if_pos (by omega), Nat.sub_zero,
        byteAt_table_nil]
    · intro x hx
      rw [hkeep x (by omega), hapart x hx]

end Layout

namespace Volume

/-- A reset succeeds and leaves a blank disk: nothing is listed, and a new record gets
the slot 0 if there is a slot at all. -/
def ResetsClean (vol : Volume ByteArray) (w : World ByteArray) : Prop :=
  ∃ w', vol.reset w = .ok () w' ∧ vol.layout.Blank w.state w'.state ∧
    (∃ w'', vol.records w' = .ok [] w'') ∧
    (0 < vol.layout.slotCount → vol.Finds w' 0)

/-! ## Mirrors with room for the header -/

section

variable (h : vol.Stands look False) (hv : vol.image.length ≤ (look w.state).1.size)
  (hempty : ∀ j < vol.layout.rootBytes,
    Bytes.byteAt (look w.state).1 (vol.layout.rootStart + j) = 0)
include h hv hempty

theorem Stands.records_of_empty : ∃ w', vol.records w = .ok [] w' := by
  have hbelow : vol.layout.UsedBelow (look w.state).1 0 := by
    refine ⟨Nat.zero_le _, fun t ht => absurd ht (Nat.not_lt_zero t), fun hslot => ?_⟩
    have hend := Layout.slot_end_le hslot
    rw [Layout.recordSize] at hend
    exact hempty _ (by omega)
  obtain ⟨rs, w', hok, hlength⟩ := h.exists_records hv hbelow
  rw [List.eq_nil_of_length_eq_zero hlength] at hok
  exact ⟨w', hok⟩

theorem Stands.finds_zero_of_empty (hslot : 0 < vol.layout.slotCount) : vol.Finds w 0 := by
  have hleast := h.least
  rw [leastSectorSize] at hleast
  have hend := Layout.slot_end_le hslot
  rw [Layout.recordSize] at hend
  have hsectors : 0 < vol.layout.rootSectors := by
    refine Nat.pos_of_ne_zero fun hnone => ?_
    rw [Layout.rootBytes, hnone, Nat.zero_mul] at hend
    omega
  have hper : 0 < vol.layout.sectorSize / Layout.recordSize :=
    Nat.div_pos (by rw [Layout.recordSize]; omega) (by decide)
  have hoffset := Layout.searchOffset_add (l := vol.layout) hper 0
  rw [Nat.zero_mul, Nat.zero_mul, Nat.zero_mul, Nat.add_zero, Nat.add_zero] at hoffset
  rw [h.finds_iff hv, hoffset]
  exact ⟨Nat.mul_pos hsectors hper, hempty 0 (by omega), fun t ht => absurd ht (Nat.not_lt_zero t)⟩

end

/-- Unless the device fails, what a reset leaves is blank. -/
theorem Stands.reset_blank (h : vol.Stands look faulty) (hv : vol.image.length ≤ v.disk.size)
    (hroom : 0 < vol.layout.mirrors → 4 ≤ vol.layout.mirrorBytes) :
    vol.reset.Ends (World.view look) v (fun _ v' => vol.layout.Blank v.disk v'.disk)
      (fun e _ => e = .deviceFailed ∧ faulty) := by
  refine (h.reset_regions hv hroom).mono ?_ (fun _ _ he => he)
  rintro _ _ rfl
  exact Layout.blank_onMirrors hroom (Nat.le_trans h.data hv)

theorem Stands.resetsClean {vol : Volume ByteArray} {w : World ByteArray}
    (h : vol.Stands (fun disk => (disk, ())) False) (hv : vol.image.length ≤ w.state.size)
    (hroom : vol.layout.mirrors = 0 ∨ 0 < vol.layout.mirrorSectors) :
    vol.ResetsClean w := by
  have hreset := (h.reset_blank (v := World.view (fun disk => (disk, ())) w) hv
    (fun hsome => h.four_le_mirrorBytes (hroom.resolve_left (Nat.ne_of_gt hsome)))).mono
    (fun _ _ hv' => hv') (fun _ _ he => he.2)
  obtain ⟨_, w', hok, hblank⟩ := hreset.exists_ok rfl
  have hv' : vol.image.length ≤ w'.state.size := Nat.le_trans hv (Nat.le_of_eq hblank.size.symm)
  exact ⟨w', hok, hblank, h.records_of_empty hv' hblank.directory,
    h.finds_zero_of_empty hv' hblank.directory⟩

/-! ## Mirrors without -/

section

variable (h : vol.Stands look faulty) (hnone : vol.layout.mirrorSectors = 0)
include h hnone

/-- The header of a mirror of no sectors is stamped behind the table. -/
theorem Stands.resetMirror_spills (hv : vol.image.length ≤ v.disk.size) (i : Nat) :
    (vol.resetMirror i).Ends (World.view look) v
      (fun _ v' => vol.image.length ≤ v'.disk.size ∧
        Bytes.byteAt v'.disk vol.layout.rootStart = 0xF8)
      (fun _ _ => faulty ∨ vol.image.length < vol.layout.rootStart + 4) := by
  have hoffset : vol.layout.mirrorStart i = vol.layout.rootStart :=
    (Layout.mirrorStart_of_mirrorSectors_eq_zero hnone i).trans
      (Layout.mirrorStart_of_mirrorSectors_eq_zero hnone vol.layout.mirrors).symm
  have hbytes : vol.layout.mirrorBytes = 0 := by
    rw [Layout.mirrorBytes, hnone, Nat.zero_mul]
  have hheader : mediaHeader.size = 4 := Layout.length_mediaHeader
  have hdata := h.data
  have hroot := Layout.rootStart_le_data vol.layout
  rw [Volume.resetMirror, Layout.mirrorOffset_eq_cut64, hoffset, h.bounded.cut64_eq hroot, hbytes]
  refine (h.backed.zeroRange hv (by omega)).bind ?_ (fun _ _ he => Or.inl he.1.2)
  intro _ v₁ hv₁
  rw [Bytes.overwrite_of_size_eq_zero (Bytes.size_zeros 0)] at hv₁
  subst hv₁
  rw [Image.writeAt_eq]
  refine Action.ends_ofExcept_bind ?_ ?_
  · intro _ hcheck
    have hfits := Image.le_length_of_checkRange h.backed.counted hcheck
    have hfits' : vol.layout.rootStart + mediaHeader.size ≤ v.disk.size := by omega
    refine Action.Ends.mono (h.backed.writeFrom hv hfits) ?_ (fun _ _ he => Or.inl he.1.2)
    rintro _ _ rfl
    have hbyte := Bytes.byteAt_overwrite_of_inside hfits' (show 0 < mediaHeader.size by omega)
    exact ⟨by rw [Bytes.size_overwrite hfits']; exact hv, hbyte⟩
  · intro e hcheck
    have hshort := (Image.checkRange_eq_error_iff.1 hcheck).1
    right
    omega

/-- What a reset leaves where the root directory or the files start. -/
theorem Stands.reset_spills (hsome : 0 < vol.layout.mirrors)
    (hv : vol.image.length ≤ v.disk.size) :
    vol.reset.Ends (World.view look) v
      (fun _ v' => Bytes.byteAt v'.disk vol.layout.rootStart = 0xF8)
      (fun _ _ => faulty ∨ vol.image.length < vol.layout.rootStart + 4) := by
  have hend : vol.layout.dataStart = vol.layout.rootStart + vol.layout.rootBytes := rfl
  have hdata := h.data
  refine (h.clearDirectory hv).bind ?_ (fun _ _ he => Or.inl he.2)
  intro _ v₁ hv₁
  have hv₁' : vol.image.length ≤ v₁.disk.size := by
    rw [hv₁, Bytes.size_overwrite (by rw [Bytes.size_zeros]; omega)]
    exact hv
  -- from the first round on there is a header
  have hloop : (Action.forEach vol.resetMirror vol.layout.mirrors 0).Ends (World.view look) v₁
      (fun _ v' => vol.image.length ≤ v'.disk.size ∧ (0 < 0 + vol.layout.mirrors →
        Bytes.byteAt v'.disk vol.layout.rootStart = 0xF8))
      (fun _ _ => faulty ∨ vol.image.length < vol.layout.rootStart + 4) := by
    refine Action.ends_forEach (fun i (v' : View τ) => vol.image.length ≤ v'.disk.size ∧
      (0 < i → Bytes.byteAt v'.disk vol.layout.rootStart = 0xF8)) ?_
      ⟨hv₁', fun h0 => absurd h0 (Nat.lt_irrefl 0)⟩
    intro i v' _ _ hv'
    exact (h.resetMirror_spills hnone hv'.1 i).mono (fun _ _ hs => ⟨hs.1, fun _ => hs.2⟩)
      (fun _ _ he => he)
  refine hloop.bind ?_ (fun _ _ he => he)
  intro _ v₂ hv₂
  refine (ends_quiet rfl).mono ?_ (fun _ _ => False.elim)
  rintro _ _ rfl
  exact hv₂.2 (by omega)

end

/-- So no blank disk comes of it. -/
theorem Stands.not_resetsClean {vol : Volume ByteArray} {w : World ByteArray}
    (h : vol.Stands (fun disk => (disk, ())) False) (hv : vol.image.length ≤ w.state.size)
    (hnone : vol.layout.mirrorSectors = 0) (hsome : 0 < vol.layout.mirrors)
    (hzero : Bytes.byteAt w.state vol.layout.rootStart = 0) : ¬ vol.ResetsClean w := by
  rintro ⟨w', hok, hblank, -⟩
  have hspilt : Bytes.byteAt w'.state vol.layout.rootStart = 0xF8 :=
    (h.reset_spills (v := World.view (fun disk => (disk, ())) w) hnone hsome hv).of_ok rfl hok
  have hend : vol.layout.dataStart = vol.layout.rootStart + vol.layout.rootBytes := rfl
  have hclean : Bytes.byteAt w'.state vol.layout.rootStart = 0 := by
    rcases Nat.eq_zero_or_pos vol.layout.rootBytes with hrootless | hroot
    · rw [hblank.apart _ (by omega), hzero]
    · exact hblank.directory 0 hroot
  rw [hspilt] at hclean
  exact absurd hclean (by decide)

end Volume

/-- If mirrors have no sectors, a disk of zeros is one that is not reset as it should be;
either there is a header behind the table then, or the reset has failed. -/
theorem Volume.exists_mount_spills {size : Nat} (haccepted : l.Accepted l.sectorSize size)
    (hcounted : size < Image.greatest) (hnone : l.mirrorSectors = 0) (hsome : 0 < l.mirrors) :
    ∃ vol w, (Volume.mount (Device.memory l.sectorSize) l).start (Bytes.zeros size) =
        (.ok vol, w) ∧
      ¬ vol.ResetsClean w ∧
      (l.rootStart + 4 ≤ size / l.sectorSize * l.sectorSize → ∃ w', vol.reset w = .ok () w' ∧
        Bytes.byteAt w'.state l.rootStart = 0xF8) := by
  have hkeeps := Device.keeps_memory l.sectorSize
  have hsize := Bytes.size_zeros size
  have hzero := Bytes.byteAt_zeros size
  generalize Bytes.zeros size = disk at hsize hzero ⊢
  subst hsize
  obtain ⟨vol, w, hmount⟩ := Volume.exists_mount hkeeps (s := disk) hcounted haccepted
  have hlength := Volume.length_of_mount hkeeps hcounted hmount
  obtain ⟨hw, rfl, hstands, hle, -⟩ := Volume.of_mount hkeeps hcounted hmount
      (haccepted.bounded hcounted)
  have hdisk : w.state = disk := congrArg View.disk hw
  have hv : vol.image.length ≤ w.state.size := by
    rw [hdisk]
    exact hle
  refine ⟨vol, w, hmount, hstands.not_resetsClean hv hnone hsome (by rw [hdisk, hzero]), ?_⟩
  intro hroom
  rw [← hlength] at hroom
  have hspills := (hstands.reset_spills (v := World.view (fun disk => (disk, ())) w) hnone
    hsome hv).mono (fun _ _ hs => hs)
    (fun _ _ he => he.elim id fun hshort => absurd hroom (Nat.not_le.2 hshort))
  obtain ⟨_, w', hok, hspilt⟩ := hspills.exists_ok rfl
  exact ⟨w', hok, hspilt⟩

/-- A layout can be reset, whatever is on the disk, just if it has no mirror or if its
mirrors have sectors. -/
theorem reset_clean_iff {size : Nat} (haccepted : l.Accepted l.sectorSize size)
    (hcounted : size < Image.greatest) :
    (∀ disk : ByteArray, disk.size = size → ∀ vol w,
        (Volume.mount (Device.memory l.sectorSize) l).start disk = (.ok vol, w) →
        vol.ResetsClean w) ↔
      l.mirrors = 0 ∨ 0 < l.mirrorSectors := by
  have hkeeps := Device.keeps_memory l.sectorSize
  constructor
  · intro hall
    refine Decidable.byContradiction fun hno => ?_
    rw [not_or, Nat.not_lt, Nat.le_zero] at hno
    obtain ⟨vol, w, hmount, hnot, -⟩ :=
      Volume.exists_mount_spills haccepted hcounted hno.2 (Nat.pos_of_ne_zero hno.1)
    exact hnot (hall _ (Bytes.size_zeros size) vol w hmount)
  · rintro hroom disk rfl vol w hmount
    obtain ⟨hw, rfl, hstands, hlength, -⟩ := Volume.of_mount hkeeps hcounted hmount
      (haccepted.bounded hcounted)
    have hdisk : w.state = disk := congrArg View.disk hw
    exact hstands.resetsClean (by rw [hdisk]; exact hlength) hroom

theorem reset_clean_bootDisk :
    Layout.bootDisk.Accepted Layout.bootDisk.sectorSize 2375680 ∧ 2375680 < Image.greatest ∧
    ∀ disk : ByteArray, disk.size = 2375680 → ∀ vol w,
      (Volume.mount (Device.memory Layout.bootDisk.sectorSize) Layout.bootDisk).start disk =
        (.ok vol, w) →
      vol.ResetsClean w := by
  have haccepted : Layout.bootDisk.Accepted Layout.bootDisk.sectorSize 2375680 :=
    Volume.accepted_bootDisk (Nat.le_refl _)
  exact ⟨haccepted, by decide,
    (reset_clean_iff haccepted (by decide)).2 (Or.inr (by decide))⟩

/-- One mirror, but of no sectors, and a directory of one sector. -/
def Layout.withoutTable : Layout where
  sectorSize := 512
  reservedSectors := 1
  mirrors := 1
  mirrorSectors := 0
  rootEntries := 16

/-- The first record of the directory starts with the header. -/
theorem not_reset_clean_withoutTable :
    ∃ vol w, (Volume.mount (Device.memory 512) Layout.withoutTable).start
        (Bytes.zeros 1536) = (.ok vol, w) ∧
      ¬ vol.ResetsClean w ∧
      ∃ w', vol.reset w = .ok () w' ∧ Bytes.byteAt w'.state 512 = 0xF8 := by
  have haccepted : Layout.withoutTable.Accepted 512 1536 := ⟨by decide, rfl, by decide⟩
  obtain ⟨vol, w, hmount, hnot, hspills⟩ :=
    Volume.exists_mount_spills haccepted (by decide) rfl (by decide)
  exact ⟨vol, w, hmount, hnot, hspills (by decide)⟩

end FatImage
