import FatImage.Proofs.Slots

/-!
# Where the search for a free slot looks

A record is read and written at its slot: the slots are one row of thirty-two
bytes each. The search for a free one does not go along that row. It takes one
sector after the other and in each of them the whole records from its start,
so behind a sector that ends in the middle of a record it looks at another
place than the slot whose number it counts.

If sectors hold whole records, or if the directory has but one sector, the two
agree on every disk: `SearchAgrees` says so by what the search and the slots
answer, and in what follows for a record that is written to the slot found. If
neither is so there is a disk on which they do not, and `gapDisk` is one: the
only byte of it that is zero starts the second sector of the directory, where
the search takes it for a slot that a record still stands in. So the condition
is not only enough, it says just when the search can be relied on.
-/

namespace FatImage

variable {σ τ : Type} {look : σ → ByteArray × τ} {v : View τ} {w : World σ}
variable {vol : Volume σ} {l : Layout}

namespace Volume

/-! ## What the search and the slots answer -/

/-- The search answers the slot. -/
def Finds (vol : Volume σ) (w : World σ) (slot : Nat) : Prop :=
  ∃ w', vol.freeSlot w = .ok slot w'

/-- The search answers that the directory is full. -/
def FindsNone (vol : Volume σ) (w : World σ) : Prop :=
  ∃ w', vol.freeSlot w = .error .directoryFull w'

/-- The search agrees with the slots: it finds the first without a record, which is
the one behind the records that are listed, and a record that is written there
replaces none. -/
structure SearchAgrees (vol : Volume σ) (w : World σ) : Prop where
  finds_iff : ∀ slot, vol.Finds w slot ↔ slot < vol.layout.slotCount ∧
    vol.Shows w slot none ∧ ∀ t < slot, ∃ r, vol.Shows w t (some r)
  findsNone_iff : vol.FindsNone w ↔
    ∀ t < vol.layout.slotCount, ∃ r, vol.Shows w t (some r)
  behind : ∃ rs w', vol.records w = .ok rs w' ∧
    (rs.length < vol.layout.slotCount ∧ vol.Finds w rs.length ∨
      rs.length = vol.layout.slotCount ∧ vol.FindsNone w)
  keeps : ∀ slot, vol.Finds w slot → ∀ r : Record, r.name.Parsed →
    ∃ w', vol.writeRecord slot r w = .ok () w' ∧ vol.Shows w' slot (some r) ∧
      ∀ t < vol.layout.slotCount, ∀ r', vol.Shows w t (some r') → vol.Shows w' t (some r')

/-- If the two agree, there is no record in a slot that the search answers. -/
theorem SearchAgrees.not_shows (h : vol.SearchAgrees w) {slot : Nat}
    (hfinds : vol.Finds w slot) (r : Record) : ¬ vol.Shows w slot (some r) := by
  rintro ⟨w₁, hsome⟩
  obtain ⟨w₂, hnone⟩ := ((h.finds_iff slot).1 hfinds).2.1
  rw [hsome] at hnone
  cases hnone

section

variable (h : vol.Stands look False) (hv : vol.image.length ≤ (look w.state).1.size)
include h hv

theorem Stands.finds_iff {slot : Nat} : vol.Finds w slot ↔
    slot < vol.layout.searchedSlots ∧
      Bytes.byteAt (look w.state).1 (vol.layout.searchOffset slot) = 0 ∧
      PassesOver vol.layout (look w.state).1 slot := by
  have hsearch := h.freeSlot_search (v := World.view look w) hv
  constructor
  · rintro ⟨w', hok⟩
    exact (hsearch.of_ok rfl hok).2
  · rintro ⟨hslot, hzero, hover⟩
    cases hw : vol.freeSlot w with
    | ok slot' w' =>
        obtain ⟨-, hslot', hzero', hover'⟩ := hsearch.of_ok rfl hw
        -- both are the first to look free
        rcases Nat.lt_trichotomy slot slot' with hlt | rfl | hlt
        · exact absurd hzero (hover' slot hlt)
        · exact ⟨w', hw⟩
        · exact absurd hzero' (hover slot' hlt)
    | error e w' =>
        obtain ⟨-, ⟨-, hf⟩ | ⟨-, hover'⟩⟩ := hsearch.of_error rfl hw
        · exact hf.elim
        · exact absurd hzero (hover' slot hslot)

theorem Stands.findsNone_iff : vol.FindsNone w ↔
    PassesOver vol.layout (look w.state).1 vol.layout.searchedSlots := by
  have hsearch := h.freeSlot_search (v := World.view look w) hv
  constructor
  · rintro ⟨w', herror⟩
    obtain ⟨-, ⟨-, hf⟩ | ⟨-, hover⟩⟩ := hsearch.of_error rfl herror
    · exact hf.elim
    · exact hover
  · intro hover
    cases hw : vol.freeSlot w with
    | ok slot w' =>
        obtain ⟨-, hslot, hzero, -⟩ := hsearch.of_ok rfl hw
        exact absurd hzero (hover slot hslot)
    | error e w' =>
        obtain ⟨-, ⟨-, hf⟩ | ⟨rfl, -⟩⟩ := hsearch.of_error rfl hw
        · exact hf.elim
        · exact ⟨w', hw⟩

end

/-! ## Where the two agree -/

section

variable (h : vol.Stands look False) (hv : vol.image.length ≤ (look w.state).1.size)
include h hv

/-- The records that are listed are as many as there are slots in use from the first on. -/
theorem Stands.exists_records {n : Nat} (hn : vol.layout.UsedBelow (look w.state).1 n) :
    ∃ rs w', vol.records w = .ok rs w' ∧ rs.length = n := by
  obtain ⟨w', hok, -⟩ := (h.records_below (v := World.view look w) hv hn).exists_ok rfl
  exact ⟨_, w', hok, by rw [List.length_map, List.length_range]⟩

theorem Stands.noneFree_iff {n : Nat} (hn : n ≤ vol.layout.slotCount) :
    NoneFree vol.layout (look w.state).1 n ↔ ∀ t < n, ∃ r, vol.Shows w t (some r) :=
  forall_congr' fun _ => forall_congr' fun _ => (h.exists_shows_iff hv (by omega)).symm

/-- A record that is written to a slot is read there, and all others are still where
they were, unless it was one that it was written over. -/
theorem Stands.shows_after_write {slot : Nat} (hslot : slot < vol.layout.slotCount)
    {r : Record} (hr : r.name.Parsed) :
    ∃ w', vol.writeRecord slot r w = .ok () w' ∧ vol.Shows w' slot (some r) ∧
      ∀ t < vol.layout.slotCount, t ≠ slot →
        ∀ r', vol.Shows w t (some r') → vol.Shows w' t (some r') := by
  obtain ⟨w', hok, hrecorded⟩ := h.exists_writeRecord hv hslot r
  have hshown := h.shows_recorded hv hslot hrecorded
  rw [if_neg hr.first_ne_zero] at hshown
  exact ⟨w', hok, hshown, fun t ht hne r' hr' => (h.shows_of_recorded hv hrecorded ht hne).1 hr'⟩

theorem Stands.searchAgrees
    (hmatch : Layout.recordSize ∣ vol.layout.sectorSize ∨ vol.layout.rootSectors ≤ 1) :
    vol.SearchAgrees w := by
  have hcount := Layout.searchedSlots_eq_slotCount hmatch
  have hover : ∀ {n}, n ≤ vol.layout.slotCount →
      (PassesOver vol.layout (look w.state).1 n ↔
        NoneFree vol.layout (look w.state).1 n) := fun hn =>
    forall_congr' fun t => forall_congr' fun ht => by
      rw [Layout.searchOffset_eq_slotStart hmatch (by omega)]
  have hfinds : ∀ slot, vol.Finds w slot ↔ slot < vol.layout.slotCount ∧
      Bytes.byteAt (look w.state).1 (vol.layout.slotStart slot) = 0 ∧
      NoneFree vol.layout (look w.state).1 slot := by
    intro slot
    rw [h.finds_iff hv, hcount]
    refine and_congr_right fun hslot => ?_
    rw [hover (by omega), Layout.searchOffset_eq_slotStart hmatch (by omega)]
  have hfull : vol.FindsNone w ↔
      NoneFree vol.layout (look w.state).1 vol.layout.slotCount := by
    rw [h.findsNone_iff hv, hcount, hover (Nat.le_refl _)]
  refine ⟨fun slot => ?_, ?_, ?_, ?_⟩
  · rw [hfinds]
    refine and_congr_right fun hslot => ?_
    rw [h.shows_none_iff hv hslot, h.noneFree_iff hv (by omega)]
  · rw [hfull, h.noneFree_iff hv (Nat.le_refl _)]
  · -- the records are those below the slot found, or all if none is
    cases hw : vol.freeSlot w with
    | ok slot w₁ =>
        obtain ⟨hslot, hzero, hnone⟩ := (hfinds slot).1 ⟨w₁, hw⟩
        obtain ⟨rs, w', hok, hlength⟩ :=
          h.exists_records hv ⟨Nat.le_of_lt hslot, hnone, fun _ => hzero⟩
        exact ⟨rs, w', hok, Or.inl ⟨by omega, by rw [hlength]; exact ⟨w₁, hw⟩⟩⟩
    | error e w₁ =>
        obtain ⟨-, ⟨-, hf⟩ | ⟨rfl, -⟩⟩ :=
          (h.freeSlot_search (v := World.view look w) hv).of_error rfl hw
        · exact hf.elim
        · have hnone := hfull.1 ⟨w₁, hw⟩
          obtain ⟨rs, w', hok, hlength⟩ :=
            h.exists_records hv ⟨Nat.le_refl _, hnone, fun hlt => absurd hlt (Nat.lt_irrefl _)⟩
          exact ⟨rs, w', hok, Or.inr ⟨hlength, w₁, hw⟩⟩
  · intro slot hfound r hr
    obtain ⟨hslot, hzero, -⟩ := (hfinds slot).1 hfound
    obtain ⟨w', hok, hshows, hothers⟩ := h.shows_after_write hv hslot hr
    refine ⟨w', hok, hshows, fun t ht r' hr' => hothers t ht ?_ r' hr'⟩
    rintro rfl
    exact ((h.shows_some_iff hv ht).1 hr').1 hzero

end

end Volume

/-! ## Where they do not -/

/-- A disk on which every byte is in use but the first of the second sector of the
directory. -/
def Layout.gapDisk (l : Layout) (size : Nat) : ByteArray :=
  Bytes.overwrite ⟨Array.replicate size 0xFF⟩ (l.rootStart + l.sectorSize) (Bytes.zeros 1)

namespace Layout

variable {size : Nat}

theorem size_gapDisk (h : l.rootStart + l.sectorSize < size) :
    (l.gapDisk size).size = size := by
  have hfull : (⟨Array.replicate size 0xFF⟩ : ByteArray).size = size := Array.size_replicate
  rw [gapDisk, Bytes.size_overwrite, hfull]
  rw [hfull, Bytes.size_zeros]
  omega

theorem byteAt_gapDisk (h : l.rootStart + l.sectorSize < size) {x : Nat} (hx : x < size) :
    Bytes.byteAt (l.gapDisk size) x = 0 ↔ x = l.rootStart + l.sectorSize := by
  have hfull : (⟨Array.replicate size 0xFF⟩ : ByteArray).size = size := Array.size_replicate
  have hbyte : Bytes.byteAt ⟨Array.replicate size 0xFF⟩ x = 0xFF := by
    rw [Bytes.byteAt_of_lt (by omega)]
    exact Array.getElem_replicate _
  rw [gapDisk, Bytes.byteAt_overwrite (by rw [hfull, Bytes.size_zeros]; omega),
    Bytes.size_zeros, Bytes.byteAt_zeros, hbyte]
  split
  · next hin => exact ⟨fun _ => by omega, fun _ => rfl⟩
  · next hout => exact ⟨fun hff => absurd hff (by decide), fun hx => by omega⟩

end Layout

namespace Volume

/-- On a disk with a gap at the second sector, the search answers the slot that it
counts there. The slot stands before that sector, and has a record. -/
theorem Stands.finds_gap (h : vol.Stands look False) {size : Nat}
    (hdisk : (look w.state).1 = vol.layout.gapDisk size) (hsize : vol.image.length ≤ size)
    (h32 : ¬ Layout.recordSize ∣ vol.layout.sectorSize) (htwo : 2 ≤ vol.layout.rootSectors) :
    vol.Finds w vol.recordsPerSector ∧
      ∃ r, vol.Shows w vol.recordsPerSector (some r) := by
  have hleast := h.least
  have hdata := h.data
  rw [leastSectorSize] at hleast
  have hper : vol.recordsPerSector = vol.layout.sectorSize / Layout.recordSize := rfl
  have hsectors := Nat.mul_le_mul_right vol.layout.sectorSize htwo
  have hslots : 2 * vol.recordsPerSector ≤ vol.layout.searchedSlots :=
    Nat.mul_le_mul_right _ htwo
  have hcount := Layout.searchedSlots_le_slotCount vol.layout
  have hend : vol.layout.dataStart = vol.layout.rootStart +
    vol.layout.rootSectors * vol.layout.sectorSize := rfl
  have hpos : 0 < vol.recordsPerSector := Nat.div_pos (by rw [Layout.recordSize]; omega)
    (by decide)
  have hroom : vol.layout.rootStart + vol.layout.sectorSize < size := by omega
  have hv : vol.image.length ≤ (look w.state).1.size := by
    rw [hdisk, Layout.size_gapDisk hroom]
    exact hsize
  -- the records of the first sector leave a part of it
  have hpart : vol.recordsPerSector * 32 < vol.layout.sectorSize := by
    refine Nat.lt_of_le_of_ne (recordsPerSector_mul_le vol) fun heq => h32 ?_
    exact ⟨vol.recordsPerSector, by rw [Nat.mul_comm]; exact heq.symm⟩
  have hlooks : ∀ t ≤ vol.recordsPerSector, vol.layout.searchOffset t =
      if t = vol.recordsPerSector then vol.layout.rootStart + vol.layout.sectorSize
      else vol.layout.slotStart t := by
    intro t ht
    split
    · next heq =>
        have := Layout.searchOffset_add (l := vol.layout) (i := 0) hpos 1
        rwa [Nat.one_mul, Nat.add_zero, Nat.one_mul, Nat.zero_mul, Nat.add_zero, ← hper,
          ← heq] at this
    · next hne =>
        have := Layout.searchOffset_add (l := vol.layout) (i := t) (by omega) 0
        rwa [Nat.zero_mul, Nat.zero_add, Nat.zero_mul, Nat.add_zero] at this
  constructor
  · rw [h.finds_iff hv, hdisk]
    refine ⟨by omega, ?_, ?_⟩
    · rw [hlooks _ (Nat.le_refl _), if_pos rfl]
      exact (Layout.byteAt_gapDisk hroom hroom).2 rfl
    · intro t ht hzero
      rw [hlooks t (Nat.le_of_lt ht), if_neg (by omega), Layout.slotStart,
        Layout.recordSize, Layout.byteAt_gapDisk hroom (by omega)] at hzero
      omega
  · rw [h.exists_shows_iff hv (by omega), hdisk]
    intro hzero
    rw [Layout.slotStart, Layout.recordSize, Layout.byteAt_gapDisk hroom (by omega)] at hzero
    omega

end Volume

/-- Where records are cut by the end of a sector, the disk with a gap is one on which the
search answers a slot that has a record. -/
theorem Volume.exists_mount_gap {size : Nat} (haccepted : l.Accepted l.sectorSize size)
    (hcounted : size < Image.greatest) (h32 : ¬ Layout.recordSize ∣ l.sectorSize)
    (htwo : 2 ≤ l.rootSectors) :
    (l.gapDisk size).size = size ∧
    ∃ vol w, (Volume.mount (Device.memory l.sectorSize) l).start (l.gapDisk size) =
        (.ok vol, w) ∧
      vol.Finds w (l.sectorSize / Layout.recordSize) ∧
      ∃ r, vol.Shows w (l.sectorSize / Layout.recordSize) (some r) := by
  have hkeeps := Device.keeps_memory l.sectorSize
  have hdata := haccepted.data
  have hwhole := Nat.div_mul_le_self size l.sectorSize
  have hsectors := Nat.mul_le_mul_right l.sectorSize htwo
  have hend : l.dataStart = l.rootStart + l.rootSectors * l.sectorSize := rfl
  have hleast := haccepted.least
  rw [leastSectorSize] at hleast
  have hsize : (l.gapDisk size).size = size := Layout.size_gapDisk (by omega)
  refine ⟨hsize, ?_⟩
  generalize hdisk : l.gapDisk size = disk at hsize ⊢
  subst hsize
  obtain ⟨vol, w, hmount⟩ := Volume.exists_mount hkeeps (s := disk) hcounted haccepted
  obtain ⟨hw, rfl, hstands, hlength, -⟩ := Volume.of_mount hkeeps hcounted hmount
      (haccepted.bounded hcounted)
  have hstate : w.state = disk := congrArg View.disk hw
  exact ⟨vol, w, hmount, hstands.finds_gap (hstate.trans hdisk.symm) hlength h32 htwo⟩

/-- A layout is safe to search just if sectors hold whole records or the directory has
one sector at most. -/
theorem search_agrees_iff {size : Nat} (haccepted : l.Accepted l.sectorSize size)
    (hcounted : size < Image.greatest) :
    (∀ disk : ByteArray, disk.size = size → ∀ vol w,
        (Volume.mount (Device.memory l.sectorSize) l).start disk = (.ok vol, w) →
        vol.SearchAgrees w) ↔
      Layout.recordSize ∣ l.sectorSize ∨ l.rootSectors ≤ 1 := by
  have hkeeps := Device.keeps_memory l.sectorSize
  constructor
  · intro hall
    refine Decidable.byContradiction fun hno => ?_
    rw [not_or, Nat.not_le] at hno
    obtain ⟨hsize, vol, w, hmount, hfinds, r, hr⟩ :=
      Volume.exists_mount_gap haccepted hcounted hno.1 hno.2
    exact (hall _ hsize vol w hmount).not_shows hfinds r hr
  · rintro hmatch disk rfl vol w hmount
    obtain ⟨hw, rfl, hstands, hlength, -⟩ := Volume.of_mount hkeeps hcounted hmount
      (haccepted.bounded hcounted)
    have hdisk : w.state = disk := congrArg View.disk hw
    exact hstands.searchAgrees (by rw [hdisk]; exact hlength) hmatch

theorem search_agrees_bootDisk :
    Layout.bootDisk.Accepted Layout.bootDisk.sectorSize 2375680 ∧ 2375680 < Image.greatest ∧
    ∀ disk : ByteArray, disk.size = 2375680 → ∀ vol w,
      (Volume.mount (Device.memory Layout.bootDisk.sectorSize) Layout.bootDisk).start disk =
        (.ok vol, w) →
      vol.SearchAgrees w := by
  have haccepted : Layout.bootDisk.Accepted Layout.bootDisk.sectorSize 2375680 :=
    Volume.accepted_bootDisk (Nat.le_refl _)
  exact ⟨haccepted, by decide,
    (search_agrees_iff haccepted (by decide)).2 (Or.inl (by decide))⟩

/-- The search answers the slot 16 although there is a record in it. -/
theorem not_search_agrees_halfRecords :
    ∃ vol w, (Volume.mount (Device.memory 528) Layout.halfRecords).start
        (Layout.halfRecords.gapDisk 2640) = (.ok vol, w) ∧
      vol.Finds w 16 ∧ (∃ r, vol.Shows w 16 (some r)) ∧ ¬ vol.SearchAgrees w := by
  have haccepted : Layout.halfRecords.Accepted 528 2640 := ⟨by decide, rfl, by decide⟩
  obtain ⟨-, vol, w, hmount, hfinds, r, hr⟩ :=
    Volume.exists_mount_gap haccepted (by decide) (by decide) (by decide)
  exact ⟨vol, w, hmount, hfinds, ⟨r, hr⟩, fun hagrees => hagrees.not_shows hfinds r hr⟩

end FatImage
