import FatImage.Proofs.Mount
import FatImage.Proofs.Names

/-!
# The root directory, read and written

The directory has no length of its own: the first slot whose record was
never used ends it. `Lists` says when the bytes of a disk are a list of
records in that sense, and two things follow: the slot that is found for a
new record is the one behind the last, and reading the directory gives the
list back. Both need that no record looks like one that was never used,
which holds because the name of a record comes from a text that is a name.

The search for a free slot goes by sectors and by the records that fit into
each; slots and sectors agree where the sectors hold whole records. Without
this the search still answers a slot of the directory.
-/

namespace FatImage

variable {σ τ : Type} {look : σ → ByteArray × τ} {faulty : Prop} {v : View τ}
variable {vol : Volume σ} {l : Layout} {b : ByteArray} {fs : List File}

/-! ## Names that were read from a text -/

/-- The name of some text. -/
def ShortName.Parsed (n : ShortName) : Prop :=
  ∃ text, ShortName.ofString text = .ok n

theorem ShortName.Parsed.first_ne_zero {n : ShortName} (h : n.Parsed) :
    n.bytes[0]?.getD 0 ≠ 0 := by
  obtain ⟨text, h⟩ := h
  obtain ⟨b, hb, hunused, -⟩ := (spells_of_parse h).first
  rwa [hb, Option.getD_some]

/-- The name of the text `A`. -/
def ShortName.letterA : ShortName := ⟨field 8 ['A'], field 3 []⟩

def ShortName.letterB : ShortName := ⟨field 8 ['B'], field 3 []⟩

def ShortName.letterC : ShortName := ⟨field 8 ['C'], field 3 []⟩

theorem ShortName.parsed_letterA : letterA.Parsed := ⟨"A", rfl⟩

theorem ShortName.parsed_letterB : letterB.Parsed := ⟨"B", rfl⟩

theorem ShortName.parsed_letterC : letterC.Parsed := ⟨"C", rfl⟩

theorem Record.byteAt_encode_zero {r : Record} (h : r.name.Parsed) :
    Bytes.byteAt r.encode 0 ≠ 0 := by
  rw [byteAt_encode, if_pos (by omega)]
  exact h.first_ne_zero

/-! ## Slots that were used -/

/-- No slot below `n` is free. -/
def Volume.NoneFree (l : Layout) (b : ByteArray) (n : Nat) : Prop :=
  ∀ t < n, Bytes.byteAt b (l.slotStart t) ≠ 0

/-- The slots below `n` were used, and the next one, if there is one, was not. -/
structure Layout.UsedBelow (l : Layout) (b : ByteArray) (n : Nat) : Prop where
  room : n ≤ l.slotCount
  used : Volume.NoneFree l b n
  stop : n < l.slotCount → Bytes.byteAt b (l.slotStart n) = 0

/-- The record that the bytes of a slot are, if it was used. -/
def Layout.recordAt (l : Layout) (b : ByteArray) (slot : Nat) : Record :=
  Record.decode (Bytes.slice b (l.slotStart slot) 32)

/-! ## Directories that are a list of records -/

/-- The slots hold these records, and then one that was never used. -/
structure Layout.Lists (l : Layout) (b : ByteArray) (rs : List Record) : Prop where
  room : rs.length ≤ l.slotCount
  record : ∀ i r, rs[i]? = some r → Bytes.slice b (l.slotStart i) 32 = r.encode
  used : ∀ r ∈ rs, Bytes.byteAt r.encode 0 ≠ 0
  stop : rs.length < l.slotCount → Bytes.byteAt b (l.slotStart rs.length) = 0

namespace Layout

theorem Lists.byteAt_slot {rs : List Record} (h : l.Lists b rs) {i : Nat}
    (hi : i < rs.length) : Bytes.byteAt b (l.slotStart i) ≠ 0 := by
  have hr := h.record i rs[i] (List.getElem?_eq_getElem hi)
  have hslice : Bytes.byteAt (Bytes.slice b (l.slotStart i) 32) 0 =
      Bytes.byteAt b (l.slotStart i) := Bytes.byteAt_slice (by omega)
  rw [← hslice, hr]
  exact h.used _ (List.getElem_mem hi)

theorem Lists.usedBelow {rs : List Record} (h : l.Lists b rs) : l.UsedBelow b rs.length where
  room := h.room
  used _ hi := h.byteAt_slot hi
  stop := h.stop

theorem Lists.map_recordAt {rs : List Record} (h : l.Lists b rs) :
    (List.range rs.length).map (l.recordAt b) = rs := by
  refine List.ext_getElem (by rw [List.length_map, List.length_range]) fun i _ hi => ?_
  rw [List.getElem_map, List.getElem_range, recordAt,
    h.record i rs[i] (List.getElem?_eq_getElem hi), Record.decode_encode]

theorem Lists.eq_length {rs : List Record} (h : l.Lists b rs) {slot : Nat}
    (hslot : slot < l.slotCount) (hzero : Bytes.byteAt b (l.slotStart slot) = 0)
    (hbefore : ∀ t < slot, Bytes.byteAt b (l.slotStart t) ≠ 0) : slot = rs.length := by
  rcases Nat.lt_trichotomy slot rs.length with hlt | heq | hgt
  · exact absurd hzero (h.byteAt_slot hlt)
  · exact heq
  · exact absurd (h.stop (by omega)) (hbefore _ hgt)

/-- The records of the files. -/
def records (l : Layout) (fs : List File) : List Record :=
  (l.placements fs).map PlacedFile.record

theorem length_records : (l.records fs).length = fs.length := by
  rw [records, List.length_map, length_placements]

theorem placements_name {p : PlacedFile} (hp : p ∈ l.placements fs) :
    ∃ f ∈ fs, p.name = f.name := by
  induction fs using List.reverseRecOn with
  | nil => cases hp
  | append_singleton fs f ih =>
      rw [placements_append, List.mem_append, List.mem_singleton] at hp
      rcases hp with hp | rfl
      · obtain ⟨g, hg, hname⟩ := ih hp
        exact ⟨g, List.mem_append_left _ hg, hname⟩
      · exact ⟨f, List.mem_append_right _ List.mem_cons_self, rfl⟩

theorem Legible.lists (h : l.Legible b fs) (hslots : fs.length ≤ l.slotCount)
    (hb : l.dataStart ≤ b.size) (hnames : ∀ f ∈ fs, f.name.Parsed) :
    l.Lists b (l.records fs) where
  room := by rw [length_records]; exact hslots
  record i r hr := by
    rw [records, List.getElem?_map, Option.map_eq_some_iff] at hr
    obtain ⟨p, hp, rfl⟩ := hr
    have hi : i < fs.length := by
      rw [← length_placements (l := l)]
      exact (List.getElem?_eq_some_iff.1 hp).1
    exact h.slice_record hp (by omega) hb
  used r hr := by
    obtain ⟨p, hp, rfl⟩ := List.mem_map.1 hr
    obtain ⟨f, hf, hname⟩ := placements_name hp
    refine Record.byteAt_encode_zero ?_
    show p.name.Parsed
    rw [hname]
    exact hnames f hf
  stop hlt := by
    rw [length_records] at hlt ⊢
    exact h.byteAt_slot hlt (Nat.le_refl _)

end Layout

namespace Volume

/-! ## Looking for a free slot -/

theorem findSome?_ite {α β : Type} (p : α → Bool) (g : α → β) (xs : List α) :
    xs.findSome? (fun x => if p x then some (g x) else none) = (xs.find? p).map g := by
  induction xs with
  | nil => rfl
  | cons x xs ih =>
      rw [List.findSome?_cons, List.find?_cons, ih]
      cases p x <;> rfl

theorem recordsPerSector_mul_le (vol : Volume σ) :
    vol.recordsPerSector * 32 ≤ vol.layout.sectorSize :=
  Nat.div_mul_le_self _ _

/-- Whether the record number `i` of a sector was never used, by its first byte. -/
theorem isNeverUsed_slice {sector : ByteArray} (hsize : sector.size = vol.layout.sectorSize)
    {i : Nat} (hi : i < vol.recordsPerSector) :
    Record.isNeverUsed (Bytes.slice sector (i * Layout.recordSize) Layout.recordSize) = true ↔
      Bytes.byteAt sector (i * 32) = 0 := by
  have hle := recordsPerSector_mul_le vol
  rw [Record.isNeverUsed_iff, Bytes.byteAt_slice (by rw [Layout.recordSize]; omega)]
  · rfl
  · rw [Bytes.size_slice, Layout.recordSize]
    omega

theorem freeSlotIn_eq_some {sector : ByteArray} {base slot : Nat}
    (hsize : sector.size = vol.layout.sectorSize)
    (h : vol.freeSlotIn sector base = some slot) :
    ∃ i < vol.recordsPerSector, slot = base + i ∧ slot < vol.layout.slotCount ∧
      Bytes.byteAt sector (i * 32) = 0 ∧
      ∀ j < i, Bytes.byteAt sector (j * 32) ≠ 0 := by
  unfold freeSlotIn at h
  rw [findSome?_ite, Option.map_eq_some_iff] at h
  obtain ⟨i, hfind, rfl⟩ := h
  rw [List.find?_range_eq_some, Bool.and_eq_true, decide_eq_true_eq, List.mem_range] at hfind
  obtain ⟨⟨hcount, hfree⟩, hi, hbefore⟩ := hfind
  refine ⟨i, hi, rfl, hcount, (isNeverUsed_slice hsize hi).1 hfree, ?_⟩
  intro j hj hzero
  have hj' := hbefore j hj
  simp [(isNeverUsed_slice hsize (show j < vol.recordsPerSector by omega)).2 hzero] at hj'
  omega

theorem freeSlotIn_eq_none {sector : ByteArray} {base : Nat}
    (hsize : sector.size = vol.layout.sectorSize)
    (h : vol.freeSlotIn sector base = none) {i : Nat} (hi : i < vol.recordsPerSector)
    (hcount : base + i < vol.layout.slotCount) : Bytes.byteAt sector (i * 32) ≠ 0 := by
  intro hzero
  unfold freeSlotIn at h
  rw [findSome?_ite, Option.map_eq_none_iff, List.find?_range_eq_none] at h
  have hi' := h i hi
  simp [(isNeverUsed_slice hsize hi).2 hzero] at hi'
  omega

/-- A search finds nothing free where it looks at the slots below `n`. -/
def PassesOver (l : Layout) (b : ByteArray) (n : Nat) : Prop :=
  ∀ t < n, Bytes.byteAt b (l.searchOffset t) ≠ 0

/-- From sector `first` on a search finds what it first comes to. -/
theorem Stands.freeSlotFrom (h : vol.Stands look faulty)
    (hv : vol.image.length ≤ v.disk.size) : ∀ {count first : Nat},
    first + count = vol.layout.rootSectors →
    PassesOver vol.layout v.disk (first * vol.recordsPerSector) →
    (vol.freeSlotFrom count first).Ends (World.view look) v
      (fun slot v' => v' = v ∧ slot < vol.layout.searchedSlots ∧
        Bytes.byteAt v.disk (vol.layout.searchOffset slot) = 0 ∧
        PassesOver vol.layout v.disk slot)
      (fun e v' => v' = v ∧ ((e = .deviceFailed ∧ faulty) ∨ (e = .directoryFull ∧
        PassesOver vol.layout v.disk vol.layout.searchedSlots))) := by
  intro count
  induction count with
  | zero =>
      intro first hfirst hover
      refine Action.ends_throw ⟨rfl, Or.inr ⟨rfl, ?_⟩⟩
      rw [Layout.searchedSlots, ← hfirst, Nat.add_zero]
      exact hover
  | succ count ih =>
      intro first hfirst hover
      have hsectors : (first + 1) * vol.layout.sectorSize ≤ vol.layout.rootBytes :=
        Nat.mul_le_mul_right _ (by omega)
      have hslots : (first + 1) * vol.recordsPerSector ≤ vol.layout.searchedSlots :=
        Nat.mul_le_mul_right _ (by omega)
      have hcount := Layout.searchedSlots_le_slotCount vol.layout
      rw [Nat.add_mul, Nat.one_mul] at hsectors hslots
      have hend : vol.layout.dataStart = vol.layout.rootStart + vol.layout.rootBytes := rfl
      have hdata := h.data
      have hread := h.backed.readAt hv
        (o := vol.layout.rootStart + first * vol.layout.sectorSize)
        (n := vol.layout.sectorSize) (by omega)
      rw [Volume.freeSlotFrom]
      rw [h.bounded.rootOffset_eq, h.bounded.cut64_eq (by omega)]
      refine hread.bind ?_ (fun hf => ⟨rfl, Or.inl ⟨rfl, hf⟩⟩)
      have hsize : (Bytes.slice v.disk (vol.layout.rootStart +
          first * vol.layout.sectorSize) vol.layout.sectorSize).size =
          vol.layout.sectorSize := by
        rw [Bytes.size_slice]
        omega
      -- the records of the sector are the slots that come next
      have hbyte : ∀ i < vol.recordsPerSector,
          Bytes.byteAt (Bytes.slice v.disk (vol.layout.rootStart +
            first * vol.layout.sectorSize) vol.layout.sectorSize) (i * 32) =
          Bytes.byteAt v.disk
            (vol.layout.searchOffset (first * vol.recordsPerSector + i)) := by
        intro i hi
        have hle := recordsPerSector_mul_le vol
        rw [Bytes.byteAt_slice (by omega)]
        exact congrArg _ (Layout.searchOffset_add hi first).symm
      split
      · next slot hslot =>
          obtain ⟨i, hi, rfl, -, hzero, hbefore⟩ := freeSlotIn_eq_some hsize hslot
          refine Action.ends_pure ⟨rfl, by omega, by rw [← hbyte i hi]; exact hzero, ?_⟩
          intro t ht
          rcases Nat.lt_or_ge t (first * vol.recordsPerSector) with hlt | hge
          · exact hover t hlt
          · have := hbefore (t - first * vol.recordsPerSector) (by omega)
            rwa [hbyte _ (by omega), Nat.add_sub_cancel' hge] at this
      · next hslot =>
          refine ih (by omega) ?_
          intro t ht
          rw [Nat.add_mul, Nat.one_mul] at ht
          rcases Nat.lt_or_ge t (first * vol.recordsPerSector) with hlt | hge
          · exact hover t hlt
          · have := freeSlotIn_eq_none hsize hslot
              (i := t - first * vol.recordsPerSector) (by omega) (by omega)
            rwa [hbyte _ (by omega), Nat.add_sub_cancel' hge] at this

/-- The slot found is the first that looks free to the search. -/
theorem Stands.freeSlot_search (h : vol.Stands look faulty)
    (hv : vol.image.length ≤ v.disk.size) :
    vol.freeSlot.Ends (World.view look) v
      (fun slot v' => v' = v ∧ slot < vol.layout.searchedSlots ∧
        Bytes.byteAt v.disk (vol.layout.searchOffset slot) = 0 ∧
        PassesOver vol.layout v.disk slot)
      (fun e v' => v' = v ∧ ((e = .deviceFailed ∧ faulty) ∨ (e = .directoryFull ∧
        PassesOver vol.layout v.disk vol.layout.searchedSlots))) := by
  refine h.freeSlotFrom hv (Nat.zero_add _) ?_
  intro t ht
  omega

theorem PassesOver.noneFree {n : Nat} (h : PassesOver l b n)
    (hmatch : Layout.recordSize ∣ l.sectorSize ∨ l.rootSectors ≤ 1)
    (hn : n ≤ l.searchedSlots) : NoneFree l b n := by
  intro t ht
  rw [← Layout.searchOffset_eq_slotStart hmatch (by omega)]
  exact h t ht

/-- The slot found is the first free one, and none is found only if there is none. -/
theorem Stands.freeSlot (h : vol.Stands look faulty)
    (hv : vol.image.length ≤ v.disk.size) :
    vol.freeSlot.Ends (World.view look) v
      (fun slot v' => v' = v ∧ slot < vol.layout.slotCount ∧
        (32 ∣ vol.layout.sectorSize →
          Bytes.byteAt v.disk (vol.layout.slotStart slot) = 0 ∧
          NoneFree vol.layout v.disk slot))
      (fun e v' => v' = v ∧ ((e = .deviceFailed ∧ faulty) ∨ (e = .directoryFull ∧
        (32 ∣ vol.layout.sectorSize →
          NoneFree vol.layout v.disk vol.layout.slotCount)))) := by
  have hcount := Layout.searchedSlots_le_slotCount vol.layout
  refine (h.freeSlot_search hv).mono ?_ ?_
  · rintro slot _ ⟨hv', hslot, hzero, hover⟩
    refine ⟨hv', by omega, fun h32 => ⟨?_, hover.noneFree (Or.inl h32) (by omega)⟩⟩
    rw [← Layout.searchOffset_eq_slotStart (Or.inl h32) hslot]
    exact hzero
  · rintro e _ ⟨hv', hfailed | ⟨rfl, hover⟩⟩
    · exact ⟨hv', Or.inl hfailed⟩
    · refine ⟨hv', Or.inr ⟨rfl, fun h32 => ?_⟩⟩
      have hfull := hover.noneFree (Or.inl h32) (Nat.le_refl _)
      rwa [Layout.searchedSlots_eq_slotCount (Or.inl h32)] at hfull

/-! ## Writing and reading records -/

theorem Stands.writeRecord (h : vol.Stands look faulty)
    (hv : vol.image.length ≤ v.disk.size) {slot : Nat}
    (hslot : slot < vol.layout.slotCount) (r : Record) :
    (vol.writeRecord slot r).Writes look faulty vol.image.sectorSize v
      (vol.layout.slotStart slot) r.encode := by
  have hend := Layout.slotStart_end_le hslot
  have hdata := h.data
  rw [Volume.writeRecord, if_neg (by omega), h.bounded.slotOffset_eq hslot]
  refine h.backed.writeAt hv ?_
  rw [Record.size_encode]
  exact Nat.le_trans hend hdata

theorem Stands.record_in_sector (h : vol.Stands look faulty)
    (h32 : 32 ∣ vol.layout.sectorSize) (slot : Nat) :
    vol.layout.slotStart slot % vol.image.sectorSize + 32 ≤ vol.image.sectorSize := by
  obtain ⟨k, hk⟩ := h32
  have hpos := h.sectorSize_pos
  have hroot : vol.layout.rootStart =
      vol.layout.sectorSize * (vol.layout.reservedSectors +
        vol.layout.mirrors * vol.layout.mirrorSectors) := by
    rw [Layout.rootStart, Layout.mirrorStart, Layout.tableOffset, Layout.mirrorBytes,
      Nat.mul_add, Nat.mul_comm vol.layout.sectorSize, Nat.mul_comm vol.layout.sectorSize,
      Nat.mul_assoc]
  have hmod : slot * 32 % (32 * k) = slot % k * 32 := by
    rw [Nat.mul_comm 32 k, Nat.mul_mod_mul_right]
  have hlt := Nat.mod_lt slot (show 0 < k by omega)
  rw [h.sector, Layout.slotStart, hroot, Nat.mul_add_mod, Layout.recordSize, hk, hmod]
  omega

theorem Stands.readRecord (h : vol.Stands look faulty)
    (hv : vol.image.length ≤ v.disk.size) {slot : Nat}
    (hslot : slot < vol.layout.slotCount) :
    (vol.readRecord slot).Reads look faulty v
      (if Bytes.byteAt v.disk (vol.layout.slotStart slot) = 0 then none
        else some (vol.layout.recordAt v.disk slot)) := by
  have hend := Layout.slotStart_end_le hslot
  have hdata := h.data
  have hsize : (Bytes.slice v.disk (vol.layout.slotStart slot) 32).size = 32 := by
    rw [Bytes.size_slice]
    rw [Layout.recordSize] at hend
    omega
  have hbyte : Bytes.byteAt (Bytes.slice v.disk (vol.layout.slotStart slot) 32) 0 =
      Bytes.byteAt v.disk (vol.layout.slotStart slot) := Bytes.byteAt_slice (by omega)
  unfold Volume.readRecord
  rw [h.bounded.slotOffset_eq hslot]
  refine (h.backed.readAt hv (Nat.le_trans hend hdata)).bind
    (Action.ends_pure ⟨?_, rfl⟩) (fun hf => ⟨⟨rfl, hf⟩, rfl⟩)
  rw [Layout.recordSize, ← hbyte]
  simp only [← Record.isNeverUsed_iff (show 0 < (Bytes.slice v.disk
    (vol.layout.slotStart slot) 32).size by omega)]
  rfl

theorem Stands.recordsFrom (h : vol.Stands look faulty)
    (hv : vol.image.length ≤ v.disk.size) {n : Nat}
    (hn : vol.layout.UsedBelow v.disk n) :
    ∀ {count slot : Nat} {front : Array Record},
    slot + count = vol.layout.slotCount → slot ≤ n →
    front.toList = (List.range slot).map (vol.layout.recordAt v.disk) →
    (vol.recordsFrom front count slot).Reads look faulty v
      ((List.range n).map (vol.layout.recordAt v.disk)) := by
  intro count
  induction count with
  | zero =>
      intro slot front hcount hle hfront
      have hroom := hn.room
      have hall : slot = n := by omega
      exact Action.ends_pure ⟨by rw [hfront, hall], rfl⟩
  | succ count ih =>
      intro slot front hcount hle hfront
      refine (h.readRecord hv (by omega)).bind ?_ (fun hf => ⟨⟨rfl, hf⟩, rfl⟩)
      rcases Nat.lt_or_eq_of_le hle with hlt | rfl
      · rw [if_neg (hn.used slot hlt)]
        refine ih (by omega) hlt ?_
        rw [Array.toList_push, hfront, List.range_succ, List.map_append]
        rfl
      · rw [if_pos (hn.stop (by omega))]
        exact Action.ends_pure ⟨hfront, rfl⟩

/-- The records are those in the slots up to the first that was never used. -/
theorem Stands.records_below (h : vol.Stands look faulty)
    (hv : vol.image.length ≤ v.disk.size) {n : Nat}
    (hn : vol.layout.UsedBelow v.disk n) :
    vol.records.Reads look faulty v ((List.range n).map (vol.layout.recordAt v.disk)) :=
  h.recordsFrom hv hn (Nat.zero_add _) (Nat.zero_le _) rfl

theorem Stands.records (h : vol.Stands look faulty)
    (hv : vol.image.length ≤ v.disk.size) {rs : List Record}
    (hrs : vol.layout.Lists v.disk rs) : vol.records.Reads look faulty v rs := by
  have hread := h.records_below hv hrs.usedBelow
  rwa [hrs.map_recordAt] at hread

end Volume

end FatImage
