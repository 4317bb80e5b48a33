import FatImage.Proofs.Geometry
import FatImage.Proofs.Ranges
import FatImage.Volume.Placement

/-!
# What a volume does to its device

Everything above the device is written without knowing it: a volume learns
what the calls are answered and nothing else. So the same action can be run
on two machines, and as long as these answer alike, it goes the same way on
both. `Alike` says of two actions that they are one in this sense; it has a
constructor for each way in which the layers above the device make an action
out of calls. To read a sector is a constructor with everything that comes
after it, because what comes after may rely on the sector being whole.

The relation also has a say on what is transferred: every read and every
write must be `allowed`. On a volume of a number of sectors those calls are
allowed that move whole sectors behind the reserved ones. An image looks at
the end of a range before it transfers any of it, so all there is to show
of an offset is that it is not in front of the table.

What the actions of a volume transfer is settled here once, one lemma for
each of them. What follows for the journal and for the state of a device is
an induction over `Alike` that has no volume in it any more.
-/

namespace FatImage

/-- A device, and a source of the bytes of files. -/
structure Machine (σ : Type) where
  device : Device σ
  source : Source σ

/-- A source that has no bytes for any entry. -/
def Source.nothing {σ : Type} : Source σ :=
  fun _ => throw ""

variable {ρ σ σ' : Type} {here : Machine σ} {there : Machine σ'} {allowed : Call → Prop}
variable {α β : Type}

/-- `x` on the machine `here` and `y` on the machine `there` are made in the same
way out of transfers, loads and what is told, and every transfer is allowed. -/
inductive Alike (here : Machine σ) (there : Machine σ') (allowed : Call → Prop) :
    {α : Type} → Action σ VolumeError α → Action σ' VolumeError α → Prop where
  | answer {α : Type} (a : α) : Alike here there allowed (pure a) (pure a)
  | failure {α : Type} (e : VolumeError) :
      Alike here there allowed (throw e : Action σ VolumeError α) (throw e)
  | record (e : Event) (he : e.call? = none) :
      Alike here there allowed (Action.record e) (Action.record e)
  | bind {α β : Type} {x : Action σ VolumeError α} {y : Action σ' VolumeError α}
      {f : α → Action σ VolumeError β} {g : α → Action σ' VolumeError β}
      (hx : Alike here there allowed x y) (hf : ∀ a, Alike here there allowed (f a) (g a)) :
      Alike here there allowed (x >>= f) (y >>= g)
  | read {β : Type} {lba n : Nat} {f : ByteArray → Action σ VolumeError β}
      {g : ByteArray → Action σ' VolumeError β} (hc : allowed (.read lba n))
      (hf : ∀ sector, sector.size = n → Alike here there allowed (f sector) (g sector)) :
      Alike here there allowed (here.device.perform (.read lba n) >>= f)
        (there.device.perform (.read lba n) >>= g)
  | write {lba : Nat} {data : ByteArray} (hc : allowed (.write lba data)) :
      Alike here there allowed (here.device.perform (.write lba data))
        (there.device.perform (.write lba data))
  | load {β : Type} (e : Entry) {f : Except String ByteArray → Action σ VolumeError β}
      {g : Except String ByteArray → Action σ' VolumeError β}
      (hf : ∀ r, Alike here there allowed (f r) (g r)) :
      Alike here there allowed (Action.attempt (here.source e) >>= f)
        (Action.attempt (there.source e) >>= g)

namespace Alike

theorem ite {c : Prop} [Decidable c] {x x' : Action σ VolumeError α}
    {y y' : Action σ' VolumeError α} (h : c → Alike here there allowed x y)
    (h' : ¬ c → Alike here there allowed x' y') :
    Alike here there allowed (if c then x else x') (if c then y else y') := by
  split
  · next hc => exact h hc
  · next hc => exact h' hc

theorem dite {c : Prop} [Decidable c] {x : c → Action σ VolumeError α}
    {x' : ¬ c → Action σ VolumeError α} {y : c → Action σ' VolumeError α}
    {y' : ¬ c → Action σ' VolumeError α} (h : ∀ hc, Alike here there allowed (x hc) (y hc))
    (h' : ∀ hc, Alike here there allowed (x' hc) (y' hc)) :
    Alike here there allowed (if hc : c then x hc else x' hc)
      (if hc : c then y hc else y' hc) := by
  split
  · next hc => exact h hc
  · next hc => exact h' hc

theorem ofExcept (r : Except VolumeError α) :
    Alike here there allowed (Action.ofExcept r) (Action.ofExcept r) := by
  cases r with
  | ok a => exact .answer a
  | error e => exact .failure e

theorem ofExcept_bind {r : Except VolumeError α} {f : α → Action σ VolumeError β}
    {g : α → Action σ' VolumeError β}
    (h : ∀ a, r = .ok a → Alike here there allowed (f a) (g a)) :
    Alike here there allowed (Action.ofExcept r >>= f) (Action.ofExcept r >>= g) := by
  cases r with
  | ok a => exact h a rfl
  | error e => exact .failure e

theorem forEach {f : Nat → Action σ VolumeError Unit} {g : Nat → Action σ' VolumeError Unit}
    {count first : Nat}
    (h : ∀ i, first ≤ i → i < first + count → Alike here there allowed (f i) (g i)) :
    Alike here there allowed (Action.forEach f count first) (Action.forEach g count first) := by
  induction count generalizing first with
  | zero => exact .answer ()
  | succ count ih =>
      exact (h first (Nat.le_refl _) (by omega)).bind fun _ =>
        ih fun i hi hi' => h i (by omega) (by omega)

end Alike

/-! ## The transfers of a volume -/

/-- A transfer of whole sectors of a volume of so many: one of them to read, or at least
one to write. All are behind the reserved ones, if no place of the layout is cut. -/
def Layout.Contains (l : Layout) (sectors : Nat) : Call → Prop
  | .count | .flush => False
  | .read lba n => n = l.sectorSize ∧ (l.Uncut → l.reservedSectors ≤ lba) ∧ lba < sectors
  | .write lba data => ∃ n, 0 < n ∧ data.size = n * l.sectorSize ∧
      (l.Uncut → l.reservedSectors ≤ lba) ∧ lba + n ≤ sectors

namespace Image

/-- The image of the same length on another device. -/
def on (img : Image ρ) (d : Device σ) : Image σ where
  device := d
  sectorSize := img.sectorSize
  length := img.length
  sectorSize_pos := img.sectorSize_pos

/-- The byte is one of a range that does not begin in front of the table, if no place is
cut, and was found to be on the image. -/
def Found (img : Image ρ) (l : Layout) (pos : Nat) : Prop :=
  ∃ o n, (l.Uncut → l.tableOffset ≤ o) ∧ img.checkRange o n = .ok () ∧ o ≤ pos ∧ pos < o + n

/-- It is allowed to read the sector of a byte which was found to be on the image. -/
structure AllowsReads (img : Image ρ) (l : Layout) (allowed : Call → Prop) : Prop where
  read : ∀ {pos}, img.Found l pos →
    allowed (.read (pos / img.sectorSize) img.sectorSize)

/-- Those transfers of whole sectors are allowed that are made for bytes which
were found to be on the image. -/
structure Allows (img : Image ρ) (l : Layout) (allowed : Call → Prop) : Prop
    extends AllowsReads img l allowed where
  write : ∀ {pos n data}, 0 < n → data.size = n * img.sectorSize →
    (∀ i < n, img.Found l (pos + i * img.sectorSize)) →
    allowed (.write (pos / img.sectorSize) data)

variable {img : Image ρ} {l : Layout} {sectors pos length : Nat}

theorem allows_true : img.Allows l fun _ => True where
  read _ := trivial
  write _ _ _ := trivial

/-- The image is that of so many sectors, and its bytes can be counted. -/
structure Spans (img : Image ρ) (l : Layout) (sectors : Nat) : Prop where
  sector : img.sectorSize = l.sectorSize
  length : img.length = sectors * l.sectorSize
  counted : img.length < greatest

theorem FrontWhole.on {data : ByteArray} {n : Nat} (h : img.FrontWhole pos data n)
    (d : Device σ) : (img.on d).FrontWhole pos data n :=
  ⟨h.eq, h.nonempty, h.le, h.start, h.stop⟩

theorem FrontPart.on {data : ByteArray} {n : Nat} (h : img.FrontPart pos data n)
    (d : Device σ) : (img.on d).FrontPart pos data n :=
  ⟨h.eq, h.nonempty, h.le, h.inside, h.ends, h.not_whole⟩

theorem Spans.on (h : img.Spans l sectors) (d : Device σ) : (img.on d).Spans l sectors :=
  ⟨h.sector, h.length, h.counted⟩

theorem Spans.le_of_found (h : img.Spans l sectors) (hpos : img.Found l pos) :
    (l.Uncut → l.reservedSectors ≤ pos / img.sectorSize) ∧ pos / img.sectorSize < sectors := by
  obtain ⟨o, n, ho, hcheck, hle, hlt⟩ := hpos
  have hs := img.sectorSize_pos
  have hfit := le_length_of_checkRange h.counted hcheck
  rw [h.length, ← h.sector] at hfit
  rw [Layout.tableOffset, ← h.sector] at ho
  exact ⟨fun hl => (Nat.le_div_iff_mul_le hs).2 (Nat.le_trans (ho hl) hle),
    (Nat.div_lt_iff_lt_mul hs).2 (by omega)⟩

theorem Spans.allows (h : img.Spans l sectors) : img.Allows l (l.Contains sectors) where
  read hpos := ⟨h.sector, h.le_of_found hpos⟩
  write {pos n data} hn hdata hfound := by
    have hfirst := h.le_of_found (hfound 0 hn)
    have hlast := h.le_of_found (hfound (n - 1) (by omega))
    rw [Nat.zero_mul, Nat.add_zero] at hfirst
    rw [Nat.add_mul_div_right _ _ img.sectorSize_pos] at hlast
    exact ⟨n, hn, by rw [hdata, h.sector], hfirst.1, by omega⟩

/-! ## Ranges of an image -/

theorem AllowsReads.readFrom (h : img.AllowsReads l allowed) {front : ByteArray}
    (hfound : ∀ x, pos ≤ x → x < pos + length → img.Found l x) :
    Alike here there allowed ((img.on here.device).readFrom pos length front)
      ((img.on there.device).readFrom pos length front) := by
  induction length using Nat.strongRecOn generalizing pos front with
  | ind length ih =>
    unfold Image.readFrom
    refine .dite (fun _ => .answer _) fun hne => ?_
    have hchunk : 0 < (img.on here.device).inSector pos length :=
      img.inSector_pos pos (Nat.pos_of_ne_zero hne)
    refine .read (h.read (hfound pos (Nat.le_refl _) (by omega))) fun sector _ => ?_
    exact ih _ (by omega) fun x hx hx' => hfound x (by omega) (by omega)

theorem AllowsReads.readAt (h : img.AllowsReads l allowed) (hpos : l.Uncut → l.tableOffset ≤ pos) :
    Alike here there allowed ((img.on here.device).readAt pos length)
      ((img.on there.device).readAt pos length) := by
  rw [readAt_eq, readAt_eq]
  exact .ofExcept_bind fun _ hcheck =>
    h.readFrom fun _ hx hx' => ⟨pos, length, hpos, hcheck, hx, hx'⟩

theorem Allows.writeWhole (h : img.Allows l allowed) {data : ByteArray} {n : Nat}
    (hfront : img.FrontWhole pos data n)
    (hfound : ∀ x, pos ≤ x → x < pos + data.size → img.Found l x) :
    allowed (.write (pos / img.sectorSize) (data.extract 0 n)) := by
  have hn := hfront.nonempty
  have hle := hfront.le
  have hdiv := Nat.div_mul_cancel (Nat.dvd_of_mod_eq_zero hfront.stop)
  refine h.write (Nat.div_pos (Nat.le_of_dvd hn (Nat.dvd_of_mod_eq_zero hfront.stop))
    img.sectorSize_pos) ?_ fun i hi => ?_
  · rw [Bytes.size_extract_zero hle, hdiv]
  · have hs := img.sectorSize_pos
    have hmul := Nat.mul_le_mul_right img.sectorSize (show i + 1 ≤ _ from hi)
    rw [Nat.add_mul, Nat.one_mul, hdiv] at hmul
    exact hfound _ (Nat.le_add_right _ _) (by omega)

theorem Allows.writePatch (h : img.Allows l allowed) {data sector : ByteArray} {n : Nat}
    (hfront : img.FrontPart pos data n) (hsector : sector.size = img.sectorSize)
    (hpos : img.Found l pos) :
    allowed (.write (pos / img.sectorSize)
      (Bytes.overwrite sector (pos % img.sectorSize) (data.extract 0 n))) := by
  have hinside := hfront.inside
  have hsize := Bytes.size_extract_zero hfront.le
  refine h.write Nat.one_pos ?_ fun i hi => ?_
  · rw [Bytes.size_overwrite (by omega), hsector, Nat.one_mul]
  · rw [Nat.lt_one_iff.1 hi, Nat.zero_mul, Nat.add_zero]
    exact hpos

theorem Allows.writeFrom (h : img.Allows l allowed) {data : ByteArray}
    (hfound : ∀ x, pos ≤ x → x < pos + data.size → img.Found l x) :
    Alike here there allowed ((img.on here.device).writeFrom pos data)
      ((img.on there.device).writeFrom pos data) := by
  have hleft : ∀ {pos n : Nat} {data : ByteArray}, n ≤ data.size →
      (∀ x, pos ≤ x → x < pos + data.size → img.Found l x) →
      ∀ x, pos + n ≤ x → x < pos + n + (data.extract n data.size).size → img.Found l x := by
    intro pos n data hle hfound x hx hx'
    rw [Bytes.size_extract_rest] at hx'
    exact hfound x (by omega) (by omega)
  induction pos, data using img.writeFrom_induct with
  | empty pos data hempty =>
      rw [writeFrom_of_empty pos hempty, writeFrom_of_empty pos hempty]
      exact .answer ()
  | whole pos data n hfront ih =>
      rw [(hfront.on here.device).writeFrom_eq, (hfront.on there.device).writeFrom_eq]
      exact .bind (.write (h.writeWhole hfront hfound)) fun _ => ih (hleft hfront.le hfound)
  | part pos data n hfront ih =>
      have hn := hfront.nonempty
      have hle := hfront.le
      have hpos := hfound pos (Nat.le_refl _) (by omega)
      rw [(hfront.on here.device).writeFrom_eq, (hfront.on there.device).writeFrom_eq]
      refine .read (h.read hpos) fun sector hsector => ?_
      exact .bind (.write (h.writePatch hfront hsector hpos)) fun _ => ih (hleft hle hfound)

theorem Allows.writeAt (h : img.Allows l allowed) {data : ByteArray}
    (hpos : l.Uncut → l.tableOffset ≤ pos) :
    Alike here there allowed ((img.on here.device).writeAt pos data)
      ((img.on there.device).writeAt pos data) := by
  rw [writeAt_eq, writeAt_eq]
  exact .ofExcept_bind fun _ hcheck =>
    h.writeFrom fun _ hx hx' => ⟨pos, data.size, hpos, hcheck, hx, hx'⟩

theorem Allows.zeroFrom (h : img.Allows l allowed) (hpos : l.Uncut → l.tableOffset ≤ pos) :
    Alike here there allowed ((img.on here.device).zeroFrom pos length)
      ((img.on there.device).zeroFrom pos length) := by
  induction length using Nat.strongRecOn generalizing pos with
  | ind length ih =>
    unfold Image.zeroFrom
    refine .dite (fun _ => .answer _) fun hne => (h.writeAt hpos).bind fun _ => ?_
    have hs := img.sectorSize_pos
    refine ih _ ?_ (fun hl => Nat.le_trans (hpos hl) (Nat.le_add_right _ _))
    change length - min length (img.sectorSize * zeroSectors) < length
    rw [zeroSectors]
    omega

theorem Allows.zeroRange (h : img.Allows l allowed) (hpos : l.Uncut → l.tableOffset ≤ pos) :
    Alike here there allowed ((img.on here.device).zeroRange pos length)
      ((img.on there.device).zeroRange pos length) := by
  rw [zeroRange_eq, zeroRange_eq]
  exact .ofExcept_bind fun _ _ => h.zeroFrom hpos

end Image

/-! ## The actions of a volume -/

namespace Layout

variable {l : Layout}

theorem Uncut.tableOffset_le_mirror (h : l.Uncut) {i : Nat} (hi : i ≤ l.mirrors) :
    l.tableOffset ≤ l.mirrorOffset i := by
  rw [h.bounded.mirrorOffset_eq hi]
  exact Layout.tableOffset_le_mirror l i

theorem Uncut.tableOffset_le_link (h : l.Uncut) {i : Nat} (hi : i ≤ l.mirrors) (c : UInt16) :
    l.tableOffset ≤ l.linkOffset i c := by
  rw [h.linkOffset_eq hi]
  exact Nat.le_trans (Layout.tableOffset_le_mirror l i) (Nat.le_add_right _ _)

theorem Uncut.tableOffset_le_sector (h : l.Uncut) {n : Nat} (hn : n < l.rootSectors) :
    l.tableOffset ≤ cut64 (l.rootOffset + n * l.sectorSize) := by
  have hroot := l.tableOffset_le_root
  have hsector : n * l.sectorSize ≤ l.rootBytes := Nat.mul_le_mul_right _ (Nat.le_of_lt hn)
  have hend : l.dataStart = l.rootStart + l.rootBytes := rfl
  rw [h.bounded.rootOffset_eq, h.bounded.cut64_eq (by omega)]
  omega

theorem Uncut.tableOffset_le_slot (h : l.Uncut) {slot : Nat} (hslot : slot < l.slotCount) :
    l.tableOffset ≤ l.slotOffset slot := by
  rw [h.bounded.slotOffset_eq hslot]
  exact Nat.le_trans l.tableOffset_le_root (Nat.le_add_right _ _)

theorem Uncut.tableOffset_le_cluster (h : l.Uncut) {c : UInt16} {offset : Nat}
    (hoffset : l.clusterOffset? c = some offset) : l.tableOffset ≤ offset := by
  rw [h.clusterOffset?_eq] at hoffset
  unfold clusterStart? at hoffset
  split at hoffset
  · cases hoffset
  · cases hoffset
    exact Nat.le_trans (Nat.le_trans l.tableOffset_le_root l.rootStart_le_data)
      (Nat.le_add_right _ _)

end Layout

namespace Volume

/-- The volume with the same layout on another device. -/
def on (vol : Volume ρ) (d : Device σ) : Volume σ where
  image := vol.image.on d
  layout := vol.layout

@[simp] theorem on_layout (vol : Volume ρ) (d : Device σ) : (vol.on d).layout = vol.layout :=
  rfl

@[simp] theorem on_recordsPerSector (vol : Volume ρ) (d : Device σ) :
    (vol.on d).recordsPerSector = vol.recordsPerSector := rfl

@[simp] theorem on_freeSlotIn (vol : Volume ρ) (d : Device σ) :
    (vol.on d).freeSlotIn = vol.freeSlotIn := rfl

theorem on_of_device {vol : Volume σ} {d : Device σ} (h : vol.image.device = d) :
    vol.on d = vol := by
  subst h
  rfl

/-- A run without its flush. -/
def runUnflushed (vol : Volume σ) (m : Manifest) (source : Source σ) :
    Action σ VolumeError Report := do
  vol.reset
  vol.placeAll source {} m.entries

variable {vol : Volume ρ}

section

variable (h : vol.image.AllowsReads vol.layout allowed)

include h

theorem alike_readLink (c : UInt16) :
    Alike here there allowed ((vol.on here.device).readLink 0 c)
      ((vol.on there.device).readLink 0 c) :=
  (h.readAt fun hl => hl.tableOffset_le_link (Nat.zero_le _) c).bind fun _ => .answer _

theorem alike_followChain (c : UInt16) (front : List UInt16) (budget : Nat) :
    Alike here there allowed
      ((vol.on here.device).followChain c front budget)
      ((vol.on there.device).followChain c front budget) := by
  induction budget generalizing c front with
  | zero => exact (alike_readLink h c).bind fun _ => .answer _
  | succ budget ih =>
      refine (alike_readLink h c).bind fun link => ?_
      exact .ite (fun _ => .answer _) fun _ => ih link (c :: front)

theorem alike_chain (start : UInt16) :
    Alike here there allowed ((vol.on here.device).chain start)
      ((vol.on there.device).chain start) :=
  .ite (fun _ => .answer _) fun _ => alike_followChain h start [] _

theorem alike_freeSlotFrom {count first : Nat}
    (hcount : first + count ≤ vol.layout.rootSectors) :
    Alike here there allowed
      ((vol.on here.device).freeSlotFrom count first)
      ((vol.on there.device).freeSlotFrom count first) := by
  induction count generalizing first with
  | zero => exact .failure _
  | succ count ih =>
      refine (h.readAt fun hl => hl.tableOffset_le_sector (by omega)).bind fun sector => ?_
      simp only [on_freeSlotIn, on_recordsPerSector]
      cases vol.freeSlotIn sector (first * vol.recordsPerSector) with
      | some slot => exact .answer slot
      | none => exact ih (by omega)

theorem alike_allocate (cursor : Cursor) (length : Nat) :
    Alike here there allowed
      ((vol.on here.device).allocate cursor length)
      ((vol.on there.device).allocate cursor length) := by
  have hslot : Alike here there allowed (vol.on here.device).freeSlot
      (vol.on there.device).freeSlot := alike_freeSlotFrom h (Nat.le_of_eq (Nat.zero_add _))
  refine .ite (fun _ => .ofExcept_bind (r := .error _) fun _ he => by cases he) fun _ => ?_
  refine .ite (fun _ => .ofExcept_bind fun _ _ => ?_) fun _ => ?_
  · exact hslot.bind fun _ => .answer _
  · exact hslot.bind fun _ => .answer _

theorem alike_readRecord {slot : Nat} (hslot : slot < vol.layout.slotCount) :
    Alike here there allowed ((vol.on here.device).readRecord slot)
      ((vol.on there.device).readRecord slot) :=
  (h.readAt fun hl => hl.tableOffset_le_slot hslot).bind fun _ => .answer _

theorem alike_recordsFrom {front : Array Record} {count slot : Nat}
    (hcount : slot + count ≤ vol.layout.slotCount) :
    Alike here there allowed
      ((vol.on here.device).recordsFrom front count slot)
      ((vol.on there.device).recordsFrom front count slot) := by
  induction count generalizing front slot with
  | zero => exact .answer _
  | succ count ih =>
      refine (alike_readRecord h (by omega)).bind fun r => ?_
      cases r with
      | none => exact .answer _
      | some r => exact ih (by omega)

theorem alike_records :
    Alike here there allowed (vol.on here.device).records
      (vol.on there.device).records :=
  alike_recordsFrom h (Nat.le_of_eq (Nat.zero_add _))

end

section

variable (h : vol.image.Allows vol.layout allowed)

include h

theorem alike_resetTable :
    Alike here there allowed (vol.on here.device).resetTable
      (vol.on there.device).resetTable := by
  refine .bind (.forEach fun i _ hi => ?_) fun _ => .record _ rfl
  have hmirror : vol.layout.Uncut → vol.layout.tableOffset ≤ vol.layout.mirrorOffset i :=
    fun hl => hl.tableOffset_le_mirror (by simp only [on_layout] at hi; omega)
  exact (h.zeroRange hmirror).bind fun _ => h.writeAt hmirror

theorem alike_linkChain (start : UInt16) (count : Nat) :
    Alike here there allowed ((vol.on here.device).linkChain start count)
      ((vol.on there.device).linkChain start count) := by
  refine .ofExcept_bind fun _ _ => .ite (fun _ => ?_) fun _ => .answer _
  refine .forEach fun i _ hi => h.writeAt fun hl => hl.tableOffset_le_link ?_ start
  simp only [on_layout] at hi
  omega

theorem alike_clearDirectory :
    Alike here there allowed (vol.on here.device).clearDirectory
      (vol.on there.device).clearDirectory :=
  (h.zeroRange fun hl => hl.tableOffset_le_mirror (Nat.le_refl _)).bind fun _ => .record _ rfl

theorem alike_writeRecord (slot : Nat) (r : Record) :
    Alike here there allowed ((vol.on here.device).writeRecord slot r)
      ((vol.on there.device).writeRecord slot r) :=
  .ite (fun _ => .failure _) fun hslot =>
    h.writeAt fun hl => hl.tableOffset_le_slot (Nat.not_le.1 hslot)

theorem alike_reset :
    Alike here there allowed (vol.on here.device).reset
      (vol.on there.device).reset :=
  (alike_clearDirectory h).bind fun _ => alike_resetTable h

theorem alike_writePayload (start : UInt16) (data : ByteArray) :
    Alike here there allowed
      ((vol.on here.device).writePayload start data)
      ((vol.on there.device).writePayload start data) := by
  refine .ite (fun _ => .answer _) fun _ => ?_
  simp only [on_layout]
  cases hoffset : vol.layout.clusterOffset? start with
  | none => exact .failure _
  | some offset => exact h.writeAt fun hl => hl.tableOffset_le_cluster hoffset

theorem alike_place (cursor : Cursor) (name : ShortName) (data : ByteArray) :
    Alike here there allowed
      ((vol.on here.device).place cursor name data)
      ((vol.on there.device).place cursor name data) := by
  refine (alike_allocate h.toAllowsReads cursor data.size).bind fun a => ?_
  refine .bind (.record _ rfl) fun _ => ?_
  refine (alike_writePayload h a.start data).bind fun _ => ?_
  refine .bind (.record _ rfl) fun _ => ?_
  refine (alike_linkChain h a.start a.clusters.toNat).bind fun _ => ?_
  refine (alike_writeRecord h a.slot _).bind fun _ => ?_
  refine .bind (.record _ rfl) fun _ => .bind (.record _ rfl) fun _ => ?_
  exact .bind (.record _ rfl) fun _ => .answer _

theorem alike_placeAll (report : Report) (entries : List Entry) :
    Alike here there allowed
      ((vol.on here.device).placeAll here.source report entries)
      ((vol.on there.device).placeAll there.source report entries) := by
  induction entries generalizing report with
  | nil => exact .answer report
  | cons e rest ih =>
      refine .load e fun r => ?_
      cases r with
      | error reason =>
          refine .bind (.record _ rfl) fun _ => .bind (.record _ rfl) fun _ => ?_
          exact .bind (.record _ rfl) fun _ => ih _
      | ok data =>
          refine .bind (.record _ rfl) fun _ => ?_
          exact (alike_place h report.next e.name data).bind fun placed => ih _

theorem alike_runUnflushed (m : Manifest) :
    Alike here there allowed
      ((vol.on here.device).runUnflushed m here.source)
      ((vol.on there.device).runUnflushed m there.source) :=
  (alike_reset h).bind fun _ => alike_placeAll h {} m.entries

end

end Volume

end FatImage
