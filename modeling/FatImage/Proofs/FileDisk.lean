import Mathlib
import FatImage.Host.ImageFile
import FatImage.Proofs.Lockstep

/-!
# A file is as good as a disk in memory

There are two devices that keep their sectors for good, a disk in memory and
an image in a file, and each of them checks for itself which transfers it can
carry out. `Device.Resembles` says that one device answers every call as
another does, as long as their states hang together in some way, and that
every call keeps them so. What is said of calls one after the other, and what
is said of a whole run on the one device and on the other, follows from this
alone.

The states of a file and of a disk in memory hang together if the file has
the bytes of the disk and, behind them, what fills no sector. Neither a read
nor a write gets that far, so the end of the file stays as it is and where it
is, and so does every other file of the machine.
-/

namespace FatImage

variable {σ σ' τ : Type} {l : Layout} {m : Manifest}

/-! ## Bytes in front of other bytes -/

namespace Bytes

variable {b tail d : ByteArray} {o n : Nat}

theorem slice_append_left (h : o + n ≤ b.size) : slice (b ++ tail) o n = slice b o n := by
  refine slice_congr (by rw [ByteArray.size_append]; omega) h fun i hi => ?_
  rw [byteAt_append, if_pos (by omega)]

theorem overwrite_append_left (h : o + d.size ≤ b.size) :
    overwrite (b ++ tail) o d = overwrite b o d ++ tail := by
  have h' : o + d.size ≤ (b ++ tail).size := by rw [ByteArray.size_append]; omega
  refine ext_byteAt ?_ fun i _ => ?_
  · rw [size_overwrite h', ByteArray.size_append, ByteArray.size_append, size_overwrite h]
  · rw [byteAt_overwrite h', byteAt_append, byteAt_append, byteAt_overwrite h,
      size_overwrite h]
    split
    · rw [if_pos (by omega)]
    · rfl

theorem extract_append_extract {k : Nat} (h : k ≤ b.size) :
    b.extract 0 k ++ b.extract k b.size = b := by
  rw [ByteArray.extract_append_extract, Nat.min_eq_left (Nat.zero_le k), Nat.max_eq_right h,
    ByteArray.extract_zero_size]

end Bytes

/-! ## Devices that answer alike -/

namespace Device

variable {d : Device σ} {d' : Device σ'} {R : σ → σ' → Prop}

/-- `d` answers every call as `d'` does, as long as their states are related by
`R`, and they stay so. -/
structure Resembles (d : Device σ) (d' : Device σ') (R : σ → σ' → Prop) : Prop where
  sectorSize : d.sectorSize = d'.sectorSize
  answer : ∀ (c : Call) {s : σ} {s' : σ'}, R s s' → (d.answer c s).1 = (d'.answer c s').1
  state : ∀ (c : Call) {s : σ} {s' : σ'}, R s s' → R (d.answer c s).2 (d'.answer c s').2

/-- Whatever is called, one call after the other, both devices answer the same, and
before and after each call their states are related. -/
def AnswerAlike (d : Device σ) (d' : Device σ') (R : σ → σ' → Prop) :
    List Call → σ → σ' → Prop
  | [], s, s' => R s s'
  | c :: rest, s, s' => R s s' ∧ (d.answer c s).1 = (d'.answer c s').1 ∧
    AnswerAlike d d' R rest (d.answer c s).2 (d'.answer c s').2

theorem Resembles.answerAlike (h : d.Resembles d' R) (calls : List Call) {s : σ} {s' : σ'}
    (hs : R s s') : AnswerAlike d d' R calls s s' := by
  induction calls generalizing s s' with
  | nil => exact hs
  | cons c rest ih => exact ⟨hs, h.answer c hs, ih (h.state c hs)⟩

end Device

/-! ## A run on either device -/

/-- Two machines whose devices were called alike and have related states, with the
same beside them. -/
def Coupling.along (R : σ → σ' → Prop) : Coupling (σ × τ) (σ' × τ) where
  together v v' := R v.state.1 v'.state.1 ∧ v.state.2 = v'.state.2 ∧ v.calls = v'.calls
  apart _ _ := False

namespace Device.Resembles

variable {d : Device σ} {d' : Device σ'} {R : σ → σ' → Prop}

theorem perform (h : d.Resembles d' R) (c : Call) {w : World (σ × τ)} {w' : World (σ' × τ)}
    (hw : (Coupling.along R).together w.traffic w'.traffic) :
    (Coupling.along R).Ended ((d.beside τ).perform c) ((d'.beside τ).perform c) w w' := by
  obtain ⟨hstate, haside, hcalls⟩ :
    R w.state.1 w'.state.1 ∧ w.state.2 = w'.state.2 ∧ w.calls = w'.calls := hw
  have hanswer : ((d.beside τ).answer c w.state).1 = ((d'.beside τ).answer c w'.state).1 :=
    h.answer c hstate
  obtain ⟨r, w₁, w₁', done, hx, hy, hw₁, hw₁'⟩ := Device.outcome_perform_of_eq hanswer
  refine .both hx hy ?_
  rw [hw₁, hw₁', hcalls]
  exact ⟨h.state c hstate, haside, rfl⟩

theorem joins (h : d.Resembles d' R) (hwhole : d'.ReadsWhole) (load : Loader τ) :
    (Coupling.along R).Joins ⟨d.beside τ, load.source⟩ ⟨d'.beside τ, load.source⟩
      (fun _ => True) where
  transfer _ hw := h.perform _ hw
  load {e w w'} hw := by
    obtain ⟨hstate, haside, hcalls⟩ :
      R w.state.1 w'.state.1 ∧ w.state.2 = w'.state.2 ∧ w.calls = w'.calls := hw
    have hy := load.outcome_load e w'
    rw [← haside] at hy
    exact .both (load.outcome_load e w) hy ⟨hstate, rfl, hcalls⟩
  whole _ hd := (hwhole.beside τ).size hd
  alone _ := .never

/-- A run on a device that resembles another is the run on the other: the answers are
the same, and so are the calls. -/
theorem fill (h : d.Resembles d' R) (hwhole : d'.ReadsWhole) (load : Loader τ) {s : σ}
    {s' : σ'} (hs : R s s') (t : τ) :
    ∃ r w w', (fill (d.beside τ) l m load.source).start (s, t) = (r, w) ∧
      (fill (d'.beside τ) l m load.source).start (s', t) = (r, w') ∧
      R w.state.1 w'.state.1 ∧ w.state.2 = w'.state.2 ∧ w.calls = w'.calls := by
  have hw : (Coupling.along R).together (World.traffic ⟨(s, t), #[]⟩)
      (World.traffic ⟨(s', t), #[]⟩) := ⟨hs, rfl, rfl⟩
  rw [Action.start_eq_outcome, Action.start_eq_outcome]
  exact (h.joins hwhole load).fill (fun _ _ => id) h.sectorSize hw

end Device.Resembles

/-! ## The file -/

namespace Host

variable {t t' : Tree} {p : Place} {n size : Nat} {tail disk : ByteArray}

/-- The file at a place has the bytes of a disk of this size, and behind them the
tail; everything else is as it was in `t`. -/
structure FileHolds (t : Tree) (p : Place) (size : Nat) (tail : ByteArray) (t' : Tree)
    (disk : ByteArray) : Prop where
  file : t'.get? p = some (.file (disk ++ tail))
  size_eq : disk.size = size
  other : ∀ q, q ≠ p → t'.get? q = t.get? q

/-- The file is checked as the disk is. -/
theorem seek_eq (n size lba bytes : Nat) :
    seek n size lba bytes =
      (Device.checkTransfer n size lba bytes).map fun _ => lba * n := by
  unfold seek Device.checkTransfer
  by_cases hmod : bytes % n ≠ 0
  · rw [if_pos hmod, if_pos hmod]
    rfl
  · rw [if_neg hmod, if_neg hmod]
    by_cases hfits : lba * n + bytes ≤ size
    · rw [if_pos hfits, if_neg (by omega)]
      rfl
    · rw [if_neg hfits, if_pos (by omega)]
      rfl

theorem resembles_memory (t : Tree) (p : Place) (n size : Nat) (tail : ByteArray) :
    (fileDevice p n size).Resembles (Device.memory n) (FileHolds t p size tail) where
  sectorSize := rfl
  answer c t' disk h := by
    cases c with
    | flush => rfl
    | count => simp only [fileDevice, Device.memory, h.size_eq]
    | read lba bytes =>
        simp only [fileDevice, Device.memory, seek_eq, h.size_eq]
        cases hcheck : Device.checkTransfer n size lba bytes with
        | error e => rfl
        | ok _ =>
            obtain ⟨-, hle⟩ := Device.checkTransfer_eq_ok_iff.1 hcheck
            have hsize := h.size_eq
            simp only [Except.map, Tree.content_eq h.file,
              Bytes.slice_append_left (show lba * n + bytes ≤ disk.size by omega)]
    | write lba data =>
        simp only [fileDevice, Device.memory, seek_eq, h.size_eq]
        cases Device.checkTransfer n size lba data.size <;> rfl
  state c t' disk h := by
    cases c with
    | flush => exact h
    | count => exact h
    | read lba bytes =>
        simp only [fileDevice, Device.memory, seek_eq, h.size_eq]
        cases Device.checkTransfer n size lba bytes <;> exact h
    | write lba data =>
        simp only [fileDevice, Device.memory, seek_eq, h.size_eq]
        cases hcheck : Device.checkTransfer n size lba data.size with
        | error e => exact h
        | ok _ =>
            obtain ⟨-, hle⟩ := Device.checkTransfer_eq_ok_iff.1 hcheck
            have hsize := h.size_eq
            have hfits : lba * n + data.size ≤ disk.size := by omega
            refine ⟨?_, ?_, fun q hq => ?_⟩
            · rw [← Bytes.overwrite_append_left hfits]
              exact Tree.get?_patch_self h.file _ _
            · rw [← h.size_eq]
              exact Bytes.size_overwrite hfits
            · exact (Tree.get?_patch_of_ne hq _ _).trans (h.other q hq)

/-- A read of a file is whole, unless the file has become shorter. -/
theorem size_of_fileDevice_read {bytes data : ByteArray} {lba k : Nat}
    (hfile : t.get? p = some (.file bytes)) (hsize : size ≤ bytes.size)
    (h : (fileDevice p n size).answer (.read lba k) t = (.ok data, t')) : data.size = k := by
  simp only [fileDevice, seek_eq, Tree.content_eq hfile] at h
  cases hcheck : Device.checkTransfer n size lba k with
  | error e =>
      rw [hcheck] at h
      cases h
  | ok _ =>
      rw [hcheck] at h
      cases h
      obtain ⟨-, hle⟩ := Device.checkTransfer_eq_ok_iff.1 hcheck
      simp only [Bytes.size_slice]
      omega

/-- Nothing but a write changes the files, and what it changes is in front of `size`. -/
theorem state_fileDevice_answer (p : Place) (n size : Nat) (c : Call) (t : Tree) :
    ((fileDevice p n size).answer c t).2 = t ∨ ∃ lba data, c = .write lba data ∧
      lba * n + data.size ≤ size ∧
      ((fileDevice p n size).answer c t).2 = t.patch p (lba * n) data := by
  cases c with
  | count => exact Or.inl rfl
  | flush => exact Or.inl rfl
  | read lba k =>
      simp only [fileDevice, seek_eq]
      cases Device.checkTransfer n size lba k <;> exact Or.inl rfl
  | write lba data =>
      simp only [fileDevice, seek_eq]
      cases hcheck : Device.checkTransfer n size lba data.size with
      | error e => exact Or.inl rfl
      | ok _ =>
          obtain ⟨-, hle⟩ := Device.checkTransfer_eq_ok_iff.1 hcheck
          exact Or.inr ⟨lba, data, rfl, hle, rfl⟩

/-- A file that is there is opened as the device of its whole sectors. -/
theorem outcome_openImage {path : String} {bytes : ByteArray} {w : World Tree}
    (hfile : w.state.findFile path = .ok (p, bytes)) (hleast : leastSectorSize ≤ n) :
    ∃ w₁, (openImage path n).outcome w =
      (.ok (fileDevice p n (bytes.size - bytes.size % n)), w₁) ∧ w₁.traffic = w.traffic := by
  have hget : (get : Action Tree ImageFileError (World Tree)).outcome w = (.ok w, w) := rfl
  have hbytes : (Action.ofExcept ((w.state.findFile path).mapError (.cannotOpen path)) :
      Action Tree ImageFileError _).outcome w = (.ok (p, bytes), w) := by
    rw [hfile]
    rfl
  simp only [openImage, if_neg (Nat.not_lt.2 hleast)]
  rw [Action.outcome_bind_of_ok hget, Action.outcome_bind_of_ok hbytes]
  -- what fills no sector is told, and that is all
  split
  · exact ⟨_, rfl, World.traffic_push rfl⟩
  · exact ⟨_, rfl, rfl⟩

/-- A file that is not there is not opened. -/
theorem outcome_openImage_of_error {path : String} {why : HostError} {w : World Tree}
    (hfile : w.state.findFile path = .error why) (hleast : leastSectorSize ≤ n) :
    (openImage path n).outcome w = (.error (.cannotOpen path why), w) := by
  have hget : (get : Action Tree ImageFileError (World Tree)).outcome w = (.ok w, w) := rfl
  simp only [openImage, if_neg (Nat.not_lt.2 hleast)]
  rw [Action.outcome_bind_of_ok hget]
  refine Action.outcome_bind_of_error ?_
  rw [hfile]
  rfl

/-- The bytes of the whole sectors of a file. -/
def wholeSectors (n : Nat) (bytes : ByteArray) : ByteArray :=
  bytes.extract 0 (bytes.size - bytes.size % n)

/-- What is behind the last whole sector of a file. -/
def partialSector (n : Nat) (bytes : ByteArray) : ByteArray :=
  bytes.extract (bytes.size - bytes.size % n) bytes.size

theorem size_wholeSectors (n : Nat) (bytes : ByteArray) :
    (wholeSectors n bytes).size = bytes.size - bytes.size % n := by
  rw [wholeSectors, ByteArray.size_extract]
  omega

theorem fileHolds_self {bytes : ByteArray} (h : t.get? p = some (.file bytes)) (n : Nat) :
    FileHolds t p (bytes.size - bytes.size % n) (partialSector n bytes) t
      (wholeSectors n bytes) where
  file := by
    rw [wholeSectors, partialSector, Bytes.extract_append_extract (Nat.sub_le _ _)]
    exact h
  size_eq := size_wholeSectors n bytes
  other _ _ := rfl

theorem checkDisk_wholeSectors (hleast : leastSectorSize ≤ n) (bytes : ByteArray) :
    Device.checkDisk n (wholeSectors n bytes) = .ok () := by
  rw [Device.checkDisk_eq_ok_iff, size_wholeSectors]
  exact ⟨hleast, Nat.mod_eq_zero_of_dvd (Nat.dvd_sub_mod _)⟩

/-- The device of a file does what a disk in memory with the whole sectors of the file
does, be it call by call or in a run, and all the while the file has the bytes of
the disk and behind them those that it had there at first. -/
structure ActsAsMemory (t : Tree) (p : Place) (bytes : ByteArray) (n : Nat)
    (device : Device Tree) : Prop where
  disk : Device.checkDisk n (wholeSectors n bytes) = .ok ()
  calls : ∀ calls, device.AnswerAlike (Device.memory n)
    (FileHolds t p (bytes.size - bytes.size % n) (partialSector n bytes)) calls t
    (wholeSectors n bytes)
  runs : ∀ (τ : Type) (l : Layout) (m : Manifest) (load : Loader τ) (aside : τ),
    ∃ r w₁ w₂, (fill (device.beside τ) l m load.source).start (t, aside) = (r, w₁) ∧
      (fill ((Device.memory n).beside τ) l m load.source).start
        (wholeSectors n bytes, aside) = (r, w₂) ∧
      FileHolds t p (bytes.size - bytes.size % n) (partialSector n bytes) w₁.state.1
        w₂.state.1 ∧ w₁.calls = w₂.calls

/-- Any file that is there can be opened, and it is as good as a disk in memory. -/
theorem openImage_actsAsMemory {path : String} {bytes : ByteArray}
    (hfile : t.findFile path = .ok (p, bytes)) (hleast : leastSectorSize ≤ n) :
    ∃ device w, (openImage path n).start t = (.ok device, w) ∧ w.state = t ∧
      ActsAsMemory t p bytes n device := by
  have hresembles := resembles_memory t p n (bytes.size - bytes.size % n)
    (partialSector n bytes)
  have hholds := fileHolds_self (Tree.get?_of_findFile hfile) n
  obtain ⟨w, hopen, hw⟩ := outcome_openImage (w := ⟨t, #[]⟩) hfile hleast
  rw [← Action.start_eq_outcome] at hopen
  refine ⟨_, w, hopen, congrArg Traffic.state hw, checkDisk_wholeSectors hleast bytes,
    fun calls => hresembles.answerAlike calls hholds, fun τ l m load aside => ?_⟩
  obtain ⟨r, w₁, w₂, hx, hy, hfile₁, -, hcalls⟩ := hresembles.fill (l := l) (m := m)
    (Device.readsWhole_memory n) load hholds aside
  exact ⟨r, w₁, w₂, hx, hy, hfile₁, hcalls⟩

/-- A file of five sectors and 70 bytes. -/
theorem openImage_actsAsMemory_fiveSectors :
    ∃ device w, (openImage "d" 512).start
        ⟨["srv"], [(["srv"], .directory), (["srv", "d"], .file (Bytes.zeros 2630))]⟩ =
        (.ok device, w) ∧
      w.state =
        ⟨["srv"], [(["srv"], .directory), (["srv", "d"], .file (Bytes.zeros 2630))]⟩ ∧
      ActsAsMemory
        ⟨["srv"], [(["srv"], .directory), (["srv", "d"], .file (Bytes.zeros 2630))]⟩
        ["srv", "d"] (Bytes.zeros 2630) 512 device := by
  have hfile : ∀ b, (⟨["srv"], [(["srv"], .directory), (["srv", "d"], .file b)]⟩ :
      Tree).findFile "d" = .ok (["srv", "d"], b) := by
    intro b
    cbv
  exact openImage_actsAsMemory (hfile (Bytes.zeros 2630)) (by decide)

end Host

end FatImage
