import FatImage.Proofs.Mount

/-!
# An image is a flat array

Whoever works on an image may forget that it is made of sectors. What a
read, a write or a zeroing of a range does is said here on a list of bytes,
with `take`, `drop` and `++` and nothing else, and whatever calls are made
one after the other, the image answers what the list answers and holds what
the list holds.

A call that would leave the image is refused before anything else happens:
the device is not asked, so the world after the refusal is the world before
it. That is why a refusal in the middle does not disturb what follows.

Sectors are read into a scratch that goes from call to call. What is shown
here is shown for whatever was in it at first, so nothing that was left there
ever shows.
-/

namespace FatImage

variable {σ τ : Type} {look : σ → ByteArray × τ} {v : View τ}

/-- A call on an image. -/
inductive Access where
  | read (offset length : Nat)
  | write (offset : Nat) (data : ByteArray)
  | zero (offset length : Nat)

namespace Access

/-- The end of the range that a call is about. -/
def stop : Access → Nat
  | read offset length | zero offset length => offset + length
  | write offset data => offset + data.size

/-- The bytes that a call answers. -/
def answer (b : List UInt8) : Access → List UInt8
  | read offset length => (b.drop offset).take length
  | write _ _ | zero _ _ => []

/-- The bytes that a call leaves. -/
def change (b : List UInt8) : Access → List UInt8
  | read _ _ => b
  | write offset data => b.take offset ++ data.data.toList ++ b.drop (offset + data.size)
  | zero offset length =>
    b.take offset ++ List.replicate length 0 ++ b.drop (offset + length)

/-- A call on a list of bytes: it is refused and changes nothing if its range ends
behind the list. The end is told as a number of 64 bits. -/
def onFlat (b : List UInt8) (a : Access) : Except VolumeError (List UInt8) × List UInt8 :=
  if a.stop ≤ b.length then (.ok (a.answer b), a.change b)
  else (.error (.imageTooSmall (min a.stop Image.greatest) b.length), b)

theorem length_change {b : List UInt8} {a : Access} (h : a.stop ≤ b.length) :
    (a.change b).length = b.length := by
  cases a with
  | read offset length => rfl
  | write offset data =>
      have hdata : data.data.toList.length = data.size := Array.length_toList
      simp only [stop] at h
      simp only [change, List.length_append, List.length_take, List.length_drop, hdata]
      omega
  | zero offset length =>
      simp only [stop] at h
      simp only [change, List.length_append, List.length_take, List.length_drop,
        List.length_replicate]
      omega

theorem length_onFlat (b : List UInt8) (a : Access) :
    (a.onFlat b).2.length = b.length := by
  unfold onFlat
  split
  · next hfit => exact length_change hfit
  · next => rfl

end Access

/-! ## Bytes as a list -/

namespace Bytes

theorem toList_slice (b : ByteArray) (offset length : Nat) :
    (slice b offset length).data.toList = (b.data.toList.drop offset).take length := by
  rw [slice, ByteArray.data_extract, Array.toList_extract, List.extract_eq_take_drop,
    Nat.add_sub_cancel_left]

theorem toList_overwrite (b : ByteArray) (offset : Nat) (d : ByteArray) :
    (overwrite b offset d).data.toList =
      b.data.toList.take offset ++ d.data.toList ++ b.data.toList.drop (offset + d.size) := by
  have htail : b.data.toList.length - (offset + d.size) =
      (b.data.toList.drop (offset + d.size)).length := List.length_drop.symm
  rw [data_overwrite, Array.toList_append, Array.toList_append, Array.toList_extract,
    Array.toList_extract, List.extract_eq_take_drop, List.extract_eq_take_drop,
    List.drop_zero, Nat.sub_zero, ← Array.length_toList, htail, List.take_length]

theorem toList_zeros (n : Nat) : (zeros n).data.toList = List.replicate n 0 := by
  rw [data_zeros, Array.toList_replicate]

end Bytes

/-! ## One call, and any number of them -/

namespace Image

variable {img : Image σ}

/-- Makes a call on an image, and answers bytes and what the scratch is then; a write
answers no bytes. -/
def access (img : Image σ) (scratch : ByteArray) :
    Access → Action σ VolumeError (List UInt8 × ByteArray)
  | .read offset length => do
    let (bytes, scratch) ← img.readWith scratch offset length
    return (bytes.data.toList, scratch)
  | .write offset data => do
    let scratch ← img.writeWith scratch offset data
    return ([], scratch)
  | .zero offset length => do
    let scratch ← img.zeroWith scratch offset length
    return ([], scratch)

/-- The scratch after a call. One that is refused has not come to it. -/
def scratchAfter (scratch : ByteArray) :
    Except VolumeError (List UInt8 × ByteArray) → ByteArray
  | .ok answer => answer.2
  | .error _ => scratch

/-- The image holds `b`, and whatever is called next, it answers and holds what the
list does, with the scratch that the call before has left. A call that is refused leaves
the world as it was. -/
def Follows (img : Image σ) (disk : σ → ByteArray) :
    (scratch : ByteArray) → List UInt8 → List Access → World σ → Prop
  | _, b, [], w => (disk w.state).data.toList = b
  | scratch, b, a :: rest, w => (disk w.state).data.toList = b ∧
    ∃ r w', (img.access scratch a).outcome w = (r, w') ∧ r.map Prod.fst = (a.onFlat b).1 ∧
      (b.length < a.stop → w' = w) ∧
      img.Follows disk (scratchAfter scratch r) (a.onFlat b).2 rest w'

theorem Backed.access (h : img.Backed look False) (hv : img.length ≤ v.disk.size)
    (scratch : ByteArray) {a : Access} (hfit : a.stop ≤ img.length) :
    (img.access scratch a).Ends (World.view look) v
      (fun answer v' => answer.1 = a.answer v.disk.data.toList ∧
        v'.disk.data.toList = a.change v.disk.data.toList)
      (fun _ _ => False) := by
  cases a with
  | read offset length =>
      have hread := h.readAt hv hfit
      rw [← map_readWith scratch] at hread
      refine (Action.ends_map_iff.1 hread).bind ?_ (fun _ _ he => he.1.2)
      rintro ⟨bytes, scratch'⟩ _ ⟨rfl, rfl⟩
      exact Action.ends_pure ⟨Bytes.toList_slice .., rfl⟩
  | write offset data =>
      have hwrite := h.writeAt hv hfit
      rw [← map_writeWith scratch] at hwrite
      refine (Action.ends_map_iff.1 hwrite).bind ?_ (fun _ _ he => he.1.2)
      rintro scratch' _ rfl
      exact Action.ends_pure ⟨rfl, Bytes.toList_overwrite ..⟩
  | zero offset length =>
      have hzero := h.zeroRange hv hfit
      rw [← map_zeroWith scratch] at hzero
      refine (Action.ends_map_iff.1 hzero).bind ?_ (fun _ _ he => he.1.2)
      rintro scratch' _ rfl
      refine Action.ends_pure ⟨rfl, ?_⟩
      rw [Access.change, Bytes.toList_overwrite, Bytes.toList_zeros, Bytes.size_zeros]

/-- A call whose range ends behind the image ends before anything is done. -/
theorem outcome_access_of_lt (hcounted : img.length < greatest) (scratch : ByteArray)
    {a : Access} (hlong : img.length < a.stop) (w : World σ) :
    (img.access scratch a).outcome w =
      (.error (.imageTooSmall (min a.stop greatest) img.length), w) := by
  have hcheck : ∀ o n, o + n = a.stop → img.checkRange o n =
      .error (.imageTooSmall (min a.stop greatest) img.length) := by
    rintro o n hstop
    rw [checkRange_eq_error_iff, hstop]
    exact ⟨by omega, rfl⟩
  have hfits : ∀ o n, o + n = a.stop → (img.ensureFits o n).outcome w =
      (.error (.imageTooSmall (min a.stop greatest) img.length), w) := by
    intro o n hstop
    rw [ensureFits, hcheck o n hstop]
    rfl
  cases a with
  | read offset length =>
      exact Action.outcome_bind_of_error (Action.outcome_bind_of_error (hfits _ _ rfl))
  | write offset data =>
      exact Action.outcome_bind_of_error (Action.outcome_bind_of_error (hfits _ _ rfl))
  | zero offset length =>
      exact Action.outcome_bind_of_error (Action.outcome_bind_of_error (hfits _ _ rfl))

/-- A call does on the image what it does on the list. -/
theorem Backed.outcome_access (h : img.Backed look False) (scratch : ByteArray) (a : Access)
    {w : World σ} {b : List UInt8} (hb : (look w.state).1.data.toList = b)
    (hlength : img.length = b.length) :
    ∃ r w', (img.access scratch a).outcome w = (r, w') ∧ r.map Prod.fst = (a.onFlat b).1 ∧
      (b.length < a.stop → w' = w) ∧ (look w'.state).1.data.toList = (a.onFlat b).2 := by
  subst hb
  rw [Access.onFlat]
  split
  · next hfit =>
      rw [← hlength] at hfit
      have hv : img.length ≤ (World.view look w).disk.size := by
        rw [hlength]
        exact Nat.le_of_eq Array.length_toList
      obtain ⟨answer, w', hok, hanswer, hdisk⟩ := (h.access hv scratch hfit).exists_ok rfl
      exact ⟨.ok answer, w', Action.outcome_eq_ok.2 hok, congrArg Except.ok hanswer,
        fun hlt => by omega, hdisk⟩
  · next hlong =>
      have hrefused := outcome_access_of_lt h.counted scratch (a := a) (by omega) w
      rw [hlength] at hrefused
      exact ⟨_, w, hrefused, rfl, fun _ => rfl, rfl⟩

theorem Backed.follows (h : img.Backed look False) (scratch : ByteArray)
    (accesses : List Access) {w : World σ} {b : List UInt8}
    (hb : (look w.state).1.data.toList = b) (hlength : img.length = b.length) :
    img.Follows (fun s => (look s).1) scratch b accesses w := by
  induction accesses generalizing scratch b w with
  | nil => exact hb
  | cons a rest ih =>
      obtain ⟨r, w', hx, hanswer, hrefused, hdisk⟩ := h.outcome_access scratch a hb hlength
      exact ⟨hb, r, w', hx, hanswer, hrefused,
        ih _ hdisk (by rw [hlength, Access.length_onFlat])⟩

end Image

/-- On a disk in memory every sequence of calls goes as on the list of its bytes,
whatever is in the scratch before the first of them. -/
theorem access_memory_follows {sectorSize : Nat} {disk : ByteArray}
    (hdisk : Device.checkDisk sectorSize disk = .ok ())
    (hcounted : disk.size < Image.greatest) (accesses : List Access) :
    ∃ img w, (Image.ofDevice (Device.memory sectorSize) sectorSize).start disk = (.ok img, w) ∧
      img.length = disk.size ∧
      ∀ scratch, img.Follows (fun s => s) scratch disk.data.toList accesses w := by
  obtain ⟨hleast, hwhole⟩ := Device.checkDisk_eq_ok_iff.1 hdisk
  have hopened := (@Image.ends_ofDevice _ _ _ _ ⟨disk, (), []⟩ _
    (Device.keeps_memory sectorSize) hcounted sectorSize).mono (fun _ _ hv' => hv')
    (fun _ _ hv' => hv'.2.elim id fun hsize => hsize ⟨hleast, rfl⟩)
  obtain ⟨img, w, hok, hview, hbacked, -, hlength, -⟩ :=
    hopened.exists_ok (w := ⟨disk, #[]⟩) rfl
  have hstate : w.state = disk := congrArg View.disk hview
  have hsize : img.length = disk.size := by
    rw [hlength]
    exact Nat.div_mul_cancel (Nat.dvd_of_mod_eq_zero hwhole)
  refine ⟨img, w, Action.start_eq_ok.2 hok, hsize, fun scratch => ?_⟩
  refine hbacked.follows scratch accesses ?_ ?_
  · rw [hstate]
  · rw [hsize]
    exact Array.length_toList.symm

/-- Sectors of 700 bytes, a write across three of them, and calls that end behind
the image. -/
theorem access_memory_follows_threeSectors :
    Device.checkDisk 700 (Bytes.zeros 2100) = .ok () ∧
    (Bytes.zeros 2100).size < Image.greatest ∧
    ∃ img w, (Image.ofDevice (Device.memory 700) 700).start (Bytes.zeros 2100) = (.ok img, w) ∧
      img.length = (Bytes.zeros 2100).size ∧
      ∀ scratch, img.Follows (fun s => s) scratch (Bytes.zeros 2100).data.toList
        [.write 690 (Bytes.zeros 750), .read 2100 1, .zero 699 702, .read 1400 700,
          .write Image.greatest .empty] w := by
  have hdisk : Device.checkDisk 700 (Bytes.zeros 2100) = .ok () := by
    rw [Device.checkDisk, Bytes.size_zeros]
    decide
  have hcounted : (Bytes.zeros 2100).size < Image.greatest := by
    rw [Bytes.size_zeros]
    decide
  exact ⟨hdisk, hcounted, access_memory_follows hdisk hcounted _⟩

end FatImage
