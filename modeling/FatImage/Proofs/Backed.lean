import FatImage.Device.Memory
import FatImage.Device.Refusing
import FatImage.Proofs.Ends

/-!
# Devices that keep a disk

The layers above the device never learn what its state is. A proof about
them has to know one thing only: somewhere in the state there is the array
of bytes that a disk in memory would have, a call that is carried out does
to it what it does to a disk in memory, and a call that is refused does
nothing. `Device.Keeps` says this. It covers the disk in memory itself, the
same disk with any plan of failures, and either of them in a machine that
has other things beside its disk; so what is proved for a device that keeps
a disk is proved once for all of them.

The proposition `faulty` is what a refusal of a proper call implies. For a
disk in memory it is `False`, and the statements about failures turn into
statements that nothing fails.
-/

namespace FatImage

variable {σ τ φ : Type} {ε α : Type}

/-! ## What a proof watches of a world -/

/-- The name, size and first cluster of a file that was reported as placed. -/
abbrev Placing := ShortName × UInt32 × UInt16

/-- The file whose placement an event reports, if it does. -/
def Event.placed? : Event → Option Placing
  | .notice (.placed name size cluster) => some (name, size, cluster)
  | _ => none

/-- The files that the journal reports as placed, in order. -/
def World.placed (w : World σ) : List Placing :=
  w.journal.toList.filterMap Event.placed?

/-- The bytes of the disk, what the state has beside them, and what the
journal reports as placed. -/
structure View (τ : Type) where
  disk : ByteArray
  aside : τ
  placed : List Placing

/-- A world, looked at through its disk. -/
def World.view (look : σ → ByteArray × τ) (w : World σ) : View τ :=
  ⟨(look w.state).1, (look w.state).2, w.placed⟩

theorem World.view_push {look : σ → ByteArray × τ} {s s' : σ}
    {events : Array Event} {e : Event} (he : e.placed? = none)
    (hs : look s' = look s) :
    World.view look ⟨s', events.push e⟩ = World.view look ⟨s, events⟩ := by
  simp [World.view, World.placed, he, hs]

/-- An event that reports no placement is not seen. -/
theorem ends_quiet {look : σ → ByteArray × τ} {v : View τ} {e : Event}
    (he : e.placed? = none) :
    (Action.record e : Action σ ε Unit).Ends (World.view look) v
      (fun _ v' => v' = v) (fun _ _ => False) :=
  Action.ends_record fun w hw => by rw [← hw]; exact World.view_push he rfl

theorem ends_quiet_bind {look : σ → ByteArray × τ} {v : View τ} {e : Event}
    (he : e.placed? = none) {f : Unit → Action σ ε β} {post : β → View τ → Prop}
    {fail : ε → View τ → Prop} (h : (f ()).Ends (World.view look) v post fail) :
    Action.Ends (Action.record e >>= f) (World.view look) v post fail := by
  refine (ends_quiet he).bind ?_ (fun _ _ => False.elim)
  intro _ v' hv'
  rw [hv']
  exact h

theorem ends_placed {look : σ → ByteArray × τ} {v : View τ} {name : ShortName}
    {size : UInt32} {cluster : UInt16} :
    (Action.note (.placed name size cluster) : Action σ ε Unit).Ends
      (World.view look) v
      (fun _ v' => v' = { v with placed := v.placed ++ [(name, size, cluster)] })
      (fun _ _ => False) :=
  Action.ends_record fun w hw => by
    rw [← hw]
    simp [World.view, World.placed, Event.placed?]

/-! ## Keeping a disk -/

namespace Device

/-- `d` keeps a disk, which `look` finds in its state beside other things. A
call that `d` carries out does what it does on a disk in memory, and a call
that it refuses does nothing; a `d` that is not `faulty` refuses only what a
disk in memory refuses. -/
structure Keeps (d : Device σ) (look : σ → ByteArray × τ) (faulty : Prop) :
    Prop where
  done : ∀ {c : Call} {s s' : σ} {a : c.Answer}, d.answer c s = (.ok a, s') →
    (memory d.sectorSize).answer c (look s).1 = (.ok a, (look s').1) ∧
      (look s').2 = (look s).2
  refused : ∀ {c : Call} {s s' : σ} {e : Refusal},
    d.answer c s = (.error e, s') → look s' = look s ∧
      (faulty ∨ ∃ e', (memory d.sectorSize).answer c (look s).1 =
        (.error e', (look s).1))

variable {d : Device σ} {look : σ → ByteArray × τ} {faulty : Prop}

theorem Keeps.ends_ask (h : d.Keeps look faulty) {c : Call} {v : View τ}
    {a : c.Answer} {b : ByteArray}
    (hc : (memory d.sectorSize).answer c v.disk = (.ok a, b)) :
    (d.ask c).Ends (World.view look) v
      (fun a' v' => a' = a ∧ v' = { v with disk := b })
      (fun _ v' => faulty ∧ v' = v) := by
  rintro ⟨s, events⟩ rfl
  change (memory d.sectorSize).answer c (look s).1 = (.ok a, b) at hc
  unfold ask
  cases hd : d.answer c s with
  | mk r s' =>
      cases r with
      | ok a' =>
          obtain ⟨hm, haside⟩ := h.done hd
          rw [hc, Prod.mk.injEq, Except.ok.injEq] at hm
          simp only [hd]
          refine ⟨hm.1.symm, ?_⟩
          simp [World.view, World.placed, Event.placed?, haside, hm.2]
      | error e =>
          obtain ⟨hlook, hwhy⟩ := h.refused hd
          simp only [hd]
          refine ⟨hwhy.resolve_right fun ⟨e', he⟩ => ?_, World.view_push rfl hlook⟩
          rw [hc] at he
          cases he

/-- A call that a disk in memory carries out: the device does the same, or
fails because it is faulty. -/
theorem Keeps.ends_perform (h : d.Keeps look faulty) {c : Call} {v : View τ}
    {a : c.Answer} {b : ByteArray}
    (hc : (memory d.sectorSize).answer c v.disk = (.ok a, b)) :
    (d.perform c).Ends (World.view look) v
      (fun a' v' => a' = a ∧ v' = { v with disk := b })
      (fun e v' => (e = .deviceFailed ∧ faulty) ∧ v' = v) := by
  refine (h.ends_ask hc).attempt_bind (fun _ _ hv' => Action.ends_pure hv') ?_
  intro why v' hv'
  exact ends_quiet_bind rfl (Action.ends_throw ⟨⟨rfl, hv'.1⟩, hv'.2⟩)

/-! ## The devices that keep a disk -/

section

variable {sectorSize lba n : Nat} {data disk disk' : ByteArray}

theorem checkDisk_eq_ok_iff :
    checkDisk sectorSize disk = .ok () ↔
      leastSectorSize ≤ sectorSize ∧ disk.size % sectorSize = 0 := by
  unfold checkDisk
  split
  · next hlt => exact ⟨nofun, fun h => absurd h.1 (Nat.not_le.2 hlt)⟩
  · next hle =>
      split
      · next hmod => exact ⟨nofun, fun h => absurd h.2 hmod⟩
      · next hmod => exact ⟨fun _ => ⟨Nat.not_lt.1 hle, Decidable.not_not.1 hmod⟩, fun _ => rfl⟩

theorem checkTransfer_eq_ok_iff {size : Nat} :
    checkTransfer sectorSize size lba n = .ok () ↔
      n % sectorSize = 0 ∧ lba * sectorSize + n ≤ size := by
  unfold checkTransfer
  split
  · next hn => exact ⟨nofun, fun h => absurd h.1 hn⟩
  · next hn =>
      split
      · next hlt => exact ⟨nofun, fun h => absurd h.2 (Nat.not_le.2 hlt)⟩
      · next hle => exact ⟨fun _ => ⟨by omega, by omega⟩, fun _ => rfl⟩

theorem memory_read_eq_ok_iff :
    (memory sectorSize).answer (.read lba n) disk = (.ok data, disk') ↔
      (n % sectorSize = 0 ∧ lba * sectorSize + n ≤ disk.size) ∧
      data = Bytes.slice disk (lba * sectorSize) n ∧ disk' = disk := by
  rw [← checkTransfer_eq_ok_iff]
  simp only [memory]
  cases checkTransfer sectorSize disk.size lba n with
  | error e => exact ⟨nofun, fun h => by cases h.1⟩
  | ok _ =>
      constructor
      · intro h
        cases h
        exact ⟨rfl, rfl, rfl⟩
      · rintro ⟨-, rfl, rfl⟩
        rfl

theorem memory_write_eq_ok_iff {a : Unit} :
    (memory sectorSize).answer (.write lba data) disk = (.ok a, disk') ↔
      (data.size % sectorSize = 0 ∧ lba * sectorSize + data.size ≤ disk.size) ∧
      disk' = Bytes.overwrite disk (lba * sectorSize) data := by
  rw [← checkTransfer_eq_ok_iff]
  simp only [memory]
  cases checkTransfer sectorSize disk.size lba data.size with
  | error e => exact ⟨nofun, fun h => by cases h.1⟩
  | ok _ =>
      constructor
      · intro h
        cases h
        exact ⟨rfl, rfl⟩
      · rintro ⟨-, rfl⟩
        rfl

/-- A disk in memory that refuses a call is left as it was. -/
theorem memory_refused {c : Call} {why : Refusal}
    (h : (memory sectorSize).answer c disk = (.error why, disk')) : disk' = disk := by
  cases c with
  | count | flush => cases h
  | read lba n =>
      simp only [memory] at h
      split at h
      · cases h; rfl
      · cases h
  | write lba data =>
      simp only [memory] at h
      split at h
      · cases h; rfl
      · cases h

end

theorem keeps_memory (sectorSize : Nat) :
    (memory sectorSize).Keeps (fun disk => (disk, ())) False where
  done h := ⟨h, rfl⟩
  refused {c s s' e} h := by
    obtain rfl := memory_refused h
    exact ⟨rfl, Or.inr ⟨e, h⟩⟩

/-- A plan of failures that tells the true size of the disk, whenever it tells
a size, makes the device faulty if it refuses any call, and does nothing else. -/
theorem Keeps.refusing {d : Device σ} {look : σ → ByteArray × τ} {faulty : Prop}
    (h : d.Keeps look faulty) {plan : FaultPlan φ}
    (honest : ∀ m, plan.claims m = none) :
    (d.refusing plan).Keeps (fun s => look s.1)
      (faulty ∨ ∃ c m, (plan.refuses c m).1 = true) where
  done {c s s' a} hd := by
    obtain ⟨s, m⟩ := s
    simp only [Device.refusing] at hd
    split at hd
    · cases hd
    · split at hd
      · cases hd
      · next s₁ ha =>
          rw [honest] at hd
          cases c <;> cases hd <;> exact h.done ha
  refused {c s s' e} hd := by
    obtain ⟨s, m⟩ := s
    simp only [Device.refusing] at hd
    split at hd
    · next m' hm =>
        cases hd
        exact ⟨rfl, Or.inl (Or.inr ⟨c, m, by rw [hm]⟩)⟩
    · split at hd
      · next e' s₁ he =>
          cases hd
          exact ⟨(h.refused he).1, (h.refused he).2.imp_left Or.inl⟩
      · rw [honest] at hd
        cases c <;> cases hd

/-- The device `d` in a machine that also has a `τ`, of which `d` knows
nothing. -/
def beside (d : Device σ) (τ : Type) : Device (σ × τ) where
  medium := d.medium
  sectorSize := d.sectorSize
  answer c
    | (s, t) => ((d.answer c s).1, (d.answer c s).2, t)

theorem Keeps.beside {d : Device σ} {look : σ → ByteArray × φ} {faulty : Prop}
    (h : d.Keeps look faulty) (τ : Type) :
    (d.beside τ).Keeps (fun s => ((look s.1).1, s.2)) faulty where
  done {c s s' a} hd := by
    simp only [Device.beside, Prod.mk.injEq] at hd
    obtain ⟨ha, hs⟩ := hd
    subst hs
    exact ⟨(h.done (Prod.ext ha rfl)).1, rfl⟩
  refused {c s s' e} hd := by
    simp only [Device.beside, Prod.mk.injEq] at hd
    obtain ⟨he, hs⟩ := hd
    subst hs
    obtain ⟨hlook, hwhy⟩ := h.refused (Prod.ext he rfl)
    exact ⟨by rw [hlook], hwhy⟩

end Device

end FatImage
