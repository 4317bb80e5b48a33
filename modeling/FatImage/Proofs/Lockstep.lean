import FatImage.Proofs.Traffic

/-!
# Machines that go on together

Two machines that answer every call and every load the same, and stay
together by it, never come apart. Then they do so in a whole run as well,
from the count of the sectors to the flush: `Joins.fill`.

How they are together is left to the coupling. It may be that the one keeps
in a file what the other keeps in memory, or that the same machine is run
twice with other things told before, which is `retold`. What a single machine
maintains goes the same way through a run: `ends_fill`.
-/

namespace FatImage

variable {ρ σ σ' : Type} {l : Layout} {m : Manifest}

namespace Volume

/-- The volume of so many sectors on a device. -/
def ofSectors (d : Device σ) (l : Layout) (hsize : 0 < l.sectorSize) (sectors : Nat) :
    Volume σ where
  image := {
    device := d
    sectorSize := l.sectorSize
    length := min (sectors * l.sectorSize) Image.greatest
    sectorSize_pos := hsize }
  layout := l

/-- What is left of filling a volume when its size is known. -/
def runChecked (vol : Volume σ) (m : Manifest) (source : Source σ) :
    Action σ VolumeError Report := do
  vol.image.ensureFits 0 vol.layout.dataOffset
  Action.note (.opened vol.image.length vol.layout)
  vol.run m source

end Volume

theorem fill_eq {d : Device σ} {source : Source σ} (hsize : 0 < l.sectorSize)
    (h : leastSectorSize ≤ l.sectorSize ∧ l.sectorSize = d.sectorSize) :
    fill d l m source = d.perform .count >>= fun sectors =>
      (Volume.ofSectors d l hsize sectors).runChecked m source := by
  rw [fill, Volume.mount, Volume.ofDevice, Image.ofDevice, dif_pos h]
  simp only [bind_assoc, pure_bind]
  rfl

theorem fill_eq_throw {d : Device σ} {source : Source σ}
    (h : ¬ (leastSectorSize ≤ l.sectorSize ∧ l.sectorSize = d.sectorSize)) (w : World σ) :
    (fill d l m source).outcome w = (.error .wrongSectorSize, w) := by
  have hopened : (Volume.ofDevice d l).outcome w = (.error .wrongSectorSize, w) := by
    rw [Volume.ofDevice, Image.ofDevice, dif_neg h]
    rfl
  exact Action.outcome_bind_of_error (Action.outcome_bind_of_error hopened)

/-- A source is asked for the entries of the manifest and no others. -/
theorem Volume.placeAll_congr {vol : Volume σ} {source source' : Source σ} {es : List Entry}
    (h : ∀ e ∈ es, source e = source' e) (report : Report) :
    vol.placeAll source report es = vol.placeAll source' report es := by
  induction es generalizing report with
  | nil => rfl
  | cons e rest ih =>
      have hrest := ih fun e' he' => h e' (List.mem_cons_of_mem _ he')
      unfold Volume.placeAll
      rw [h e List.mem_cons_self]
      simp only [hrest]

theorem fill_congr {d : Device σ} {source source' : Source σ}
    (h : ∀ e ∈ m.entries, source e = source' e) : fill d l m source = fill d l m source' := by
  simp only [fill, Volume.run, Volume.placeAll_congr h]

/-- What the machine maintains is maintained from the count of the sectors to the flush. -/
theorem ends_fill {machine : Machine σ} {allowed : Call → Prop} {inv : Traffic σ → Prop}
    {v : Traffic σ} (hm : machine.Maintains allowed inv) (hcount : allowed .count)
    (hflush : allowed .flush)
    (hallows : ∀ hsize sectors,
      (Volume.ofSectors machine.device l hsize sectors).image.Allows l allowed)
    (hv : inv v) :
    (fill machine.device l m machine.source).Ends World.traffic v (fun _ => inv)
      (fun _ => inv) := by
  by_cases hsector : leastSectorSize ≤ l.sectorSize ∧ l.sectorSize = machine.device.sectorSize
  · have hsize : 0 < l.sectorSize := Nat.lt_of_lt_of_le (by decide) hsector.1
    rw [fill_eq hsize hsector]
    refine (hm.ends_perform hcount hv).bind ?_ (fun _ _ he => he)
    intro sectors v₁ hv₁
    refine Action.ends_ofExcept_bind (fun _ _ => ?_) (fun _ _ => hv₁.2)
    refine (ends_untold rfl).bind ?_ (fun _ _ => False.elim)
    rintro _ _ rfl
    have hrun := Volume.ends_run (m := m) hm (hallows hsize sectors)
      (fun _ hv₂ => (hm.ends_perform hflush hv₂).mono (fun _ _ h => h.2) (fun _ _ h => h)) hv₁.2
    exact hrun
  · exact Action.ends_of_outcome fun w hw =>
      ⟨_, w, fill_eq_throw hsector w, nofun, fun _ _ => by rw [hw]; exact hv⟩

namespace Coupling

variable {C : Coupling σ σ'} {here : Machine σ} {there : Machine σ'}

/-- No machine ever stops before the other. -/
def Steady (C : Coupling σ σ') : Prop :=
  ∀ v v', ¬ C.apart v v'

theorem Ended.same {α : Type} {x : Action σ VolumeError α} {y : Action σ' VolumeError α}
    {w : World σ} {w' : World σ'} (h : C.Ended x y w w') (hsteady : C.Steady) :
    ∃ r w₁ w₁', x.outcome w = (r, w₁) ∧ y.outcome w' = (r, w₁') ∧
      C.together w₁.traffic w₁'.traffic := by
  cases h with
  | both hx hy h => exact ⟨_, _, _, hx, hy, h⟩
  | first _ _ h => exact absurd h (hsteady _ _)

theorem Steady.bind {α β : Type} (hsteady : C.Steady) {x : Action σ VolumeError α}
    {y : Action σ' VolumeError α} {f : α → Action σ VolumeError β}
    {g : α → Action σ' VolumeError β} {w : World σ} {w' : World σ'}
    (h : C.Ended x y w w')
    (hf : ∀ a w₁ w₁', C.together w₁.traffic w₁'.traffic → C.Ended (f a) (g a) w₁ w₁') :
    C.Ended (x >>= f) (y >>= g) w w' :=
  h.bind (fun a w₁ w₁' _ => hf a w₁ w₁') (fun _ _ _ _ hv => absurd hv (hsteady _ _))

variable {w : World σ} {w' : World σ'}

theorem Joins.run (hC : C.Joins here there fun _ => True) (hsteady : C.Steady)
    (vol : Volume ρ) (hw : C.together w.traffic w'.traffic) :
    C.Ended ((vol.on here.device).run m here.source)
      ((vol.on there.device).run m there.source) w w' := by
  obtain ⟨r, w₁, w₁', hx, hy, hw₁⟩ :=
    ((Volume.alike_runUnflushed Image.allows_true m).coupled hC hw).same hsteady
  obtain ⟨flushed, w₂, w₂', hflush, hflush', hw₂⟩ :=
    (hC.transfer (c := .flush) trivial hw₁).same hsteady
  exact .both (Volume.outcome_run hx hflush) (Volume.outcome_run hy hflush') hw₂

theorem Joins.runChecked (hC : C.Joins here there fun _ => True) (hsteady : C.Steady)
    (vol : Volume ρ) (hw : C.together w.traffic w'.traffic) :
    C.Ended ((vol.on here.device).runChecked m here.source)
      ((vol.on there.device).runChecked m there.source) w w' := by
  have hcheck := (Alike.ofExcept (vol.image.checkRange 0 vol.layout.dataOffset)).coupled hC hw
  refine hsteady.bind hcheck fun _ w₁ w₁' hw₁ => ?_
  have hnote := (Alike.record (.notice (.opened vol.image.length vol.layout)) rfl).coupled
    hC hw₁
  exact hsteady.bind hnote fun _ _ _ hw₂ => hC.run hsteady vol hw₂

/-- Both machines fill what they have in the same way. -/
theorem Joins.fill (hC : C.Joins here there fun _ => True) (hsteady : C.Steady)
    (hsector : here.device.sectorSize = there.device.sectorSize)
    (hw : C.together w.traffic w'.traffic) :
    ∃ r w₁ w₁', (fill here.device l m here.source).outcome w = (r, w₁) ∧
      (fill there.device l m there.source).outcome w' = (r, w₁') ∧
      C.together w₁.traffic w₁'.traffic := by
  by_cases hsize : leastSectorSize ≤ l.sectorSize ∧ l.sectorSize = there.device.sectorSize
  · have hpos : 0 < l.sectorSize := Nat.lt_of_lt_of_le (by decide) hsize.1
    rw [fill_eq hpos hsize, fill_eq hpos (by rw [hsector]; exact hsize)]
    refine Ended.same (hsteady.bind (hC.transfer (c := .count) trivial hw) ?_) hsteady
    intro sectors _ _ hw₁
    exact hC.runChecked hsteady (Volume.ofSectors there.device l hpos sectors) hw₁
  · exact ⟨_, _, _, fill_eq_throw (by rw [hsector]; exact hsize) _, fill_eq_throw hsize _, hw⟩

end Coupling

/-! ## What was told before -/

/-- A source that is not interested in the journal. -/
def Source.Unread (source : Source σ) : Prop :=
  ∀ e {w w' : World σ}, w.traffic = w'.traffic → ∃ r w₁ w₁',
    (source e).outcome w = (r, w₁) ∧ (source e).outcome w' = (r, w₁') ∧
    w₁.traffic = w₁'.traffic

/-- Twice the same machine, which may have told other things. -/
def Coupling.retold (inv : Traffic σ → Prop) : Coupling σ σ where
  together v v' := v = v' ∧ inv v'
  apart _ _ := False

variable {machine : Machine σ} {inv : Traffic σ → Prop}

theorem Coupling.joins_retold (hm : machine.Maintains (fun _ => True) inv)
    (hsource : machine.source.Unread) :
    (Coupling.retold inv).Joins machine machine fun _ => True where
  transfer {c w w'} _ hw := by
    obtain ⟨htraffic, hinv⟩ : w.traffic = w'.traffic ∧ inv w'.traffic := hw
    have hstate : w.state = w'.state := congrArg Traffic.state htraffic
    have hcalls : w.calls = w'.calls := congrArg Traffic.calls htraffic
    have hanswer : (machine.device.answer c w.state).1 = (machine.device.answer c w'.state).1 := by
      rw [hstate]
    obtain ⟨r, w₁, w₁', done, hx, hy, hw₁, hw₁'⟩ := Device.outcome_perform_of_eq hanswer
    have hkept := ((hm.ends_perform (c := c) trivial hinv).mono (fun _ _ h => h.2)
      (fun _ _ h => h)).of_outcome rfl hy
    exact .both hx hy ⟨by rw [hw₁, hw₁', hstate, hcalls], hkept⟩
  load {e w w'} hw := by
    obtain ⟨r, w₁, w₁', hx, hy, hw₁⟩ := hsource e hw.1
    have hkept := (hm.load hw.2).of_outcome rfl hy
    exact .both (Action.outcome_attempt hx) (Action.outcome_attempt hy) ⟨hw₁, hkept⟩
  whole hv hd := hm.whole hv.2 hd
  alone _ := .never

/-- What was told before a run does not matter. -/
theorem fill_retold (hm : machine.Maintains (fun _ => True) inv)
    (hsource : machine.source.Unread) {w w' : World σ} (hw : w.traffic = w'.traffic)
    (hinv : inv w'.traffic) :
    ∃ r w₁ w₁', (fill machine.device l m machine.source).outcome w = (r, w₁) ∧
      (fill machine.device l m machine.source).outcome w' = (r, w₁') ∧
      w₁.traffic = w₁'.traffic := by
  obtain ⟨r, w₁, w₁', hx, hy, hw₁⟩ :=
    (Coupling.joins_retold hm hsource).fill (l := l) (m := m) (fun _ _ => id) rfl ⟨hw, hinv⟩
  exact ⟨r, w₁, w₁', hx, hy, hw₁.1⟩

end FatImage
