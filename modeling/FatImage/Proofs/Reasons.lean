import FatImage.Proofs.Lockstep
import FatImage.Proofs.Skipping

/-!
# Why an entry is skipped

A volume takes from a source the bytes of an entry, or that there are none.
The reason in the latter case is told and put on the list of what was skipped,
and that is all that becomes of it. So two machines that go on together as
far as the device is concerned, and whose sources have the same bytes, do so
in a whole run, although each may give reasons of its own: they answer the
same, but for the list.

The loads have to be looked at one by one for this, because what comes after
a load on either side is told of another reason. What is between two loads
has no source in it, and goes on together as it does with sources that have
nothing.
-/

namespace FatImage

variable {ρ σ σ' : Type} {l : Layout} {m : Manifest}

theorem Agree.placed_eq {left left' : List SkippedFile} {r r' : Except VolumeError Report}
    (h : Agree left left' r r') :
    r.toOption.map Report.placed = r'.toOption.map Report.placed := by
  cases h with
  | report hplaced => exact congrArg some hplaced
  | error e => rfl

namespace Coupling

variable {C : Coupling σ σ'} {d : Device σ} {d' : Device σ'} {source : Source σ}
variable {source' : Source σ'} {w : World σ} {w' : World σ'}

/-- The sources have the same bytes for these entries, and stay together by it. -/
def Supplies (C : Coupling σ σ') (source : Source σ) (source' : Source σ')
    (es : List Entry) : Prop :=
  ∀ e ∈ es, ∀ {w : World σ} {w' : World σ'}, C.together w.traffic w'.traffic →
    ∃ r w₁ r' w₁', (source e).outcome w = (r, w₁) ∧ (source' e).outcome w' = (r', w₁') ∧
      r.toOption = r'.toOption ∧ C.together w₁.traffic w₁'.traffic

/-- Both actions end together, and their answers agree but for what was skipped. -/
def EndsAgreeing (C : Coupling σ σ') (x : Action σ VolumeError Report)
    (y : Action σ' VolumeError Report) (w : World σ) (w' : World σ') : Prop :=
  ∃ r w₁ r' w₁' left left', x.outcome w = (r, w₁) ∧ y.outcome w' = (r', w₁') ∧
    C.together w₁.traffic w₁'.traffic ∧ Agree left left' r r'

theorem Steady.bind_agreeing {α : Type} (hsteady : C.Steady) {x : Action σ VolumeError α}
    {y : Action σ' VolumeError α} {f : α → Action σ VolumeError Report}
    {g : α → Action σ' VolumeError Report} (h : C.Ended x y w w')
    (hf : ∀ a w₁ w₁', C.together w₁.traffic w₁'.traffic →
      C.EndsAgreeing (f a) (g a) w₁ w₁') : C.EndsAgreeing (x >>= f) (y >>= g) w w' := by
  obtain ⟨r, w₁, w₁', hx, hy, hw₁⟩ := h.same hsteady
  cases r with
  | error e =>
      exact ⟨_, _, _, _, [], [], Action.outcome_bind_of_error hx,
        Action.outcome_bind_of_error hy, hw₁, .error e⟩
  | ok a =>
      obtain ⟨r, w₂, r', w₂', left, left', hfa, hga, h'⟩ := hf a w₁ w₁' hw₁
      exact ⟨r, w₂, r', w₂', left, left', (Action.outcome_bind_of_ok hx).trans hfa,
        (Action.outcome_bind_of_ok hy).trans hga, h'⟩

section

variable (hC : C.Joins ⟨d, .nothing⟩ ⟨d', .nothing⟩ fun _ => True) (hsteady : C.Steady)
include hC hsteady

/-- The induction is on the entries. One that is skipped on one side is skipped on the
other, and the reports differ in nothing else. -/
theorem placeAll_agreeing (vol : Volume ρ) {es : List Entry} (hs : C.Supplies source source' es)
    {report report' : Report} (hplaced : report.placed = report'.placed)
    (hnext : report.next = report'.next) (hw : C.together w.traffic w'.traffic) :
    C.EndsAgreeing ((vol.on d).placeAll source report es)
      ((vol.on d').placeAll source' report' es) w w' := by
  induction es generalizing report report' w w' with
  | nil => exact ⟨_, _, _, _, _, _, rfl, rfl, hw, .report hplaced hnext rfl rfl⟩
  | cons e rest ih =>
      have hrest : C.Supplies source source' rest :=
        fun e' he' => hs e' (List.mem_cons_of_mem _ he')
      obtain ⟨r, w₁, r', w₁', hx, hy, hr, hw₁⟩ := hs e List.mem_cons_self hw
      cases r with
      | error reason =>
          cases r' with
          | ok data => cases hr
          | error reason' =>
              rw [EndsAgreeing, Volume.outcome_placeAll_of_error (vol.on d) report rest hx,
                Volume.outcome_placeAll_of_error (vol.on d') report' rest hy]
              refine ih hrest hplaced hnext ?_
              rw [World.traffic_passedOver, World.traffic_passedOver]
              exact hw₁
      | ok data =>
          cases r' with
          | error reason' => cases hr
          | ok data' =>
              obtain rfl : data = data' := Option.some.inj hr
              have htogether : C.together (w₁.loaded e).traffic (w₁'.loaded e).traffic := by
                rw [World.traffic_loaded, World.traffic_loaded]
                exact hw₁
              rw [EndsAgreeing, Volume.outcome_placeAll_of_ok (vol.on d) report rest hx,
                Volume.outcome_placeAll_of_ok (vol.on d') report' rest hy, ← hnext]
              refine hsteady.bind_agreeing ((Volume.alike_place Image.allows_true report.next
                e.name data).coupled hC htogether) fun placed w₃ w₃' hw₃ => ?_
              exact ih hrest (by rw [hplaced]) rfl hw₃

theorem run_agreeing (vol : Volume ρ) (hs : C.Supplies source source' m.entries)
    (hw : C.together w.traffic w'.traffic) :
    C.EndsAgreeing ((vol.on d).run m source) ((vol.on d').run m source') w w' := by
  have hbody : C.EndsAgreeing ((vol.on d).runUnflushed m source)
      ((vol.on d').runUnflushed m source') w w' := by
    refine hsteady.bind_agreeing
      ((Volume.alike_reset Image.allows_true).coupled hC hw) fun _ w₁ w₁' hw₁ => ?_
    exact placeAll_agreeing hC hsteady vol hs rfl rfl hw₁
  obtain ⟨r, w₁, r', w₁', left, left', hx, hy, hw₁, hagree⟩ := hbody
  obtain ⟨flushed, w₂, w₂', hflush, hflush', hw₂⟩ :=
    (hC.transfer (c := .flush) trivial hw₁).same hsteady
  exact ⟨_, _, _, _, left, left', Volume.outcome_run hx hflush, Volume.outcome_run hy hflush',
    hw₂, hagree.bind flushed⟩

/-- Both machines fill what they have in the same way, whatever reasons their sources
give. -/
theorem fill_agreeing (hsector : d.sectorSize = d'.sectorSize)
    (hs : C.Supplies source source' m.entries) (hw : C.together w.traffic w'.traffic) :
    C.EndsAgreeing (fill d l m source) (fill d' l m source') w w' := by
  by_cases hsize : leastSectorSize ≤ l.sectorSize ∧ l.sectorSize = d'.sectorSize
  · have hpos : 0 < l.sectorSize := Nat.lt_of_lt_of_le (by decide) hsize.1
    rw [fill_eq hpos hsize, fill_eq hpos (by rw [hsector]; exact hsize)]
    refine hsteady.bind_agreeing (hC.transfer (c := .count) trivial hw)
      fun sectors w₁ w₁' hw₁ => ?_
    have hcheck := (Alike.ofExcept ((Volume.ofSectors d l hpos sectors).image.checkRange 0
      l.dataOffset)).coupled hC hw₁
    refine hsteady.bind_agreeing hcheck fun _ w₂ w₂' hw₂ => ?_
    have hnote := (Alike.record (.notice (.opened
      (Volume.ofSectors d l hpos sectors).image.length l)) rfl).coupled hC hw₂
    exact hsteady.bind_agreeing hnote fun _ _ _ hw₃ =>
      run_agreeing hC hsteady (Volume.ofSectors d' l hpos sectors) hs hw₃
  · exact ⟨_, _, _, _, [], [], fill_eq_throw (by rw [hsector]; exact hsize) _,
      fill_eq_throw hsize _, hw, .error _⟩

end

end Coupling

end FatImage
