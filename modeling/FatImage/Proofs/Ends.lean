import FatImage.Journal

/-!
# How an action ends

An action either succeeds or fails, and it leaves a world behind in both
cases: nothing is rolled back. So what there is to say about an action has
two sides, what holds of the answer and of the world when it succeeds, and
what holds of the cause and of the world when it fails. `Ends` is the pair
of both. It speaks of worlds only through `obs`, which picks what a proof
watches of them, so that nothing else of a world ever has to be mentioned.

The lemmas say how the ends of a composed action come from those of its
parts, one lemma for each way in which the layers above compose actions.
The proofs about volumes never look into the monad: they know an action
only by how it ends.

Two runs that are held against each other may both end either way. There it
is simpler to have the `outcome` of an action, its answer and the world that
it leaves as a pair, which is an equation and can be rewritten with.
-/

namespace FatImage.Action

variable {σ ω ε ε' α β : Type} {obs : World σ → ω} {v : ω}

/-- In every world where `v` is observed, `x` succeeds with `post` or fails
with `fail`. -/
def Ends (x : Action σ ε α) (obs : World σ → ω) (v : ω) (post : α → ω → Prop)
    (fail : ε → ω → Prop) : Prop :=
  ∀ w, obs w = v → match x w with
    | .ok a w' => post a (obs w')
    | .error e w' => fail e (obs w')

theorem Ends.mono {x : Action σ ε α} {post post' : α → ω → Prop}
    {fail fail' : ε → ω → Prop} (h : x.Ends obs v post fail)
    (hpost : ∀ a v', post a v' → post' a v')
    (hfail : ∀ e v', fail e v' → fail' e v') : x.Ends obs v post' fail' := by
  intro w hw
  have := h w hw
  cases hx : x w with
  | ok a w' => rw [hx] at this; exact hpost a _ this
  | error e w' => rw [hx] at this; exact hfail e _ this

theorem Ends.and {x : Action σ ε α} {post post' : α → ω → Prop}
    {fail fail' : ε → ω → Prop} (h : x.Ends obs v post fail) (h' : x.Ends obs v post' fail') :
    x.Ends obs v (fun a v' => post a v' ∧ post' a v') (fun e v' => fail e v' ∧ fail' e v') := by
  intro w hw
  have hx := h w hw
  have hx' := h' w hw
  cases hxw : x w with
  | ok a w' => rw [hxw] at hx hx'; exact ⟨hx, hx'⟩
  | error e w' => rw [hxw] at hx hx'; exact ⟨hx, hx'⟩

theorem Ends.exists_ok {x : Action σ ε α} {post : α → ω → Prop}
    (h : x.Ends obs v post fun _ _ => False) {w : World σ} (hw : obs w = v) :
    ∃ a w', x w = .ok a w' ∧ post a (obs w') := by
  have := h w hw
  cases hx : x w with
  | ok a w' => rw [hx] at this; exact ⟨a, w', rfl, this⟩
  | error e w' => rw [hx] at this; exact False.elim this

theorem Ends.of_ok {x : Action σ ε α} {post : α → ω → Prop}
    {fail : ε → ω → Prop} (h : x.Ends obs v post fail) {w w' : World σ} {a : α}
    (hw : obs w = v) (hx : x w = .ok a w') : post a (obs w') := by
  have := h w hw
  rw [hx] at this
  exact this

theorem Ends.of_error {x : Action σ ε α} {post : α → ω → Prop}
    {fail : ε → ω → Prop} (h : x.Ends obs v post fail) {w w' : World σ} {e : ε}
    (hw : obs w = v) (hx : x w = .error e w') : fail e (obs w') := by
  have := h w hw
  rw [hx] at this
  exact this

theorem ends_pure {a : α} {post : α → ω → Prop} {fail : ε → ω → Prop}
    (h : post a v) : Ends (pure a : Action σ ε α) obs v post fail := by
  intro w hw
  subst hw
  exact h

theorem ends_throw {e : ε} {post : α → ω → Prop} {fail : ε → ω → Prop}
    (h : fail e v) : Ends (throw e : Action σ ε α) obs v post fail := by
  intro w hw
  subst hw
  exact h

/-- What the first action ends with is what the second has to start from. -/
theorem Ends.bind {x : Action σ ε α} {f : α → Action σ ε β}
    {mid : α → ω → Prop} {early : ε → ω → Prop} {post : β → ω → Prop}
    {fail : ε → ω → Prop} (h : x.Ends obs v mid early)
    (hok : ∀ a v', mid a v' → (f a).Ends obs v' post fail)
    (hfail : ∀ e v', early e v' → fail e v') :
    Ends (x >>= f) obs v post fail := by
  intro w hw
  have hx := h w hw
  have hbind : (x >>= f) w = EStateM.bind x f w := rfl
  rw [hbind, EStateM.bind]
  cases hxw : x w with
  | ok a w' => rw [hxw] at hx; exact hok a _ hx w' rfl
  | error e w' => rw [hxw] at hx; exact hfail e _ hx

/-- What is asked of an answer may be asked of what is made of it. -/
theorem ends_map_iff {x : Action σ ε α} {g : α → β} {post : β → ω → Prop}
    {fail : ε → ω → Prop} : Ends (g <$> x) obs v post fail ↔
      x.Ends obs v (fun a v' => post (g a) v') fail := by
  have hmap : ∀ w, (g <$> x) w = EStateM.map g x w := fun _ => rfl
  constructor
  · intro h w hw
    have hgx := h w hw
    rw [hmap, EStateM.map] at hgx
    cases hx : x w with
    | ok a w' => rw [hx] at hgx; exact hgx
    | error e w' => rw [hx] at hgx; exact hgx
  · intro h w hw
    have hx := h w hw
    rw [hmap, EStateM.map]
    cases hxw : x w with
    | ok a w' => rw [hxw] at hx; exact hx
    | error e w' => rw [hxw] at hx; exact hx

/-- A check in front of an action: what it refuses ends the whole. -/
theorem ends_ofExcept_bind {r : Except ε α} {f : α → Action σ ε β}
    {post : β → ω → Prop} {fail : ε → ω → Prop}
    (hok : ∀ a, r = .ok a → (f a).Ends obs v post fail)
    (herror : ∀ e, r = .error e → fail e v) :
    Ends (ofExcept r >>= f) obs v post fail := by
  cases r with
  | ok a => exact hok a rfl
  | error e =>
      intro w hw
      subst hw
      exact herror e rfl

/-- An attempt never fails: what comes next has to deal with the failure. -/
theorem Ends.attempt_bind {x : Action σ ε α} {f : Except ε α → Action σ ε' β}
    {mid : α → ω → Prop} {early : ε → ω → Prop} {post : β → ω → Prop}
    {fail : ε' → ω → Prop} (h : x.Ends obs v mid early)
    (hok : ∀ a v', mid a v' → (f (.ok a)).Ends obs v' post fail)
    (herror : ∀ e v', early e v' → (f (.error e)).Ends obs v' post fail) :
    Ends (attempt x >>= f) obs v post fail := by
  intro w hw
  have hx := h w hw
  have hbind : (attempt x >>= f) w = EStateM.bind (attempt x) f w := rfl
  rw [hbind, EStateM.bind, attempt]
  cases hxw : x w with
  | ok a w' => rw [hxw] at hx; exact hok a _ hx w' rfl
  | error e w' => rw [hxw] at hx; exact herror e _ hx w' rfl

theorem ends_record {e : Event} {post : Unit → ω → Prop} {fail : ε → ω → Prop}
    (h : ∀ w, obs w = v → post () (obs { w with journal := w.journal.push e })) :
    Ends (record e : Action σ ε Unit) obs v post fail :=
  h

/-- A loop over numbers: `inv i` holds before the round of number `i`. -/
theorem ends_forEach {f : Nat → Action σ ε Unit} (inv : Nat → ω → Prop)
    {fail : ε → ω → Prop} : ∀ {count first : Nat} {v : ω},
    (∀ i v', first ≤ i → i < first + count → inv i v' →
      (f i).Ends obs v' (fun _ => inv (i + 1)) fail) →
    inv first v →
    (forEach f count first).Ends obs v (fun _ => inv (first + count)) fail := by
  intro count
  induction count with
  | zero => intro first v _ h; exact ends_pure h
  | succ count ih =>
      intro first v hround h
      rw [forEach]
      refine (hround first v (Nat.le_refl _) (by omega) h).bind ?_ (fun _ _ he => he)
      intro _ v' hv'
      have := @ih (first + 1) v'
        (fun i v₁ h₁ h₂ => hround i v₁ (by omega) (by omega)) hv'
      rwa [show first + 1 + count = first + (count + 1) by omega] at this

theorem start_eq_ok {x : Action σ ε α} {s : σ} {a : α} {w : World σ} :
    x.start s = (.ok a, w) ↔ x ⟨s, #[]⟩ = .ok a w := by
  unfold Action.start
  cases x ⟨s, #[]⟩ <;> simp

theorem start_eq_error {x : Action σ ε α} {s : σ} {e : ε} {w : World σ} :
    x.start s = (.error e, w) ↔ x ⟨s, #[]⟩ = .error e w := by
  unfold Action.start
  cases x ⟨s, #[]⟩ <;> simp

/-! ## Outcomes -/

/-- What an action answers in a world, and the world that it leaves. -/
def outcome (x : Action σ ε α) (w : World σ) : Except ε α × World σ :=
  match x w with
  | .ok a w' => (.ok a, w')
  | .error e w' => (.error e, w')

variable {x : Action σ ε α} {f : α → Action σ ε β} {w w' : World σ} {a : α} {e : ε}

theorem outcome_eq_ok : x.outcome w = (.ok a, w') ↔ x w = .ok a w' := by
  unfold outcome
  cases x w <;> simp

theorem outcome_eq_error : x.outcome w = (.error e, w') ↔ x w = .error e w' := by
  unfold outcome
  cases x w <;> simp

theorem start_eq_outcome {s : σ} : x.start s = x.outcome ⟨s, #[]⟩ := by
  unfold start outcome
  cases x ⟨s, #[]⟩ <;> rfl

theorem outcome_bind_of_ok (h : x.outcome w = (.ok a, w')) :
    (x >>= f).outcome w = (f a).outcome w' := by
  have hx := outcome_eq_ok.1 h
  simp only [outcome, bind, EStateM.bind, hx]

theorem outcome_bind_of_error (h : x.outcome w = (.error e, w')) :
    (x >>= f).outcome w = (.error e, w') := by
  have hx := outcome_eq_error.1 h
  simp only [outcome, bind, EStateM.bind, hx]

theorem outcome_attempt {r : Except ε α} (h : x.outcome w = (r, w')) :
    (attempt x : Action σ ε' (Except ε α)).outcome w = (.ok r, w') := by
  rw [outcome_eq_ok]
  unfold attempt
  cases r with
  | ok a => rw [outcome_eq_ok.1 h]
  | error e => rw [outcome_eq_error.1 h]

theorem outcome_note (n : Notice) (w : World σ) : (note n : Action σ ε Unit).outcome w =
    (.ok (), { w with journal := w.journal.push (.notice n) }) :=
  rfl

theorem outcome_ofExcept (r : Except ε α) (w : World σ) :
    (ofExcept r).outcome w = (r, w) := by
  cases r <;> rfl

theorem outcome_mapError {g : ε → ε'} {r : Except ε α} (h : x.outcome w = (r, w')) :
    (mapError g x).outcome w = (r.mapError g, w') := by
  cases r with
  | ok a =>
      have hx := outcome_eq_ok.1 h
      simp only [outcome, mapError, hx]
      rfl
  | error e =>
      have hx := outcome_eq_error.1 h
      simp only [outcome, mapError, hx]
      rfl

theorem outcome_step (g : σ → Except ε α × σ) (w : World σ) :
    (step g).outcome w = ((g w.state).1, { w with state := (g w.state).2 }) := by
  unfold outcome step
  rcases hg : g w.state with ⟨a | e, s⟩ <;> simp only [hg]

theorem ends_of_outcome {post : α → ω → Prop} {fail : ε → ω → Prop}
    (h : ∀ w, obs w = v → ∃ r w', x.outcome w = (r, w') ∧
      (∀ a, r = .ok a → post a (obs w')) ∧ ∀ e, r = .error e → fail e (obs w')) :
    x.Ends obs v post fail := by
  intro w hw
  obtain ⟨r, w', hx, hok, herror⟩ := h w hw
  cases r with
  | ok a => rw [outcome_eq_ok.1 hx]; exact hok a rfl
  | error e => rw [outcome_eq_error.1 hx]; exact herror e rfl

theorem Ends.of_outcome {inv : ω → Prop} {r : Except ε α}
    (h : x.Ends obs v (fun _ => inv) (fun _ => inv)) (hw : obs w = v)
    (hx : x.outcome w = (r, w')) : inv (obs w') := by
  cases r with
  | ok a => exact h.of_ok hw (outcome_eq_ok.1 hx)
  | error e => exact h.of_error hw (outcome_eq_error.1 hx)

end FatImage.Action
