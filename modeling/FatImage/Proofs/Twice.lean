import FatImage.Proofs.Ends

/-!
# The same action in two worlds

What an action does not depend on is said by running it twice, in two worlds
that differ in just that. `EndsAlike` is `Ends` for a pair of runs: in any
two worlds that are related as `pre` says the action succeeds with the same
answer or fails with the same cause, and the worlds that it leaves are
related again. How they are related is left open, and may depend on the
answer.

The rules are those of `Ends`, one for each way in which the layers above
compose actions. An action that cannot fail is run in either world on its
own; so whatever is known about it from `Ends` need not be shown again.
-/

namespace FatImage.Action

variable {σ ω ε ε' α β : Type} {obs : World σ → ω} {pre : ω → ω → Prop}

/-- In two worlds of which `pre` is observed, `x` succeeds with the same answer or
fails with the same cause, and then `post` or `fail` is observed. -/
def EndsAlike (x : Action σ ε α) (obs : World σ → ω) (pre : ω → ω → Prop)
    (post : α → ω → ω → Prop) (fail : ε → ω → ω → Prop) : Prop :=
  ∀ w w', pre (obs w) (obs w') →
    (∃ a w₁ w₁', x.outcome w = (.ok a, w₁) ∧ x.outcome w' = (.ok a, w₁') ∧
      post a (obs w₁) (obs w₁')) ∨
    ∃ e w₁ w₁', x.outcome w = (.error e, w₁) ∧ x.outcome w' = (.error e, w₁') ∧
      fail e (obs w₁) (obs w₁')

theorem EndsAlike.mono {x : Action σ ε α} {post post' : α → ω → ω → Prop}
    {fail fail' : ε → ω → ω → Prop} (h : x.EndsAlike obs pre post fail)
    (hpost : ∀ a v v', post a v v' → post' a v v')
    (hfail : ∀ e v v', fail e v v' → fail' e v v') : x.EndsAlike obs pre post' fail' := by
  intro w w' hw
  rcases h w w' hw with ⟨a, w₁, w₁', hx, hy, h₁⟩ | ⟨e, w₁, w₁', hx, hy, h₁⟩
  · exact Or.inl ⟨a, w₁, w₁', hx, hy, hpost a _ _ h₁⟩
  · exact Or.inr ⟨e, w₁, w₁', hx, hy, hfail e _ _ h₁⟩

/-- What holds of no world may be taken out of the relation. -/
theorem endsAlike_of_imp {p : Prop} {x : Action σ ε α} {post : α → ω → ω → Prop}
    {fail : ε → ω → ω → Prop} (h : p → x.EndsAlike obs pre post fail) :
    x.EndsAlike obs (fun v v' => p ∧ pre v v') post fail :=
  fun w w' hw => h hw.1 w w' hw.2

theorem endsAlike_pure {a : α} {post : α → ω → ω → Prop} {fail : ε → ω → ω → Prop}
    (h : ∀ v v', pre v v' → post a v v') :
    EndsAlike (pure a : Action σ ε α) obs pre post fail :=
  fun w w' hw => Or.inl ⟨a, w, w', rfl, rfl, h _ _ hw⟩

theorem endsAlike_throw {e : ε} {post : α → ω → ω → Prop} {fail : ε → ω → ω → Prop}
    (h : ∀ v v', pre v v' → fail e v v') :
    EndsAlike (throw e : Action σ ε α) obs pre post fail :=
  fun w w' hw => Or.inr ⟨e, w, w', rfl, rfl, h _ _ hw⟩

theorem EndsAlike.bind {x : Action σ ε α} {f : α → Action σ ε β}
    {mid : α → ω → ω → Prop} {early : ε → ω → ω → Prop} {post : β → ω → ω → Prop}
    {fail : ε → ω → ω → Prop} (h : x.EndsAlike obs pre mid early)
    (hok : ∀ a, (f a).EndsAlike obs (mid a) post fail)
    (hfail : ∀ e v v', early e v v' → fail e v v') :
    EndsAlike (x >>= f) obs pre post fail := by
  intro w w' hw
  rcases h w w' hw with ⟨a, w₁, w₁', hx, hy, h₁⟩ | ⟨e, w₁, w₁', hx, hy, h₁⟩
  · rw [outcome_bind_of_ok hx, outcome_bind_of_ok hy]
    exact hok a w₁ w₁' h₁
  · exact Or.inr ⟨e, w₁, w₁', outcome_bind_of_error hx, outcome_bind_of_error hy,
      hfail e _ _ h₁⟩

theorem endsAlike_ofExcept_bind {r : Except ε α} {f : α → Action σ ε β}
    {post : β → ω → ω → Prop} {fail : ε → ω → ω → Prop}
    (hok : ∀ a, r = .ok a → (f a).EndsAlike obs pre post fail)
    (herror : ∀ e, r = .error e → ∀ v v', pre v v' → fail e v v') :
    EndsAlike (ofExcept r >>= f) obs pre post fail := by
  cases r with
  | ok a => exact hok a rfl
  | error e => exact fun w w' hw => Or.inr ⟨e, w, w', rfl, rfl, herror e rfl _ _ hw⟩

theorem EndsAlike.attempt_bind {x : Action σ ε α} {f : Except ε α → Action σ ε' β}
    {mid : α → ω → ω → Prop} {early : ε → ω → ω → Prop} {post : β → ω → ω → Prop}
    {fail : ε' → ω → ω → Prop} (h : x.EndsAlike obs pre mid early)
    (hok : ∀ a, (f (.ok a)).EndsAlike obs (mid a) post fail)
    (herror : ∀ e, (f (.error e)).EndsAlike obs (early e) post fail) :
    EndsAlike (attempt x >>= f) obs pre post fail := by
  intro w w' hw
  rcases h w w' hw with ⟨a, w₁, w₁', hx, hy, h₁⟩ | ⟨e, w₁, w₁', hx, hy, h₁⟩
  · rw [outcome_bind_of_ok (outcome_attempt hx), outcome_bind_of_ok (outcome_attempt hy)]
    exact hok a w₁ w₁' h₁
  · rw [outcome_bind_of_ok (outcome_attempt hx), outcome_bind_of_ok (outcome_attempt hy)]
    exact herror e w₁ w₁' h₁

/-- A loop over numbers: `inv i` relates the worlds before the round of number `i`. -/
theorem endsAlike_forEach {f : Nat → Action σ ε Unit} (inv : Nat → ω → ω → Prop)
    {fail : ε → ω → ω → Prop} : ∀ {count first : Nat},
    (∀ i, first ≤ i → i < first + count →
      (f i).EndsAlike obs (inv i) (fun _ => inv (i + 1)) fail) →
    (forEach f count first).EndsAlike obs (inv first) (fun _ => inv (first + count)) fail := by
  intro count
  induction count with
  | zero => intro first _; exact endsAlike_pure fun _ _ h => h
  | succ count ih =>
      intro first hround
      rw [forEach]
      refine (hround first (Nat.le_refl _) (by omega)).bind ?_ (fun _ _ _ he => he)
      intro _
      have := @ih (first + 1) fun i h₁ h₂ => hround i (by omega) (by omega)
      rwa [show first + 1 + count = first + (count + 1) by omega] at this

/-- An action that succeeds in either world, with an answer that is the same. -/
theorem endsAlike_of_ends {x : Action σ ε α} {post : α → ω → ω → Prop}
    {fail : ε → ω → ω → Prop}
    (h : ∀ v v', pre v v' → ∃ a u u',
      x.Ends obs v (fun a' v₁ => a' = a ∧ v₁ = u) (fun _ _ => False) ∧
      x.Ends obs v' (fun a' v₁ => a' = a ∧ v₁ = u') (fun _ _ => False) ∧ post a u u') :
    x.EndsAlike obs pre post fail := by
  intro w w' hw
  obtain ⟨a, u, u', hx, hy, hpost⟩ := h _ _ hw
  obtain ⟨_, w₁, hok, rfl, rfl⟩ := hx.exists_ok rfl
  obtain ⟨_, w₁', hok', rfl, rfl⟩ := hy.exists_ok rfl
  exact Or.inl ⟨_, w₁, w₁', outcome_eq_ok.2 hok, outcome_eq_ok.2 hok', hpost⟩

/-- An action without an answer that changes either world in the same way. -/
theorem endsAlike_of_changes {x : Action σ ε Unit} (g : ω → ω) {post : ω → ω → Prop}
    {fail : ε → ω → ω → Prop}
    (h : ∀ v v', pre v v' → x.Ends obs v (fun _ v₁ => v₁ = g v) (fun _ _ => False) ∧
      x.Ends obs v' (fun _ v₁ => v₁ = g v') (fun _ _ => False) ∧ post (g v) (g v')) :
    x.EndsAlike obs pre (fun _ => post) fail := by
  refine endsAlike_of_ends fun v v' hv => ?_
  obtain ⟨hx, hy, hpost⟩ := h v v' hv
  exact ⟨(), g v, g v', hx.mono (fun _ _ hv₁ => ⟨rfl, hv₁⟩) (fun _ _ he => he),
    hy.mono (fun _ _ hv₁ => ⟨rfl, hv₁⟩) (fun _ _ he => he), hpost⟩

end FatImage.Action
