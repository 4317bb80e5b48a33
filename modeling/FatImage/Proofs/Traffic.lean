import FatImage.Proofs.Alike
import FatImage.Proofs.Run

/-!
# What passes between a volume and its device

The calls of a run and the state in which they leave the device are all that
there is of a run for someone who watches the device. `Traffic` is this part
of a world. What is told on the way does not touch it, so an action changes
it through calls and loads only, and two inductions over `Alike` are enough
for whatever is to be said of it.

The first is about one machine: what every allowed transfer and every load
maintains is maintained by the whole action, wherever it stops. The second
is about two machines. They are `together` as long as both are answered the
same, and go on alike. Where the first is refused a call and the second is
not, they are `apart` from there on: the first one has stopped, and nothing
that the second does afterwards brings them together again.
-/

namespace FatImage

variable {σ σ' τ : Type} {ε α β : Type} {d : Device σ}

/-- The state of a machine and the calls so far. -/
structure Traffic (σ : Type) where
  state : σ
  calls : List (Call × Bool)

def World.traffic (w : World σ) : Traffic σ :=
  ⟨w.state, w.calls⟩

variable {v : Traffic σ} {v' : Traffic σ'}

theorem World.traffic_push {s : σ} {events : Array Event} {e : Event}
    (he : e.call? = none) :
    World.traffic ⟨s, events.push e⟩ = World.traffic ⟨s, events⟩ := by
  simp [World.traffic, World.calls, he]

theorem World.traffic_push_call {s s' : σ} {events : Array Event} {c : Call} {done : Bool} :
    World.traffic ⟨s', events.push (.call c done)⟩ =
      ⟨s', (World.traffic ⟨s, events⟩).calls ++ [(c, done)]⟩ := by
  simp [World.traffic, World.calls, Event.call?]

theorem ends_untold {e : Event} (he : e.call? = none) :
    (Action.record e : Action σ ε Unit).Ends World.traffic v
      (fun _ v' => v' = v) (fun _ _ => False) :=
  Action.ends_record fun w hw => by rw [← hw]; exact World.traffic_push he

theorem Device.ends_call {c : Call} :
    (d.perform c).Ends World.traffic v
      (fun a v' => ∃ s, d.answer c v.state = (.ok a, s) ∧ v' = ⟨s, v.calls ++ [(c, true)]⟩)
      (fun e v' => e = .deviceFailed ∧ ∃ why s, d.answer c v.state = (.error why, s) ∧
        v' = ⟨s, v.calls ++ [(c, false)]⟩) := by
  have hask : (d.ask c).Ends World.traffic v
      (fun a v' => ∃ s, d.answer c v.state = (.ok a, s) ∧ v' = ⟨s, v.calls ++ [(c, true)]⟩)
      (fun why v' => ∃ s, d.answer c v.state = (.error why, s) ∧
        v' = ⟨s, v.calls ++ [(c, false)]⟩) := by
    rintro ⟨s, events⟩ rfl
    unfold ask
    cases hd : d.answer c s with
    | mk r s' =>
        cases r with
        | ok a =>
            simp only [hd]
            exact ⟨s', hd, World.traffic_push_call⟩
        | error why =>
            simp only [hd]
            exact ⟨s', hd, World.traffic_push_call⟩
  refine hask.attempt_bind (fun _ _ hv => Action.ends_pure hv) ?_
  intro why v' hv'
  refine (ends_untold rfl).bind ?_ (fun _ _ => False.elim)
  rintro _ _ rfl
  obtain ⟨s, hd, rfl⟩ := hv'
  exact Action.ends_throw ⟨rfl, why, s, hd, rfl⟩

theorem Device.outcome_perform (d : Device σ) (c : Call) (w : World σ) :
    (∃ a s w', d.answer c w.state = (.ok a, s) ∧ (d.perform c).outcome w = (.ok a, w') ∧
      w'.traffic = ⟨s, w.calls ++ [(c, true)]⟩) ∨
    (∃ why s w', d.answer c w.state = (.error why, s) ∧
      (d.perform c).outcome w = (.error .deviceFailed, w') ∧
      w'.traffic = ⟨s, w.calls ++ [(c, false)]⟩) := by
  cases hw : d.perform c w with
  | ok a w' =>
      obtain ⟨s, hd, hw'⟩ := ends_call.of_ok rfl hw
      exact Or.inl ⟨a, s, w', hd, Action.outcome_eq_ok.2 hw, hw'⟩
  | error e w' =>
      obtain ⟨rfl, why, s, hd, hw'⟩ := ends_call.of_error rfl hw
      exact Or.inr ⟨why, s, w', hd, Action.outcome_eq_error.2 hw, hw'⟩

/-- Two devices that answer a call the same: whoever made it goes on alike. -/
theorem Device.outcome_perform_of_eq {d : Device σ} {d' : Device σ'} {c : Call} {w : World σ}
    {w' : World σ'} (h : (d.answer c w.state).1 = (d'.answer c w'.state).1) :
    ∃ r w₁ w₁' done, (d.perform c).outcome w = (r, w₁) ∧
      (d'.perform c).outcome w' = (r, w₁') ∧
      w₁.traffic = ⟨(d.answer c w.state).2, w.calls ++ [(c, done)]⟩ ∧
      w₁'.traffic = ⟨(d'.answer c w'.state).2, w'.calls ++ [(c, done)]⟩ := by
  rcases d.outcome_perform c w with ⟨a, s, w₁, hd, hx, hw₁⟩ | ⟨why, s, w₁, hd, hx, hw₁⟩
  · rcases d'.outcome_perform c w' with
      ⟨a', s', w₁', hd', hy, hw₁'⟩ | ⟨why, s', w₁', hd', -, -⟩
    · rw [hd, hd'] at h
      cases h
      exact ⟨.ok a, w₁, w₁', true, hx, hy, by rw [hw₁, hd], by rw [hw₁', hd']⟩
    · rw [hd, hd'] at h
      cases h
  · rcases d'.outcome_perform c w' with
      ⟨a', s', w₁', hd', -, -⟩ | ⟨why', s', w₁', hd', hy, hw₁'⟩
    · rw [hd, hd'] at h
      cases h
    · exact ⟨.error .deviceFailed, w₁, w₁', false, hx, hy, by rw [hw₁, hd],
        by rw [hw₁', hd']⟩

/-- A load touches nothing but the state of the loader, so it keeps whatever does
not depend on that. -/
theorem Loader.ends_load {load : Loader τ} {e : Entry} {v : Traffic (σ × τ)}
    {inv : Traffic (σ × τ) → Prop} (h : ∀ t, inv ⟨(v.state.1, t), v.calls⟩) :
    (load.source e : Action (σ × τ) String ByteArray).Ends World.traffic v
      (fun _ => inv) (fun _ => inv) := by
  refine Action.ends_of_outcome fun w hw => ⟨_, _, load.outcome_source e w, ?_⟩
  subst hw
  exact ⟨fun _ _ => h _, fun _ _ => h _⟩

theorem Loader.outcome_load (load : Loader τ) (e : Entry) (w : World (σ × τ)) :
    (Action.attempt (load.source e) : Action (σ × τ) VolumeError _).outcome w =
      (.ok (load e w.state.2).1, { w with state := (w.state.1, (load e w.state.2).2) }) :=
  Action.outcome_attempt (load.outcome_source e w)

/-! ## Devices that read whole sectors -/

namespace Device

/-- Where `d` answers a read, it answers as many bytes as were asked for. -/
structure ReadsWhole (d : Device σ) : Prop where
  size : ∀ {lba n : Nat} {s s' : σ} {data : ByteArray},
    d.answer (.read lba n) s = (.ok data, s') → data.size = n

theorem readsWhole_memory (sectorSize : Nat) : (memory sectorSize).ReadsWhole where
  size h := by
    obtain ⟨⟨-, hle⟩, rfl, -⟩ := memory_read_eq_ok_iff.1 h
    rw [Bytes.size_slice]
    omega

theorem size_memory {n : Nat} {c : Call} {a : c.Answer} {disk disk' : ByteArray}
    (h : (memory n).answer c disk = (.ok a, disk')) : disk'.size = disk.size := by
  cases c with
  | count => cases h; rfl
  | flush => cases h; rfl
  | read lba bytes => rw [(memory_read_eq_ok_iff.1 h).2.2]
  | write lba data =>
      obtain ⟨⟨-, hle⟩, rfl⟩ := memory_write_eq_ok_iff.1 h
      exact Bytes.size_overwrite hle

theorem ReadsWhole.refusing {φ : Type} (h : d.ReadsWhole) (plan : FaultPlan φ) :
    (d.refusing plan).ReadsWhole where
  size {lba n s s' data} hd := by
    obtain ⟨s, m⟩ := s
    simp only [Device.refusing] at hd
    split at hd
    · cases hd
    · split at hd
      · cases hd
      · next ha =>
          cases hd
          exact h.size ha

theorem ReadsWhole.beside (h : d.ReadsWhole) (τ : Type) : (d.beside τ).ReadsWhole where
  size {lba n s s' data} hd := by
    obtain ⟨s, t⟩ := s
    simp only [Device.beside, Prod.mk.injEq] at hd
    exact h.size (Prod.ext hd.1 rfl)

end Device

/-! ## One machine -/

variable {here : Machine σ} {there : Machine σ'} {allowed : Call → Prop}

/-- Every allowed transfer and every load keeps `inv`, and as long as it is kept, what
is read is as long as was asked for. -/
structure Machine.Maintains (m : Machine σ) (allowed : Call → Prop)
    (inv : Traffic σ → Prop) : Prop where
  whole : ∀ {lba n : Nat} {v : Traffic σ} {data : ByteArray} {s : σ}, inv v →
    m.device.answer (.read lba n) v.state = (.ok data, s) → data.size = n
  done : ∀ {c : Call} {v : Traffic σ} {a : c.Answer} {s : σ}, allowed c → inv v →
    m.device.answer c v.state = (.ok a, s) → inv ⟨s, v.calls ++ [(c, true)]⟩
  refused : ∀ {c : Call} {v : Traffic σ} {why : Refusal} {s : σ}, allowed c → inv v →
    m.device.answer c v.state = (.error why, s) → inv ⟨s, v.calls ++ [(c, false)]⟩
  load : ∀ {e : Entry} {v : Traffic σ}, inv v →
    (m.source e).Ends World.traffic v (fun _ => inv) (fun _ => inv)

/-- What never holds is kept by everything. -/
theorem Machine.Maintains.never {m : Machine σ} : m.Maintains allowed fun _ => False :=
  ⟨fun hv _ => hv.elim, fun _ hv => hv.elim, fun _ hv => hv.elim, fun hv => hv.elim⟩

/-- What is said of the state alone is kept if every answer and every load keep it. -/
theorem Machine.Maintains.of_state {m : Machine σ} {P : σ → Prop}
    (whole : ∀ {lba n : Nat} {s s' : σ} {data : ByteArray}, P s →
      m.device.answer (.read lba n) s = (.ok data, s') → data.size = n)
    (answer : ∀ {c : Call} {s : σ}, allowed c → P s → P (m.device.answer c s).2)
    (load : ∀ (e : Entry) {v : Traffic σ}, P v.state → (m.source e).Ends World.traffic v
      (fun _ v' => P v'.state) (fun _ v' => P v'.state)) :
    m.Maintains allowed (fun v => P v.state) where
  whole hv hd := whole hv hd
  done hc hv hd := by
    have hs := answer hc hv
    rw [hd] at hs
    exact hs
  refused hc hv hd := by
    have hs := answer hc hv
    rw [hd] at hs
    exact hs
  load hv := load _ hv

theorem Machine.Maintains.ends_perform {m : Machine σ} {inv : Traffic σ → Prop}
    (h : m.Maintains allowed inv) {c : Call} (hc : allowed c) (hv : inv v) :
    (m.device.perform c).Ends World.traffic v
      (fun a v' => (∃ s, m.device.answer c v.state = (.ok a, s)) ∧ inv v') (fun _ => inv) := by
  refine Device.ends_call.mono ?_ ?_
  · rintro a _ ⟨s, hd, rfl⟩
    exact ⟨⟨s, hd⟩, h.done hc hv hd⟩
  · rintro e _ ⟨-, why, s, hd, rfl⟩
    exact h.refused hc hv hd

theorem Alike.maintains {inv : Traffic σ' → Prop} (hm : there.Maintains allowed inv)
    {x : Action σ VolumeError α} {y : Action σ' VolumeError α}
    (h : Alike here there allowed x y) (hv : inv v') :
    y.Ends World.traffic v' (fun _ => inv) (fun _ => inv) := by
  induction h generalizing v' with
  | answer a => exact Action.ends_pure hv
  | failure e => exact Action.ends_throw hv
  | record e he =>
      refine (ends_untold he).mono ?_ (fun _ _ => False.elim)
      rintro _ _ rfl
      exact hv
  | bind _ _ ihx ihf => exact (ihx hv).bind (fun a _ hv₁ => ihf a hv₁) (fun _ _ he => he)
  | read hc _ ihf =>
      refine (hm.ends_perform hc hv).bind ?_ (fun _ _ he => he)
      rintro sector v₁ ⟨⟨s, hd⟩, hv₁⟩
      exact ihf sector (hm.whole hv hd) hv₁
  | write hc => exact (hm.ends_perform hc hv).mono (fun _ _ hv₁ => hv₁.2) (fun _ _ he => he)
  | load e _ ihf =>
      exact (hm.load hv).attempt_bind (fun _ _ hv₁ => ihf _ hv₁) (fun _ _ hv₁ => ihf _ hv₁)

theorem Machine.Maintains.ends {m : Machine σ} {inv : Traffic σ → Prop}
    (hm : m.Maintains allowed inv) {x : Action σ VolumeError α} (h : Alike m m allowed x x)
    (hv : inv v) : x.Ends World.traffic v (fun _ => inv) (fun _ => inv) :=
  h.maintains hm hv

/-! ## Two machines -/

/-- How the traffic of two machines hangs together, before and after the first
of them has stopped at a call that the second went on with. -/
structure Coupling (σ σ' : Type) where
  together : Traffic σ → Traffic σ' → Prop
  apart : Traffic σ → Traffic σ' → Prop

/-- How one action ends on two machines: both answer the same and are together, or
the first has stopped at a call that it was refused. -/
inductive Coupling.Ended (C : Coupling σ σ') {α : Type} (x : Action σ VolumeError α)
    (y : Action σ' VolumeError α) (w : World σ) (w' : World σ') : Prop where
  | both {r : Except VolumeError α} {w₁ : World σ} {w₁' : World σ'}
      (hx : x.outcome w = (r, w₁)) (hy : y.outcome w' = (r, w₁'))
      (h : C.together w₁.traffic w₁'.traffic) : Ended C x y w w'
  | first {r' : Except VolumeError α} {w₁ : World σ} {w₁' : World σ'}
      (hx : x.outcome w = (.error .deviceFailed, w₁)) (hy : y.outcome w' = (r', w₁'))
      (h : C.apart w₁.traffic w₁'.traffic) : Ended C x y w w'

/-- Every allowed transfer and every load ends as a coupling says, what is read while
the machines are together is as long as was asked for, and what the second machine
does alone keeps them apart. -/
structure Coupling.Joins (C : Coupling σ σ') (here : Machine σ) (there : Machine σ')
    (allowed : Call → Prop) : Prop where
  transfer : ∀ {c : Call} {w : World σ} {w' : World σ'}, allowed c →
    C.together w.traffic w'.traffic →
    C.Ended (here.device.perform c) (there.device.perform c) w w'
  load : ∀ {e : Entry} {w : World σ} {w' : World σ'}, C.together w.traffic w'.traffic →
    C.Ended (Action.attempt (here.source e)) (Action.attempt (there.source e)) w w'
  whole : ∀ {lba n : Nat} {v : Traffic σ} {v' : Traffic σ'} {data : ByteArray} {s : σ'},
    C.together v v' → there.device.answer (.read lba n) v'.state = (.ok data, s) →
    data.size = n
  alone : ∀ v, there.Maintains allowed (C.apart v)

theorem Coupling.Ended.bind {C : Coupling σ σ'} {x : Action σ VolumeError α}
    {y : Action σ' VolumeError α} {f : α → Action σ VolumeError β}
    {g : α → Action σ' VolumeError β} {w : World σ} {w' : World σ'}
    (h : C.Ended x y w w')
    (hok : ∀ a w₁ w₁', y w' = .ok a w₁' → C.together w₁.traffic w₁'.traffic →
      C.Ended (f a) (g a) w₁ w₁')
    (halone : ∀ b w₁' v, y w' = .ok b w₁' → C.apart v w₁'.traffic →
      (g b).Ends World.traffic w₁'.traffic (fun _ => C.apart v) (fun _ => C.apart v)) :
    C.Ended (x >>= f) (y >>= g) w w' := by
  cases h with
  | @both r w₁ w₁' hx hy h =>
      cases r with
      | error e =>
          -- both have failed alike, and neither goes on
          exact .both (Action.outcome_bind_of_error hx) (Action.outcome_bind_of_error hy) h
      | ok a =>
          have hx' := Action.outcome_bind_of_ok (f := f) hx
          have hy' := Action.outcome_bind_of_ok (f := g) hy
          cases hok a w₁ w₁' (Action.outcome_eq_ok.1 hy) h with
          | both hf hg h => exact .both (hx'.trans hf) (hy'.trans hg) h
          | first hf hg h => exact .first (hx'.trans hf) (hy'.trans hg) h
  | @first r' w₁ w₁' hx hy h =>
      have hx' := Action.outcome_bind_of_error (f := f) hx
      -- the first has stopped, so all that is left is what the second does alone
      cases r' with
      | error e => exact .first hx' (Action.outcome_bind_of_error hy) h
      | ok b =>
          have hy' := Action.outcome_bind_of_ok (f := g) hy
          have hends := halone b w₁' w₁.traffic (Action.outcome_eq_ok.1 hy) h
          cases hg : g b w₁' with
          | ok c w₂ =>
              exact .first hx' (hy'.trans (Action.outcome_eq_ok.2 hg)) (hends.of_ok rfl hg)
          | error e w₂ =>
              exact .first hx' (hy'.trans (Action.outcome_eq_error.2 hg))
                (hends.of_error rfl hg)

theorem Alike.coupled {C : Coupling σ σ'} (hC : C.Joins here there allowed)
    {x : Action σ VolumeError α} {y : Action σ' VolumeError α}
    (h : Alike here there allowed x y) {w : World σ} {w' : World σ'}
    (hw : C.together w.traffic w'.traffic) : C.Ended x y w w' := by
  induction h generalizing w w' with
  | answer a => exact .both rfl rfl hw
  | failure e => exact .both rfl rfl hw
  | record e he =>
      refine .both (r := .ok ()) rfl rfl ?_
      rw [World.traffic_push he, World.traffic_push he]
      exact hw
  | bind _ hf ihx ihf =>
      exact (ihx hw).bind (fun a _ _ _ hw₁ => ihf a hw₁)
        (fun b _ v _ hw₁ => (hf b).maintains (hC.alone v) hw₁)
  | @read _ lba n f g hc hf ihf =>
      have hsize : ∀ {sector w₁}, there.device.perform (.read lba n) w' = .ok sector w₁ →
          sector.size = n := by
        intro sector w₁ hok
        obtain ⟨s, hd, -⟩ := Device.ends_call.of_ok rfl hok
        exact hC.whole hw hd
      exact (hC.transfer hc hw).bind (fun a _ _ hok hw₁ => ihf a (hsize hok) hw₁)
        (fun b _ v hok hw₁ => (hf b (hsize hok)).maintains (hC.alone v) hw₁)
  | write hc => exact hC.transfer hc hw
  | load e hf ihf =>
      exact (hC.load hw).bind (fun r _ _ _ hw₁ => ihf r hw₁)
        (fun r _ v _ hw₁ => (hf r).maintains (hC.alone v) hw₁)

/-! ## Mounting -/

namespace Volume

variable {l : Layout} {vol : Volume σ}

/-- What a volume is that was mounted, and that the device was asked for nothing
but its size. -/
structure Mounted (d : Device σ) (l : Layout) (v : Traffic σ) (vol : Volume σ)
    (sectors : Nat) (v' : Traffic σ) : Prop where
  count : d.answer .count v.state = (.ok sectors, v'.state)
  calls : v'.calls = v.calls ++ [(.count, true)]
  device : vol.image.device = d
  sector : vol.image.sectorSize = l.sectorSize
  length : vol.image.length = min (sectors * l.sectorSize) Image.greatest
  layout : vol.layout = l
  size : leastSectorSize ≤ l.sectorSize ∧ l.sectorSize = d.sectorSize
  fits : min l.dataOffset Image.greatest ≤ vol.image.length

/-- Why a volume is not mounted: the sectors have another size, the device does
not say how many there are, or these are too few. -/
inductive NotMounted (d : Device σ) (l : Layout) (v : Traffic σ) : Traffic σ → Prop where
  | size (h : ¬ (leastSectorSize ≤ l.sectorSize ∧ l.sectorSize = d.sectorSize)) :
      NotMounted d l v v
  | count {why : Refusal} {s : σ} (h : d.answer .count v.state = (.error why, s)) :
      NotMounted d l v ⟨s, v.calls ++ [(.count, false)]⟩
  | data {sectors : Nat} {s : σ} (h : d.answer .count v.state = (.ok sectors, s))
      (hfits : min (sectors * l.sectorSize) Image.greatest <
        min l.dataOffset Image.greatest) :
      NotMounted d l v ⟨s, v.calls ++ [(.count, true)]⟩

theorem ends_opened : (Volume.ofDevice d l).Ends World.traffic v
    (fun vol v' => ∃ sectors, d.answer .count v.state = (.ok sectors, v'.state) ∧
      v'.calls = v.calls ++ [(.count, true)] ∧ vol.image.device = d ∧
      vol.image.sectorSize = l.sectorSize ∧
      vol.image.length = min (sectors * l.sectorSize) Image.greatest ∧ vol.layout = l ∧
      leastSectorSize ≤ l.sectorSize ∧ l.sectorSize = d.sectorSize)
    (fun _ v' => NotMounted d l v v') := by
  unfold Volume.ofDevice Image.ofDevice
  split
  · next hsize =>
      rw [bind_assoc]
      refine Device.ends_call.bind ?_ ?_
      · rintro sectors _ ⟨s, hcount, rfl⟩
        exact Action.ends_pure ⟨sectors, hcount, rfl, rfl, rfl, rfl, rfl, hsize⟩
      · rintro e _ ⟨-, why, s, hcount, rfl⟩
        exact .count hcount
  · next hsize => exact Action.ends_throw (.size hsize)

theorem NotMounted.calls {v' : Traffic σ} (h : NotMounted d l v v') {c : Call} {done : Bool}
    (hmem : (c, done) ∈ v'.calls) : (c, done) ∈ v.calls ∨ c = .count := by
  cases h with
  | size => exact Or.inl hmem
  | count | data =>
      rcases List.mem_append.1 hmem with hmem | hmem
      · exact Or.inl hmem
      · rw [List.mem_singleton, Prod.mk.injEq] at hmem
        exact Or.inr hmem.1

theorem ends_mounted : (Volume.mount d l).Ends World.traffic v
    (fun vol v' => ∃ sectors, Mounted d l v vol sectors v')
    (fun _ v' => NotMounted d l v v') := by
  refine ends_opened.bind ?_ (fun _ _ he => he)
  rintro vol ⟨s, calls⟩ ⟨sectors, hcount, rfl, hdevice, hsector, hlength, rfl, hsize⟩
  refine Action.ends_ofExcept_bind ?_ ?_
  · intro _ hcheck
    refine (ends_untold rfl).bind ?_ (fun _ _ => False.elim)
    rintro _ _ rfl
    refine Action.ends_pure ⟨sectors, hcount, rfl, hdevice, hsector, hlength, rfl, hsize, ?_⟩
    rw [Image.checkRange_eq_ok_iff, Nat.zero_add] at hcheck
    exact hcheck
  · intro e hcheck
    rw [Image.checkRange_eq_error_iff, Nat.zero_add, hlength] at hcheck
    exact .data hcount hcheck.1

theorem exists_mounted {s s' : σ} {sectors : Nat}
    (hcount : d.answer .count s = (.ok sectors, s'))
    (hsize : leastSectorSize ≤ l.sectorSize ∧ l.sectorSize = d.sectorSize)
    (hfits : min l.dataOffset Image.greatest ≤
      min (sectors * l.sectorSize) Image.greatest) :
    ∃ vol w, (Volume.mount d l).start s = (.ok vol, w) ∧
      Mounted d l ⟨s, []⟩ vol sectors w.traffic ∧ w.traffic = ⟨s', [(.count, true)]⟩ := by
  have hends : (Volume.mount d l).Ends World.traffic ⟨s, []⟩
      (fun vol v' => ∃ sectors, Mounted d l ⟨s, []⟩ vol sectors v')
      (fun _ _ => False) := by
    refine ends_mounted.mono (fun _ _ h => h) ?_
    intro e v' h
    cases h with
    | size h => exact h hsize
    | count h =>
        rw [hcount] at h
        cases h
    | data h hlt =>
        rw [hcount] at h
        cases h
        exact absurd hlt (Nat.not_lt.2 hfits)
  obtain ⟨vol, w, hok, sectors', hmounted⟩ := hends.exists_ok (w := ⟨s, #[]⟩) rfl
  have hsame : (Except.ok sectors, s') = (Except.ok sectors', w.state) :=
    hcount.symm.trans hmounted.count
  rw [Prod.mk.injEq, Except.ok.injEq] at hsame
  obtain ⟨rfl, rfl⟩ := hsame
  have hcalls : w.calls = [(.count, true)] := hmounted.calls
  refine ⟨vol, w, Action.start_eq_ok.2 hok, hmounted, ?_⟩
  rw [World.traffic, hcalls]

theorem Mounted.on_eq {d' : Device σ'} {vol' : Volume σ'} {sectors : Nat} {v₁ : Traffic σ}
    {v₁' : Traffic σ'} (h : Mounted d l v vol sectors v₁)
    (h' : Mounted d' l v' vol' sectors v₁') : vol' = vol.on d' := by
  have hsector := h'.sector.trans h.sector.symm
  have hlength := h'.length.trans h.length.symm
  have hlayout := h'.layout.trans h.layout.symm
  have hdevice := h'.device
  obtain ⟨⟨d₁, n, length, hn⟩, l₁⟩ := vol'
  subst hsector hlength hlayout hdevice
  rfl

/-- What is mounted on one device is mounted on another that has as many sectors. -/
theorem Mounted.exists_on {d' : Device σ'} {s s' : σ'} {sectors : Nat} {v₁ : Traffic σ}
    (h : Mounted d l v vol sectors v₁) (hcount : d'.answer .count s = (.ok sectors, s'))
    (hsize : d'.sectorSize = d.sectorSize) :
    ∃ w, (Volume.mount d' l).start s = (.ok (vol.on d'), w) ∧
      w.traffic = ⟨s', [(.count, true)]⟩ := by
  have hfits := h.fits
  rw [h.length] at hfits
  obtain ⟨vol', w, hmount, hmounted, hw⟩ :=
    exists_mounted hcount ⟨h.size.1, h.size.2.trans hsize.symm⟩ hfits
  rw [h.on_eq hmounted] at hmount
  exact ⟨w, hmount, hw⟩

/-! ## A run and its flush -/

variable {m : Manifest} {source : Source σ} {w w₁ : World σ}

theorem outcome_flush (vol : Volume σ) (w : World σ) : ∃ done w',
    vol.image.flush.outcome w = (if done then .ok () else .error .deviceFailed, w') ∧
    w'.calls = w.calls ++ [(.flush, done)] ∧
    (done = false → ∃ why s, vol.image.device.answer .flush w.state = (.error why, s)) := by
  rcases vol.image.device.outcome_perform .flush w with
    ⟨_, s, w', -, hflush, hw'⟩ | ⟨why, s, w', hrefused, hflush, hw'⟩
  · exact ⟨true, w', hflush, congrArg Traffic.calls hw', nofun⟩
  · exact ⟨false, w', hflush, congrArg Traffic.calls hw', fun _ => ⟨why, s, hrefused⟩⟩

/-- A run answers what it has come to before the flush, unless the flush takes a
report away. -/
theorem outcome_run {r : Except VolumeError Report} {flushed : Except VolumeError Unit}
    {w₂ : World σ} (h : (vol.runUnflushed m source).outcome w = (r, w₁))
    (hflush : vol.image.flush.outcome w₁ = (flushed, w₂)) :
    (vol.run m source).outcome w =
      (r.bind fun report => flushed.bind fun _ => .ok report, w₂) := by
  have hrun : vol.run m source = (do
      let outcome ← Action.attempt (vol.runUnflushed m source)
      let flushed ← Action.attempt vol.image.flush
      let report ← Action.ofExcept outcome
      Action.ofExcept flushed
      return report) := rfl
  rw [hrun, Action.outcome_bind_of_ok (Action.outcome_attempt h),
    Action.outcome_bind_of_ok (Action.outcome_attempt hflush)]
  cases r with
  | error e => rfl
  | ok report => cases flushed <;> rfl

/-- What the machine maintains is maintained by a whole run, if the flush keeps it too. -/
theorem ends_run {machine : Machine σ'} {allowed : Call → Prop} {inv : Traffic σ' → Prop}
    {v : Traffic σ'} (hm : machine.Maintains allowed inv)
    (hallows : vol.image.Allows vol.layout allowed)
    (hflush : ∀ v, inv v → (machine.device.perform .flush).Ends World.traffic v
      (fun _ => inv) (fun _ => inv)) (hv : inv v) :
    ((vol.on machine.device).run m machine.source).Ends World.traffic v
      (fun _ => inv) (fun _ => inv) := by
  have hanswer : ∀ (outcome : Except VolumeError Report) (flushed : Except VolumeError Unit)
      (v₁ : Traffic σ'), inv v₁ → Action.Ends (σ := σ') (do
        let report ← Action.ofExcept outcome
        Action.ofExcept flushed
        return report) World.traffic v₁ (fun _ => inv) (fun _ => inv) := by
    intro outcome flushed v₁ hv₁
    refine Action.ends_ofExcept_bind (fun report _ => ?_) (fun _ _ => hv₁)
    exact Action.ends_ofExcept_bind (fun _ _ => Action.ends_pure hv₁) (fun _ _ => hv₁)
  -- whatever has happened, the flush comes next
  have hflushed : ∀ (outcome : Except VolumeError Report) (v₁ : Traffic σ'), inv v₁ →
      Action.Ends (do
        let flushed ← Action.attempt (vol.on machine.device).image.flush
        let report ← Action.ofExcept outcome
        Action.ofExcept flushed
        return report) World.traffic v₁ (fun _ => inv) (fun _ => inv) := fun outcome v₁ hv₁ =>
    (hflush v₁ hv₁).attempt_bind (fun _ _ hv₂ => hanswer outcome _ _ hv₂)
      (fun _ _ hv₂ => hanswer outcome _ _ hv₂)
  exact (hm.ends (alike_runUnflushed hallows m) hv).attempt_bind
    (fun _ _ hv₁ => hflushed _ _ hv₁) (fun _ _ hv₁ => hflushed _ _ hv₁)

end Volume

end FatImage
