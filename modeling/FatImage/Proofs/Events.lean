import FatImage.Proofs.AllOrNothing

/-!
# What an action adds to the journal

A journal is never rewritten: an action leaves it as it was and puts its own
events behind. So what there is to say about the order of events is said of
these alone. `Tells` says which they can be, if the action succeeds and if it
fails, and two actions one after the other tell what the first tells and then
what the second tells.

Most actions only call the device, and all there is to say is which calls
they make. What a write calls for lies between two bounds of whole sectors if
the bytes do: the sectors that it patches are those of its first and its last
byte.
-/

namespace FatImage

variable {σ τ : Type} {ε α β : Type} {look : σ → τ}

/-! ## Events -/

/-- The event is a call that is allowed, or the word that one was refused. -/
def Event.Transfers (allowed : Call → Prop) : Event → Prop
  | .call c _ => allowed c
  | .notice (.refused _ c _) => allowed c
  | _ => False

theorem Event.Transfers.mono {allowed allowed' : Call → Prop} (h : ∀ c, allowed c → allowed' c)
    {e : Event} (he : e.Transfers allowed) : e.Transfers allowed' := by
  unfold Transfers at he ⊢
  split at he
  · exact h _ he
  · exact h _ he
  · exact he.elim

/-- The sectors of a transfer lie from `first` up to `stop`, in bytes. -/
def Call.Lies (sectorSize first stop : Nat) : Call → Prop
  | .read lba length => first ≤ lba * sectorSize ∧ lba * sectorSize + length ≤ stop
  | .write lba data => first ≤ lba * sectorSize ∧ lba * sectorSize + data.size ≤ stop
  | .count | .flush => False

def Call.IsFlush : Call → Prop
  | .flush => True
  | .count | .read _ _ | .write _ _ => False

/-! ## Actions -/

namespace Action

/-- An action has added events, and they are right for how it ended. -/
inductive Told (post : α → List Event → Prop) (fail : ε → List Event → Prop) :
    Except ε α → List Event → Prop
  | ok {a : α} {new : List Event} (h : post a new) : Told post fail (.ok a) new
  | error {e : ε} {new : List Event} (h : fail e new) : Told post fail (.error e) new

/-- In every world, `x` adds events `post` and succeeds, or adds events `fail` and fails; and
what is looked at of the state stays what it is. -/
def Tells (x : Action σ ε α) (look : σ → τ) (post : α → List Event → Prop)
    (fail : ε → List Event → Prop) : Prop :=
  ∀ w, ∃ r w' new, x.outcome w = (r, w') ∧ w'.journal.toList = w.journal.toList ++ new ∧
    look w'.state = look w.state ∧ Told post fail r new

/-- Whether it succeeds or not, `x` adds only events of one kind. -/
def Adds (x : Action σ ε α) (look : σ → τ) (kind : Event → Prop) : Prop :=
  x.Tells look (fun _ new => ∀ e ∈ new, kind e) (fun _ new => ∀ e ∈ new, kind e)

variable {x : Action σ ε α} {f : α → Action σ ε β} {fail : ε → List Event → Prop}
variable {kind : Event → Prop}

theorem Tells.mono {post post' : α → List Event → Prop} {fail' : ε → List Event → Prop}
    (h : x.Tells look post fail) (hpost : ∀ a new, post a new → post' a new)
    (hfail : ∀ e new, fail e new → fail' e new) : x.Tells look post' fail' := by
  intro w
  obtain ⟨r, w', new, hx, hjournal, hlook, htold⟩ := h w
  refine ⟨r, w', new, hx, hjournal, hlook, ?_⟩
  cases htold with
  | ok h => exact .ok (hpost _ _ h)
  | error h => exact .error (hfail _ _ h)

theorem tells_pure {a : α} {post : α → List Event → Prop} (h : post a []) :
    (pure a : Action σ ε α).Tells look post fail :=
  fun w => ⟨.ok a, w, [], rfl, (List.append_nil _).symm, rfl, .ok h⟩

theorem tells_throw {e : ε} {post : α → List Event → Prop} (h : fail e []) :
    (throw e : Action σ ε α).Tells look post fail :=
  fun w => ⟨.error e, w, [], rfl, (List.append_nil _).symm, rfl, .error h⟩

theorem tells_record {e : Event} {post : Unit → List Event → Prop} (h : post () [e]) :
    (record e : Action σ ε Unit).Tells look post fail :=
  fun w => ⟨.ok (), ⟨w.state, w.journal.push e⟩, [e], rfl, Array.toList_push, rfl, .ok h⟩

/-- The events of the second action come behind those of the first. -/
theorem Tells.bind {mid : α → List Event → Prop} {early : ε → List Event → Prop}
    {post : β → List Event → Prop} (hx : x.Tells look mid early)
    (hf : ∀ a front, mid a front → (f a).Tells look (fun b back => post b (front ++ back))
      fun e back => fail e (front ++ back))
    (hearly : ∀ e front, early e front → fail e front) :
    (x >>= f).Tells look post fail := by
  intro w
  obtain ⟨r, w₁, front, hx, hjournal, hlook, htold⟩ := hx w
  cases htold with
  | error h =>
      exact ⟨.error _, w₁, front, outcome_bind_of_error hx, hjournal, hlook,
        .error (hearly _ front h)⟩
  | ok h =>
      obtain ⟨r, w', back, hf, hjournal', hlook', htold⟩ := hf _ front h w₁
      refine ⟨r, w', front ++ back, (outcome_bind_of_ok hx).trans hf, ?_,
        hlook'.trans hlook, ?_⟩
      · rw [hjournal', hjournal, List.append_assoc]
      · cases htold with
        | ok h => exact .ok h
        | error h => exact .error h

/-- An attempt tells what is told, and what comes next deals with the failure. -/
theorem Tells.attempt_bind {ε' : Type} {g : Except ε α → Action σ ε' β}
    {mid : α → List Event → Prop} {early : ε → List Event → Prop}
    {post : β → List Event → Prop} {fail : ε' → List Event → Prop} (hx : x.Tells look mid early)
    (hok : ∀ a front, mid a front → (g (.ok a)).Tells look
      (fun b back => post b (front ++ back)) fun e back => fail e (front ++ back))
    (herror : ∀ e front, early e front → (g (.error e)).Tells look
      (fun b back => post b (front ++ back)) fun e back => fail e (front ++ back)) :
    (attempt x >>= g).Tells look post fail := by
  have hattempt : (attempt x : Action σ ε' (Except ε α)).Tells look (Told mid early)
      (fun _ _ => False) := by
    intro w
    obtain ⟨r, w', new, hx, hjournal, hlook, htold⟩ := hx w
    exact ⟨.ok r, w', new, outcome_attempt hx, hjournal, hlook, .ok htold⟩
  refine hattempt.bind (fun r front hfront => ?_) fun _ _ => False.elim
  cases hfront with
  | ok h => exact hok _ front h
  | error h => exact herror _ front h

theorem tells_record_bind {e : Event} {f : Unit → Action σ ε β} {post : β → List Event → Prop}
    (h : (f ()).Tells look (fun b back => post b (e :: back)) fun e' back => fail e' (e :: back)) :
    (record e >>= f).Tells look post fail := by
  have hrecord : (record e : Action σ ε Unit).Tells look (fun _ front => front = [e])
      (fun _ _ => False) := tells_record rfl
  refine hrecord.bind ?_ fun _ _ => False.elim
  rintro _ _ rfl
  exact h

theorem tells_ofExcept_bind {r : Except ε α} {post : β → List Event → Prop}
    (hok : ∀ a, r = .ok a → (f a).Tells look post fail) (herror : ∀ e, r = .error e → fail e []) :
    (ofExcept r >>= f).Tells look post fail := by
  cases r with
  | ok a => exact hok a rfl
  | error e => exact fun w => ⟨.error e, w, [], rfl, (List.append_nil _).symm, rfl,
      .error (herror e rfl)⟩

/-! ## Actions that add one kind of events -/

theorem adds_pure {a : α} : (pure a : Action σ ε α).Adds look kind :=
  tells_pure (List.forall_mem_nil _)

theorem adds_throw {e : ε} : (throw e : Action σ ε α).Adds look kind :=
  tells_throw (List.forall_mem_nil _)

theorem adds_record {e : Event} (h : kind e) : (record e : Action σ ε Unit).Adds look kind :=
  tells_record (List.forall_mem_singleton.2 h)

theorem Adds.mono {kind' : Event → Prop} (h : x.Adds look kind) (hkind : ∀ e, kind e → kind' e) :
    x.Adds look kind' :=
  Tells.mono h (fun _ _ hnew e he => hkind e (hnew e he)) fun _ _ hnew e he => hkind e (hnew e he)

/-- An action with an answer that matters for the kind of what comes next. -/
theorem Tells.bind_adds {P : α → Prop}
    (hx : x.Tells look (fun a new => P a ∧ ∀ e ∈ new, kind e) fun _ new => ∀ e ∈ new, kind e)
    (hf : ∀ a, P a → (f a).Adds look kind) : (x >>= f).Adds look kind := by
  refine Tells.bind hx (fun a front hfront => ?_) fun _ _ hfront => hfront
  refine Tells.mono (hf a hfront.1) ?_ ?_ <;>
    exact fun _ back hback => List.forall_mem_append.2 ⟨hfront.2, hback⟩

theorem Adds.bind (hx : x.Adds look kind) (hf : ∀ a, (f a).Adds look kind) :
    (x >>= f).Adds look kind :=
  Tells.bind_adds (P := fun _ => True)
    (Tells.mono hx (fun _ _ hnew => ⟨trivial, hnew⟩) fun _ _ hnew => hnew) fun a _ => hf a

theorem adds_ofExcept_bind {r : Except ε α} (h : ∀ a, r = .ok a → (f a).Adds look kind) :
    (ofExcept r >>= f).Adds look kind :=
  tells_ofExcept_bind h fun _ _ => List.forall_mem_nil _

theorem adds_forEach {f : Nat → Action σ ε Unit} {count first : Nat}
    (h : ∀ i, first ≤ i → i < first + count → (f i).Adds look kind) :
    (forEach f count first).Adds look kind := by
  induction count generalizing first with
  | zero => exact adds_pure
  | succ count ih =>
      rw [forEach]
      exact (h first (Nat.le_refl _) (by omega)).bind fun _ =>
        ih fun i hi hi' => h i (by omega) (by omega)

end Action

/-! ## Calls -/

section

variable {d : Device σ} {c : Call}

theorem Device.tells_ask (hlook : ∀ c s, look (d.answer c s).2 = look s) :
    (d.ask c).Tells look
      (fun a new => (∃ s s', d.answer c s = (.ok a, s')) ∧ new = [.call c true])
      (fun _ new => new = [.call c false]) := by
  rintro ⟨s, events⟩
  have hsame := hlook c s
  rcases hd : d.answer c s with ⟨why | a, s'⟩
  · rw [hd] at hsame
    exact ⟨.error why, ⟨s', events.push (.call c false)⟩, _, by simp [Action.outcome, ask, hd],
      Array.toList_push, hsame, .error rfl⟩
  · rw [hd] at hsame
    exact ⟨.ok a, ⟨s', events.push (.call c true)⟩, _, by simp [Action.outcome, ask, hd],
      Array.toList_push, hsame, .ok ⟨⟨s, s', hd⟩, rfl⟩⟩

theorem Device.tells_perform (allowed : Call → Prop)
    (hlook : ∀ c s, look (d.answer c s).2 = look s) (hc : allowed c) :
    (d.perform c).Tells look
      (fun a new => (∃ s s', d.answer c s = (.ok a, s')) ∧ ∀ e ∈ new, e.Transfers allowed)
      (fun _ new => ∀ e ∈ new, e.Transfers allowed) := by
  have hcall : ∀ done, (Event.call c done).Transfers allowed := fun _ => hc
  refine (tells_ask hlook).attempt_bind ?_ ?_
  · rintro a _ ⟨hd, rfl⟩
    exact Action.tells_pure ⟨hd, List.forall_mem_singleton.2 (hcall true)⟩
  · rintro why _ rfl
    refine Action.tells_record_bind (Action.tells_throw ?_)
    exact List.forall_mem_cons.2 ⟨hcall false, List.forall_mem_singleton.2 hc⟩

end

/-! ## Byte ranges -/

namespace Image

/-- The device answers whole sectors, and leaves alone what is looked at. -/
structure Watched (img : Image σ) (look : σ → τ) : Prop where
  whole : img.device.ReadsWhole
  unseen : ∀ c s, look (img.device.answer c s).2 = look s

variable {img : Image σ} {allowed : Call → Prop} {lba pos length first stop : Nat}
variable {data : ByteArray}

theorem Watched.readSector (h : img.Watched look) (hc : allowed (.read lba img.sectorSize)) :
    (img.readSector lba).Tells look
      (fun sector new => sector.size = img.sectorSize ∧ ∀ e ∈ new, e.Transfers allowed)
      (fun _ new => ∀ e ∈ new, e.Transfers allowed) := by
  refine (Device.tells_perform allowed h.unseen hc).mono ?_ fun _ _ hnew => hnew
  rintro sector new ⟨⟨s, s', hd⟩, hnew⟩
  exact ⟨h.whole.size hd, hnew⟩

theorem Watched.writeSectors (h : img.Watched look) (hc : allowed (.write lba data)) :
    (img.writeSectors lba data).Adds look (Event.Transfers allowed) :=
  (Device.tells_perform allowed h.unseen hc).mono (fun _ _ hnew => hnew.2) fun _ _ hnew => hnew

theorem Watched.readFrom (h : img.Watched look)
    (hallowed : ∀ lba, allowed (.read lba img.sectorSize)) (pos length : Nat)
    (front : ByteArray) :
    (img.readFrom pos length front).Adds look (Event.Transfers allowed) := by
  induction length using Nat.strongRecOn generalizing pos front with
  | ind length ih =>
    unfold Image.readFrom
    split
    · exact Action.adds_pure
    · next hne =>
        have hchunk := img.inSector_pos pos (Nat.pos_of_ne_zero hne)
        refine (h.readSector (hallowed _)).bind_adds fun sector _ => ?_
        exact ih _ (by omega) _ _

theorem Watched.readAt (h : img.Watched look)
    (hallowed : ∀ lba, allowed (.read lba img.sectorSize)) (offset length : Nat) :
    (img.readAt offset length).Adds look (Event.Transfers allowed) := by
  rw [readAt_eq]
  exact Action.adds_ofExcept_bind fun _ _ => h.readFrom hallowed _ _ _

/-- The sector of a byte lies between two bounds of sectors if the byte does. -/
theorem sector_lies (img : Image σ) (hfirst : img.sectorSize ∣ first)
    (hstop : img.sectorSize ∣ stop) (hpos : first ≤ pos) (hpos' : pos < stop) :
    first ≤ pos / img.sectorSize * img.sectorSize ∧
      pos / img.sectorSize * img.sectorSize + img.sectorSize ≤ stop := by
  have hs := img.sectorSize_pos
  obtain ⟨a, rfl⟩ := hfirst
  obtain ⟨b, rfl⟩ := hstop
  have ha : a ≤ pos / img.sectorSize := by
    rw [Nat.le_div_iff_mul_le hs, Nat.mul_comm]
    exact hpos
  have hb : pos / img.sectorSize + 1 ≤ b := by
    rw [Nat.succ_le_iff, Nat.div_lt_iff_lt_mul hs, Nat.mul_comm]
    exact hpos'
  have hmul := Nat.mul_le_mul_right img.sectorSize ha
  have hmul' := Nat.mul_le_mul_right img.sectorSize hb
  rw [Nat.succ_mul, Nat.mul_comm b] at hmul'
  rw [Nat.mul_comm a] at hmul
  exact ⟨hmul, hmul'⟩

theorem Watched.writeFrom (h : img.Watched look) (hfirst : img.sectorSize ∣ first)
    (hstop : img.sectorSize ∣ stop) (hpos : first ≤ pos) (hend : pos + data.size ≤ stop) :
    (img.writeFrom pos data).Adds look
      (Event.Transfers (Call.Lies img.sectorSize first stop)) := by
  induction pos, data using img.writeFrom_induct with
  | empty pos data hempty =>
      rw [writeFrom_of_empty pos hempty]
      exact Action.adds_pure
  | whole pos data n hfront ih =>
      have hle := hfront.le
      have hsize := Bytes.size_extract_zero hle
      have hrest := Bytes.size_extract_rest data n
      -- whole sectors start at the byte itself
      have hstart : pos / img.sectorSize * img.sectorSize = pos :=
        Nat.div_mul_cancel (Nat.dvd_of_mod_eq_zero hfront.start)
      rw [hfront.writeFrom_eq]
      refine (h.writeSectors ⟨?_, ?_⟩).bind fun _ => ih (by omega) (by omega)
      · rw [hstart]
        exact hpos
      · rw [hstart]
        omega
  | part pos data n hfront ih =>
      have hn := hfront.nonempty
      have hle := hfront.le
      have hinside := hfront.inside
      have hsize := Bytes.size_extract_zero hle
      have hrest := Bytes.size_extract_rest data n
      have hread : Call.Lies img.sectorSize first stop
          (.read (pos / img.sectorSize) img.sectorSize) :=
        img.sector_lies hfirst hstop hpos (by omega)
      rw [hfront.writeFrom_eq]
      refine (h.readSector hread).bind_adds fun sector hsector => ?_
      refine (h.writeSectors ⟨hread.1, ?_⟩).bind fun _ => ih (by omega) (by omega)
      rw [Bytes.size_overwrite (by omega), hsector]
      exact hread.2

theorem Watched.writeAt (h : img.Watched look) (hfirst : img.sectorSize ∣ first)
    (hstop : img.sectorSize ∣ stop) (hpos : first ≤ pos) (hend : pos + data.size ≤ stop) :
    (img.writeAt pos data).Adds look
      (Event.Transfers (Call.Lies img.sectorSize first stop)) := by
  rw [writeAt_eq]
  exact Action.adds_ofExcept_bind fun _ _ => h.writeFrom hfirst hstop hpos hend

/-- Whatever is written, sectors are. -/
theorem Watched.writeAt_anywhere (h : img.Watched look) (pos : Nat) (data : ByteArray) :
    (img.writeAt pos data).Adds look (Event.Transfers fun _ => True) := by
  have hend : pos + data.size ≤ img.sectorSize * (pos + data.size) :=
    Nat.le_mul_of_pos_left _ img.sectorSize_pos
  exact (h.writeAt (Nat.dvd_zero _) (Nat.dvd_mul_right _ _) (Nat.zero_le _) hend).mono
    fun _ he => he.mono fun _ _ => trivial

theorem Watched.zeroFrom (h : img.Watched look) (pos length : Nat) :
    (img.zeroFrom pos length).Adds look (Event.Transfers fun _ => True) := by
  induction length using Nat.strongRecOn generalizing pos with
  | ind length ih =>
    unfold Image.zeroFrom
    split
    · exact Action.adds_pure
    · next hne =>
        have hs := img.sectorSize_pos
        refine (h.writeAt_anywhere _ _).bind fun _ => ih _ ?_ _
        rw [zeroSectors]
        omega

theorem Watched.zeroRange (h : img.Watched look) (pos length : Nat) :
    (img.zeroRange pos length).Adds look (Event.Transfers fun _ => True) := by
  rw [zeroRange_eq]
  exact Action.adds_ofExcept_bind fun _ _ => h.zeroFrom pos length

theorem Watched.flush (h : img.Watched look) :
    img.flush.Adds look (Event.Transfers Call.IsFlush) :=
  have hcall : Call.IsFlush .flush := trivial
  (Device.tells_perform Call.IsFlush h.unseen hcall).mono (fun _ _ hnew => hnew.2)
    fun _ _ hnew => hnew

end Image

end FatImage
