import FatImage.Proofs.FileDisk
import FatImage.Proofs.Reasons
import FatImage.Proofs.Sources

/-!
# A run over files as a run in memory

The files of a machine are state and source in one: the image is among them,
and so is what is placed on it. As long as no entry leads to the image the two
can be taken apart. `Filed` has the image as a disk in memory on the one side,
and the other files beside it on the other, and a call or a load keeps it so.
What is known of runs in memory then holds of the program.

A load is not told alike on both sides. It is the files that are related, and
not the words for what is missing.
-/

namespace FatImage

namespace Host

/-- The files of `t` are those beside a disk in memory, except that the file at `p` has
the bytes of the disk, and behind them the tail. Both have grown out of `base`. -/
structure Filed (base : Tree) (p : Place) (size : Nat) (tail : ByteArray) (t : Tree)
    (s : ByteArray × Tree) : Prop where
  holds : FileHolds s.2 p size tail t s.1
  here : t.here = s.2.here
  there : ∃ b, s.2.get? p = some (.file b)
  grown : base.Grown s.2

/-- What loading an entry below `root` answers, without a reason, and the files that it
leaves. -/
def quietly (root : String) : Loader Tree := fun e t =>
  ((loadUnder root e t).1.mapError fun _ => "", (loadUnder root e t).2)

variable {base t : Tree} {p q : Place} {n size : Nat} {tail : ByteArray} {s : ByteArray × Tree}
variable {root : String} {e : Entry}

theorem toOption_mapError {ε ε' α : Type} (r : Except ε α) (f : ε → ε') :
    (r.mapError f).toOption = r.toOption := by
  cases r <;> rfl

namespace Filed

theorem beside (h : Filed base p size tail t s) : s.2.Grown t := by
  refine ⟨h.here, fun q => ?_, fun q b hb => ?_⟩
  · by_cases hq : q = p
    · obtain ⟨b, hb⟩ := h.there
      rw [hq, h.holds.file, hb]
      exact ⟨nofun, nofun⟩
    · rw [h.holds.other q hq]
  · by_cases hq : q = p
    · rw [hq]
      exact ⟨_, h.holds.file⟩
    · exact ⟨b, by rw [h.holds.other q hq, hb]⟩

theorem answer (h : Filed base p size tail t s) (c : Call) :
    Filed base p size tail ((fileDevice p n size).answer c t).2
      (((Device.memory n).beside Tree).answer c s).2 where
  holds := (resembles_memory s.2 p n size tail).state c h.holds
  here := by
    rcases state_fileDevice_answer p n size c t with hsame | ⟨_, _, _, _, hpatch⟩
    · rw [hsame]
      exact h.here
    · rw [hpatch]
      exact h.here
  there := h.there
  grown := h.grown

/-- An entry that does not lead to the disk has the same bytes on both sides. -/
theorem load (h : Filed base p size tail t s)
    (he : base.target? (joinPath root e.source) ≠ some p) :
    (loadUnder root e t).1.toOption = (quietly root e s.2).1.toOption ∧
      Filed base p size tail (loadUnder root e t).2 (s.1, (quietly root e s.2).2) := by
  have htarget := h.beside.target?_eq
  have hother : ∀ q, q ≠ p →
      (loadUnder root e t).2.get? q = (loadUnder root e s.2).2.get? q := by
    intro q hq
    rw [get?_loadUnder, get?_loadUnder, h.holds.other q hq, Tree.creation?, Tree.creation?,
      htarget]
  refine ⟨?_, ⟨get?_loadUnder_of_some h.holds.file, h.holds.size_eq, hother⟩, ?_, ?_, ?_⟩
  · rw [quietly, toOption_mapError, toOption_loadUnder, toOption_loadUnder, htarget]
    rw [← h.grown.target?_eq] at he
    cases hplace : s.2.target? (joinPath root e.source) with
    | none => rfl
    | some q =>
        have hq : q ≠ p := fun hq => he (by rw [hplace, hq])
        rw [Option.bind_some, Option.bind_some, hother q hq]
  · rw [(grown_loadUnder root e t).here, h.here]
    exact (grown_loadUnder root e s.2).here.symm
  · obtain ⟨b, hb⟩ := h.there
    exact ⟨b, get?_loadUnder_of_some hb⟩
  · exact h.grown.trans (grown_loadUnder root e s.2)

end Filed

/-- A machine with files, and one with a disk in memory and files beside it. -/
def filed (base : Tree) (p : Place) (size : Nat) (tail : ByteArray) :
    Coupling Tree (ByteArray × Tree) where
  together v v' := Filed base p size tail v.state v'.state ∧ v.calls = v'.calls
  apart _ _ := False

theorem steady_filed : (filed base p size tail).Steady :=
  fun _ _ => id

theorem joins_filed : (filed base p size tail).Joins
    ⟨fileDevice p n size, .nothing⟩ ⟨(Device.memory n).beside Tree, .nothing⟩
    fun _ => True where
  transfer {c w w'} _ hw := by
    obtain ⟨hfiled, hcalls⟩ : Filed base p size tail w.state w'.state ∧ w.calls = w'.calls := hw
    have hanswer : ((fileDevice p n size).answer c w.state).1 =
        (((Device.memory n).beside Tree).answer c w'.state).1 :=
      (resembles_memory w'.state.2 p n size tail).answer c hfiled.holds
    obtain ⟨r, w₁, w₁', done, hx, hy, hw₁, hw₁'⟩ := Device.outcome_perform_of_eq hanswer
    refine .both hx hy ?_
    rw [hw₁, hw₁', hcalls]
    exact ⟨hfiled.answer c, rfl⟩
  load hw := .both rfl rfl hw
  whole _ hd := ((Device.readsWhole_memory n).beside Tree).size hd
  alone _ := .never

theorem supplies_filed {es : List Entry}
    (hes : ∀ e ∈ es, base.target? (joinPath root e.source) ≠ some p) :
    (filed base p size tail).Supplies (sourcesUnder root) (quietly root).source es := by
  intro e he w w' hw
  obtain ⟨hfiled, hcalls⟩ : Filed base p size tail w.state w'.state ∧ w.calls = w'.calls := hw
  obtain ⟨hanswer, hloaded⟩ := hfiled.load (hes e he)
  obtain ⟨w₁, hload, hw₁⟩ := outcome_sourcesUnder root e w
  refine ⟨_, w₁, _, _, hload, (quietly root).outcome_source e w', hanswer, ?_⟩
  rw [hw₁]
  exact ⟨hloaded, hcalls⟩

theorem filed_self {bytes : ByteArray} (h : t.get? p = some (.file bytes)) (hbase : base.Grown t)
    (n : Nat) : Filed base p (bytes.size - bytes.size % n) (partialSector n bytes) t
      (wholeSectors n bytes, t) where
  holds := fileHolds_self h n
  here := rfl
  there := ⟨bytes, h⟩
  grown := hbase

/-- A run over the file at `p` is a run in memory over its whole sectors, as long as no
entry leads to this file. -/
theorem fill_filed {l : Layout} {m : Manifest} {bytes : ByteArray}
    (h : t.get? p = some (.file bytes)) (hbase : base.Grown t) (n : Nat)
    (hes : ∀ e ∈ m.entries, base.target? (joinPath root e.source) ≠ some p) :
    ∃ r w r' w' left left',
      (fill (fileDevice p n (bytes.size - bytes.size % n)) l m (sourcesUnder root)).start t =
        (r, w) ∧
      (fill ((Device.memory n).beside Tree) l m (quietly root).source).start
        (wholeSectors n bytes, t) = (r', w') ∧
      Filed base p (bytes.size - bytes.size % n) (partialSector n bytes) w.state w'.state ∧
      Agree left left' r r' := by
  have hstart : (filed base p (bytes.size - bytes.size % n) (partialSector n bytes)).together
      (World.traffic ⟨t, #[]⟩) (World.traffic ⟨(wholeSectors n bytes, t), #[]⟩) :=
    ⟨filed_self h hbase n, rfl⟩
  obtain ⟨r, w, r', w', left, left', hx, hy, hw, hagree⟩ :=
    Coupling.fill_agreeing (l := l) (m := m) joins_filed steady_filed rfl (supplies_filed hes)
      hstart
  rw [← Action.start_eq_outcome] at hx hy
  exact ⟨r, w, r', w', left, left', hx, hy, hw.1, hagree⟩

end Host

end FatImage
