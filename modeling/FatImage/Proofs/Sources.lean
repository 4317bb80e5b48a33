import FatImage.Host.Sources
import FatImage.Proofs.Lockstep
import FatImage.Proofs.Paths

/-!
# What loading an entry does to the files of a machine

An entry leads to a place, or to none. If there is a file at the place, it is
read; if there is nothing and the entry declares a placeholder, a file of
zeros is created there, and it is read from then on. Nothing else is ever
done: `Loads` has a constructor for each of the four things that may come of
loading an entry, and no place but its own is touched in any of them.

So what a list of entries creates can be said in advance. For every place
where nothing is, it is a file of the size that is declared by the first of
those entries that lead there and declare one: `get?_after`.
-/

namespace FatImage

/-- The state in which a loader is when it was asked for these entries. -/
def Loader.after {τ : Type} (load : Loader τ) (es : List Entry) (t : τ) : τ :=
  es.foldl (fun t e => (load e t).2) t

namespace Host

variable {t t' : Tree}

/-- What loading an entry below `root` answers, and the files that it leaves. -/
def loadUnder (root : String) : Loader Tree := fun e t =>
  match t.read (joinPath root e.source), e.placeholder with
  | .ok data, _ => (.ok data, t)
  | .error .notFound, some size =>
    match t.write (joinPath root e.source) (Bytes.zeros size.toNat) with
    | .ok t' => (.ok (Bytes.zeros size.toNat), t')
    | .error why => (.error (SourceError.cannotCreate (joinPath root e.source) why).message, t)
  | .error why, _ => (.error (SourceError.cannotRead (joinPath root e.source) why).message, t)

theorem outcome_createPlaceholder_of_error {path : String} {size : UInt32} {w : World Tree}
    {why : HostError} (h : w.state.write path (Bytes.zeros size.toNat) = .error why) :
    (createPlaceholder path size).outcome w = (.error (.cannotCreate path why), w) := by
  refine Action.outcome_bind_of_error ?_
  rw [Action.outcome_step, h]

theorem outcome_createPlaceholder_of_ok {path : String} {size : UInt32} {w : World Tree}
    (h : w.state.write path (Bytes.zeros size.toNat) = .ok t) :
    ∃ w₁, (createPlaceholder path size).outcome w = (.ok (Bytes.zeros size.toNat), w₁) ∧
      w₁.traffic = ⟨t, w.calls⟩ := by
  simp only [createPlaceholder, Action.step, Action.note, Action.record, Action.outcome, bind,
    EStateM.bind, h]
  exact ⟨_, rfl, World.traffic_push rfl⟩

/-- A load answers the same whatever was told before, and makes no call. -/
theorem outcome_sourcesUnder (root : String) (e : Entry) (w : World Tree) :
    ∃ w₁, (sourcesUnder root e).outcome w = ((loadUnder root e w.state).1, w₁) ∧
      w₁.traffic = ⟨(loadUnder root e w.state).2, w.calls⟩ := by
  have hget : (get : Action Tree SourceError (World Tree)).outcome w = (.ok w, w) := rfl
  suffices h : ∃ r w₁, (load root e).outcome w = (r, w₁) ∧
      r.mapError SourceError.message = (loadUnder root e w.state).1 ∧
      w₁.traffic = ⟨(loadUnder root e w.state).2, w.calls⟩ by
    obtain ⟨r, w₁, hload, hr, hw₁⟩ := h
    exact ⟨w₁, by rw [sourcesUnder, Action.outcome_mapError hload, hr], hw₁⟩
  unfold load loadUnder
  simp only [Action.outcome_bind_of_ok hget]
  cases w.state.read (joinPath root e.source) with
  | ok data => exact ⟨_, w, rfl, rfl, rfl⟩
  | error why =>
      cases e.placeholder with
      | none => cases why <;> exact ⟨_, w, rfl, rfl, rfl⟩
      | some size =>
          cases why with
          | notDirectory | isDirectory | nameTooLong | badPath | badText =>
              exact ⟨_, w, rfl, rfl, rfl⟩
          | notFound =>
              dsimp only
              cases hwrite : w.state.write (joinPath root e.source) (Bytes.zeros size.toNat) with
              | error why =>
                  exact ⟨_, w, outcome_createPlaceholder_of_error hwrite, rfl, rfl⟩
              | ok t' =>
                  obtain ⟨w₁, hcreate, hw₁⟩ := outcome_createPlaceholder_of_ok hwrite
                  exact ⟨_, w₁, hcreate, rfl, hw₁⟩

theorem unread_sourcesUnder (root : String) : (sourcesUnder root).Unread := by
  intro e w w' hw
  have hstate : w.state = w'.state := congrArg Traffic.state hw
  have hcalls : w.calls = w'.calls := congrArg Traffic.calls hw
  obtain ⟨w₁, hx, hw₁⟩ := outcome_sourcesUnder root e w
  obtain ⟨w₁', hy, hw₁'⟩ := outcome_sourcesUnder root e w'
  rw [← hstate] at hy hw₁'
  exact ⟨_, w₁, w₁', hx, hy, by rw [hw₁, hw₁', hcalls]⟩

/-! ## What may come of a load -/

/-- What loading an entry may answer, and the files that it may leave. -/
inductive Loads (root : String) (e : Entry) (t : Tree) :
    Except String ByteArray × Tree → Prop where
  | found {q : Place} {b : ByteArray} (hplace : t.target? (joinPath root e.source) = some q)
      (hfile : t.get? q = some (.file b)) : Loads root e t (.ok b, t)
  | created {q : Place} {size : UInt32}
      (hplace : t.target? (joinPath root e.source) = some q) (hvacant : t.get? q = none)
      (hsize : e.placeholder = some size) :
      Loads root e t (.ok (Bytes.zeros size.toNat), t.put q (.file (Bytes.zeros size.toNat)))
  | missing {q : Place} {reason : String}
      (hplace : t.target? (joinPath root e.source) = some q) (hvacant : t.get? q = none)
      (hsize : e.placeholder = none) : Loads root e t (.error reason, t)
  | nowhere {reason : String} (hplace : t.target? (joinPath root e.source) = none) :
      Loads root e t (.error reason, t)

theorem loadUnder_of_found {root : String} {e : Entry} {q : Place} {b : ByteArray}
    (hplace : t.target? (joinPath root e.source) = some q) (hfile : t.get? q = some (.file b)) :
    loadUnder root e t = (.ok b, t) := by
  unfold loadUnder Tree.read
  rw [Tree.findFile_eq_ok_iff.2 ⟨hplace, hfile⟩]
  rfl

theorem loadUnder_of_missing {root : String} {e : Entry} {q : Place}
    (hplace : t.target? (joinPath root e.source) = some q) (hvacant : t.get? q = none)
    (hsize : e.placeholder = none) : ∃ reason, loadUnder root e t = (.error reason, t) := by
  unfold loadUnder Tree.read
  rw [Tree.findFile_of_vacant hplace hvacant, hsize]
  exact ⟨_, rfl⟩

theorem loadUnder_of_vacant {root : String} {e : Entry} {q : Place} {size : UInt32}
    (hplace : t.target? (joinPath root e.source) = some q) (hvacant : t.get? q = none)
    (hsize : e.placeholder = some size) : loadUnder root e t =
      (.ok (Bytes.zeros size.toNat), t.put q (.file (Bytes.zeros size.toNat))) := by
  unfold loadUnder Tree.read
  rw [Tree.findFile_of_vacant hplace hvacant, hsize]
  simp only [Except.map, Tree.write_of_target? hplace]

theorem loads_loadUnder (root : String) (e : Entry) (t : Tree) :
    Loads root e t (loadUnder root e t) := by
  cases hplace : t.target? (joinPath root e.source) with
  | none =>
      obtain ⟨why, hread⟩ := Tree.findFile_of_target?_eq_none hplace
      unfold loadUnder Tree.read
      rw [hread]
      cases hsize : e.placeholder with
      | none => cases why <;> exact .nowhere hplace
      | some size =>
          obtain ⟨why', hwrite⟩ := Tree.write_of_target?_eq_none hplace (Bytes.zeros size.toNat)
          cases why with
          | notFound =>
              simp only [Except.map, hwrite]
              exact .nowhere hplace
          | notDirectory | isDirectory | nameTooLong | badPath | badText => exact .nowhere hplace
  | some q =>
      rcases hget : t.get? q with _ | b | _
      · cases hsize : e.placeholder with
        | none =>
            obtain ⟨reason, hload⟩ := loadUnder_of_missing hplace hget hsize
            rw [hload]
            exact .missing hplace hget hsize
        | some size =>
            rw [loadUnder_of_vacant hplace hget hsize]
            exact .created hplace hget hsize
      · rw [loadUnder_of_found hplace hget]
        exact .found hplace hget
      · exact absurd hget (Tree.get?_ne_directory_of_target? hplace)

/-- No file and no directory is lost by a load. -/
theorem grown_loadUnder (root : String) (e : Entry) (t : Tree) :
    t.Grown (loadUnder root e t).2 := by
  have hloads := loads_loadUnder root e t
  generalize loadUnder root e t = loaded at hloads ⊢
  cases hloads with
  | found | missing | nowhere => exact .refl t
  | created hplace hvacant _ =>
      exact .put (Tree.ne_nil_of_target? hplace) (by rw [hvacant]; nofun) _

/-- The size of the file that loading the entry creates at a place where nothing is. -/
def Tree.creation? (t : Tree) (root : String) (q : Place) (e : Entry) : Option UInt32 :=
  if t.target? (joinPath root e.source) = some q then e.placeholder else none

/-- A file of so many zeros. -/
def Node.blank (size : UInt32) : Node :=
  .file (Bytes.zeros size.toNat)

theorem get?_loadUnder (root : String) (e : Entry) (t : Tree) (q : Place) :
    (loadUnder root e t).2.get? q = (t.get? q).or ((t.creation? root q e).map .blank) := by
  have hloads := loads_loadUnder root e t
  generalize loadUnder root e t = loaded at hloads ⊢
  unfold Tree.creation?
  cases hloads with
  | nowhere hplace => simp [hplace]
  | missing hplace _ hsize => simp [hsize]
  | @found q' b hplace hfile =>
      split
      · next hq =>
          obtain rfl : q' = q := Option.some.inj (hplace.symm.trans hq)
          rw [hfile]
          rfl
      · rw [Option.map_none, Option.or_none]
  | @created q' size hplace hvacant hsize =>
      rw [Tree.get?_put (Tree.ne_nil_of_target? hplace), hplace, hsize]
      by_cases hq : q = q'
      · rw [if_pos hq, if_pos (by rw [hq]), hq, hvacant]
        rfl
      · rw [if_neg hq, if_neg (by rw [Option.some.injEq]; exact fun h => hq h.symm),
          Option.map_none, Option.or_none]

/-- The bytes of a file. -/
def Node.content? : Node → Option ByteArray
  | .file b => some b
  | .directory => none

/-- The answer is what stands at the place of the entry once it is loaded. -/
theorem toOption_loadUnder (root : String) (e : Entry) (t : Tree) :
    (loadUnder root e t).1.toOption = (t.target? (joinPath root e.source)).bind fun q =>
      ((loadUnder root e t).2.get? q).bind Node.content? := by
  have hloads := loads_loadUnder root e t
  generalize loadUnder root e t = loaded at hloads ⊢
  cases hloads with
  | nowhere hplace => simp [hplace, Except.toOption]
  | missing hplace hvacant _ => simp [hplace, hvacant, Except.toOption]
  | found hplace hfile => simp [hplace, hfile, Except.toOption, Node.content?]
  | created hplace hvacant _ =>
      simp [hplace, Tree.get?_put (Tree.ne_nil_of_target? hplace), Except.toOption,
        Node.content?]

/-- What is there stays as it is. -/
theorem get?_loadUnder_of_some {root : String} {e : Entry} {q : Place} {n : Node}
    (h : t.get? q = some n) : (loadUnder root e t).2.get? q = some n := by
  rw [get?_loadUnder, h]
  rfl

theorem ends_sourcesUnder {root : String} {e : Entry} {v : Traffic Tree} {P : Tree → Prop}
    (h : P (loadUnder root e v.state).2) :
    (sourcesUnder root e).Ends World.traffic v (fun _ v' => P v'.state)
      (fun _ v' => P v'.state) := by
  refine Action.ends_of_outcome fun w hw => ?_
  obtain ⟨w₁, hload, hw₁⟩ := outcome_sourcesUnder root e w
  subst hw
  exact ⟨_, w₁, hload, fun _ _ => by rw [hw₁]; exact h, fun _ _ => by rw [hw₁]; exact h⟩

/-! ## Loading one entry after the other -/

theorem Tree.Grown.creation?_eq (h : t.Grown t') (root : String) (q : Place) :
    t'.creation? root q = t.creation? root q := by
  funext e
  rw [Tree.creation?, Tree.creation?, h.target?_eq]

theorem grown_after (root : String) (es : List Entry) (t : Tree) :
    t.Grown ((loadUnder root).after es t) := by
  induction es generalizing t with
  | nil => exact .refl t
  | cons e rest ih => exact (grown_loadUnder root e t).trans (ih _)

/-- What a list of entries creates, and nothing else, is there when they are loaded. -/
theorem get?_after (root : String) (es : List Entry) (t : Tree) (q : Place) :
    ((loadUnder root).after es t).get? q =
      (t.get? q).or ((es.findSome? (t.creation? root q)).map .blank) := by
  induction es generalizing t with
  | nil => rw [List.findSome?_nil, Option.map_none, Option.or_none]; rfl
  | cons e rest ih =>
      rw [Loader.after, List.foldl_cons, ← Loader.after, ih,
        (grown_loadUnder root e t).creation?_eq, get?_loadUnder, Option.or_assoc,
        List.findSome?_cons]
      cases t.creation? root q e with
      | none => rfl
      | some size => rfl

end Host

end FatImage
