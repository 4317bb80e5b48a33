import FatImage.Host.Tree

/-!
# Where a path leads

A path that a file can be read from or written to leads to a place, whether
or not there is a file at it yet: `target?` is this place, and it is all that
has to be known of a path. What is read is what is there, and a file is
created just where nothing is.

The walk along a path looks at directories only; of a file or of nothing it
takes no more notice than that it must be the last. So where a path leads
does not change as files are written and created, and `Grown` is the relation
of such trees. Only the words of a failure may then be others: a name that
was not there may have become a file, which is no directory either.
-/

namespace FatImage.Host.Tree

variable {t t' : Tree} {p q : Place} {path : String} {asked : List String}
variable {n : Option Node} {b data : ByteArray} {e : HostError}

/-- The place of the file that a path leads to, be it there or not. -/
def target? (t : Tree) (path : String) : Option Place :=
  match checkPath path, endsWithSlash path, t.walk (t.origin path) (names path) with
  | .ok (), false, .ok (_, some .directory) => none
  | .ok (), false, .ok (p, _) => some p
  | _, _, _ => none

/-! ## Walks -/

section

variable {name : String} {rest : List String} (hdot : ¬ name = ".") (hup : ¬ name = "..")
variable (hlong : ¬ longestName < name.utf8ByteSize)
include hdot hup hlong

theorem walk_directory (h : t.get? (p ++ [name]) = some .directory) :
    t.walk p (name :: rest) = t.walk (p ++ [name]) rest := by
  rw [walk, if_neg hdot, if_neg hup, if_neg hlong]
  simp only [h]

theorem walk_last (h : t.get? (p ++ [name]) ≠ some .directory) (hrest : rest.isEmpty = true) :
    t.walk p (name :: rest) = .ok (p ++ [name], t.get? (p ++ [name])) := by
  rw [walk, if_neg hdot, if_neg hup, if_neg hlong]
  cases hget : t.get? (p ++ [name]) with
  | none => simp only [hget, hrest, if_true]
  | some n =>
      cases n with
      | directory => exact absurd hget h
      | file b => simp only [hget, hrest, if_true]

theorem walk_blocked (h : t.get? (p ++ [name]) ≠ some .directory)
    (hrest : ¬ rest.isEmpty = true) : t.walk p (name :: rest) =
      .error (if t.get? (p ++ [name]) = none then .notFound else .notDirectory) := by
  rw [walk, if_neg hdot, if_neg hup, if_neg hlong]
  cases hget : t.get? (p ++ [name]) with
  | none => simp only [hget, if_neg hrest, if_true]
  | some n =>
      cases n with
      | directory => exact absurd hget h
      | file b =>
          simp only [hget, if_neg hrest]
          rfl

end

/-- What ends with a dot leads to a directory, if anywhere. -/
theorem eq_directory_of_walk_dot (h : t.walk p (asked ++ ["."]) = .ok (q, n)) :
    n = some .directory := by
  induction asked generalizing p with
  | nil =>
      cases h
      rfl
  | cons name rest ih =>
      have hrest : (rest ++ ["."]).isEmpty = false := by cases rest <;> rfl
      rw [List.cons_append, walk] at h
      split at h
      · exact ih h
      · split at h
        · exact ih h
        · split at h
          · cases h
          · simp only [hrest] at h
            split at h
            · exact ih h
            · cases h
            · cases h

/-! ## Targets -/

theorem target?_eq_some_iff :
    t.target? path = some q ↔ checkPath path = .ok () ∧ endsWithSlash path = false ∧
      ∃ n, t.walk (t.origin path) (names path) = .ok (q, n) ∧ n ≠ some .directory := by
  unfold target?
  split
  · next hwalk =>
      refine ⟨nofun, ?_⟩
      rintro ⟨-, -, n, hn, hne⟩
      rw [hwalk] at hn
      cases hn
      exact absurd rfl hne
  · next hne hcheck hslash hwalk =>
      constructor
      · intro h
        cases h
        exact ⟨hcheck, hslash, _, hwalk, hne⟩
      · rintro ⟨-, -, n, hn, -⟩
        rw [hwalk] at hn
        cases hn
        rfl
  · next hnone =>
      refine ⟨nofun, ?_⟩
      rintro ⟨hcheck, hslash, n, hn, -⟩
      exact absurd hn (hnone _ _ hcheck hslash)

theorem get?_ne_directory_of_target? (h : t.target? path = some q) :
    t.get? q ≠ some .directory := by
  obtain ⟨-, -, n, hwalk, hn⟩ := target?_eq_some_iff.1 h
  rw [get?_of_walk hwalk hn]
  exact hn

/-- A path is read where it leads to a file. -/
theorem findFile_eq_ok_iff :
    t.findFile path = .ok (q, b) ↔ t.target? path = some q ∧ t.get? q = some (.file b) := by
  constructor
  · intro h
    refine ⟨?_, get?_of_findFile h⟩
    simp only [findFile, bind, Except.bind] at h
    split at h
    · cases h
    · next hcheck =>
        split at h
        · cases h
        · next hwalk =>
            split at h
            · cases h
              split at hwalk
              · cases eq_directory_of_walk_dot hwalk
              · next hslash =>
                  rw [List.append_nil] at hwalk
                  refine target?_eq_some_iff.2 ⟨hcheck, by simpa using hslash, _, hwalk, ?_⟩
                  intro hn
                  cases hn
            · cases h
            · cases h
  · rintro ⟨htarget, hfile⟩
    obtain ⟨hcheck, hslash, n, hwalk, hn⟩ := target?_eq_some_iff.1 htarget
    rw [get?_of_walk hwalk hn] at hfile
    simp only [findFile, bind, Except.bind, hcheck, hslash, Bool.false_eq_true, if_false,
      List.append_nil, hwalk, hfile]
    rfl

theorem readText_eq (t : Tree) (path : String) : t.readText path =
    (t.findFile path).bind fun found =>
      (String.fromUTF8? found.2).elim (.error .badText) .ok := by
  simp only [readText, read]
  cases t.findFile path with
  | error why => rfl
  | ok found =>
      simp only [bind, Except.bind, Except.map]
      cases String.fromUTF8? found.2 <;> rfl

/-- Where there is nothing yet, nothing is found. -/
theorem findFile_of_vacant (h : t.target? path = some q) (hq : t.get? q = none) :
    t.findFile path = .error .notFound := by
  obtain ⟨hcheck, hslash, n, hwalk, hn⟩ := target?_eq_some_iff.1 h
  rw [get?_of_walk hwalk hn] at hq
  simp only [findFile, bind, Except.bind, hcheck, hslash, Bool.false_eq_true, if_false,
    List.append_nil, hwalk, hq]
  rfl

theorem findFile_of_target?_eq_none (h : t.target? path = none) :
    ∃ e, t.findFile path = .error e := by
  cases hfound : t.findFile path with
  | error e => exact ⟨e, rfl⟩
  | ok r =>
      rw [(findFile_eq_ok_iff.1 hfound).1] at h
      cases h

/-- A path can be written to just if it leads to a place. -/
theorem write_of_target? (h : t.target? path = some q) (data : ByteArray) :
    t.write path data = .ok (t.put q (.file data)) := by
  obtain ⟨hcheck, hslash, n, hwalk, hn⟩ := target?_eq_some_iff.1 h
  simp only [write, bind, Except.bind, hcheck, hslash, Bool.false_eq_true, if_false, hwalk]
  rfl

theorem write_of_target?_eq_none (h : t.target? path = none) (data : ByteArray) :
    ∃ e, t.write path data = .error e := by
  cases hwrite : t.write path data with
  | error e => exact ⟨e, rfl⟩
  | ok t' =>
      simp only [write, bind, Except.bind] at hwrite
      split at hwrite
      · cases hwrite
      · next hcheck =>
          split at hwrite
          · split at hwrite <;> cases hwrite
          · next hslash =>
              split at hwrite
              · cases hwrite
              · next hwalk =>
                  split at hwrite
                  · cases hwrite
                  · next hn =>
                      have hplace := target?_eq_some_iff.2
                        ⟨hcheck, Bool.eq_false_iff.2 hslash, _, hwalk, hn⟩
                      rw [h] at hplace
                      cases hplace

/-! ## What is put at a place -/

theorem get?_put (hq : q ≠ []) (n : Node) (q' : Place) :
    (t.put q n).get? q' = if q' = q then some n else t.get? q' := by
  unfold put get?
  by_cases hsome : (t.nodes.lookup q).isSome
  · rw [if_pos hsome]
    simp only [lookup_changeNode]
    by_cases hq' : q' = q
    · subst hq'
      obtain ⟨n', hn'⟩ := Option.isSome_iff_exists.1 hsome
      simp [hq, hn']
    · simp [hq']
  · rw [if_neg hsome]
    rw [Option.not_isSome_iff_eq_none] at hsome
    simp only [List.lookup_append]
    by_cases hq' : q' = q
    · subst hq'
      simp [hq, hsome]
    · have hb : (q' == q) = false := by simp [hq']
      simp [hq', List.lookup_cons, hb]

theorem ne_nil_of_target? (h : t.target? path = some q) : q ≠ [] := by
  intro hnil
  subst hnil
  exact get?_ne_directory_of_target? h rfl

/-! ## Trees that have grown -/

/-- `t'` has the directories of `t`, and at least its files. -/
structure Grown (t t' : Tree) : Prop where
  here : t'.here = t.here
  directory : ∀ q, t'.get? q = some .directory ↔ t.get? q = some .directory
  file : ∀ q b, t.get? q = some (.file b) → ∃ b', t'.get? q = some (.file b')

namespace Grown

theorem refl (t : Tree) : Grown t t :=
  ⟨rfl, fun _ => Iff.rfl, fun _ b hb => ⟨b, hb⟩⟩

theorem trans {t'' : Tree} (h : Grown t t') (h' : Grown t' t'') : Grown t t'' := by
  refine ⟨h'.here.trans h.here, fun q => (h'.directory q).trans (h.directory q), ?_⟩
  intro q b hb
  obtain ⟨b', hb'⟩ := h.file q b hb
  exact h'.file q b' hb'

theorem put (hq : q ≠ []) (hn : t.get? q ≠ some .directory) (b : ByteArray) :
    Grown t (t.put q (.file b)) := by
  refine ⟨?_, fun q' => ?_, fun q' b' hb' => ?_⟩
  · unfold Tree.put
    split <;> rfl
  · rw [get?_put hq]
    split
    · next hq' =>
        rw [hq']
        exact ⟨nofun, fun hd => absurd hd hn⟩
    · exact Iff.rfl
  · rw [get?_put hq]
    split
    · exact ⟨b, rfl⟩
    · exact ⟨b', hb'⟩

theorem patch (hp : t.get? p = some (.file b)) (offset : Nat) (data : ByteArray) :
    Grown t (t.patch p offset data) := by
  have hself := get?_patch_self hp offset data
  refine ⟨rfl, fun q => ?_, fun q b' hb' => ?_⟩
  · by_cases hq : q = p
    · rw [hq, hself, hp]
      exact ⟨nofun, nofun⟩
    · rw [get?_patch_of_ne hq]
  · by_cases hq : q = p
    · rw [hq]
      exact ⟨_, hself⟩
    · rw [get?_patch_of_ne hq]
      exact ⟨b', hb'⟩

theorem ne_directory (h : Grown t t') (hq : t.get? q ≠ some .directory) :
    t'.get? q ≠ some .directory :=
  fun hq' => hq ((h.directory q).1 hq')

/-- A walk that leads somewhere leads to the same place. -/
theorem walk_ok (h : Grown t t') (hwalk : t.walk p asked = .ok (q, n)) :
    t'.walk p asked = .ok (q, if n = some .directory then n else t'.get? q) := by
  fun_induction walk t p asked with
  | case1 p =>
      cases hwalk
      rw [walk, if_pos rfl]
  | case2 _ _ ih =>
      rw [walk, if_pos rfl]
      exact ih hwalk
  | case3 _ _ hdot ih =>
      rw [walk, if_neg hdot, if_pos rfl]
      exact ih hwalk
  | case5 _ _ _ hdot hup hlong _ hget ih =>
      rw [walk_directory hdot hup hlong ((h.directory _).2 hget)]
      exact ih hwalk
  | case6 _ _ _ hdot hup hlong _ _ hget hlast | case8 _ _ _ hdot hup hlong _ hget hlast =>
      rw [Except.ok.injEq, Prod.mk.injEq] at hwalk
      obtain ⟨rfl, rfl⟩ := hwalk
      exact walk_last hdot hup hlong (h.ne_directory (by rw [hget]; nofun)) hlast
  | case4 | case7 | case9 => cases hwalk

/-- A walk that fails still fails. -/
theorem walk_error (h : Grown t t') (hwalk : t.walk p asked = .error e) :
    ∃ e', t'.walk p asked = .error e' := by
  fun_induction walk t p asked with
  | case2 _ _ ih =>
      rw [walk, if_pos rfl]
      exact ih hwalk
  | case3 _ _ hdot ih =>
      rw [walk, if_neg hdot, if_pos rfl]
      exact ih hwalk
  | case4 _ _ _ hdot hup hlong =>
      rw [walk, if_neg hdot, if_neg hup, if_pos hlong]
      exact ⟨_, rfl⟩
  | case5 _ _ _ hdot hup hlong _ hget ih =>
      rw [walk_directory hdot hup hlong ((h.directory _).2 hget)]
      exact ih hwalk
  | case7 _ _ _ hdot hup hlong _ _ hget hlast | case9 _ _ _ hdot hup hlong _ hget hlast =>
      exact ⟨_, walk_blocked hdot hup hlong (h.ne_directory (by rw [hget]; nofun)) hlast⟩
  | case1 | case6 | case8 => cases hwalk

theorem origin_eq (h : Grown t t') (path : String) : t'.origin path = t.origin path := by
  rw [origin, origin, h.here]

/-- A path still leads where it led. -/
theorem target?_eq (h : Grown t t') (path : String) : t'.target? path = t.target? path := by
  refine Option.ext fun q => ?_
  rw [target?_eq_some_iff, target?_eq_some_iff, h.origin_eq]
  refine and_congr_right fun _ => and_congr_right fun _ => ⟨?_, ?_⟩
  · rintro ⟨n, hwalk, hn⟩
    cases hold : t.walk (t.origin path) (names path) with
    | error e =>
        obtain ⟨e', he'⟩ := h.walk_error hold
        rw [he'] at hwalk
        cases hwalk
    | ok r =>
        have hnew := h.walk_ok hold
        rw [hwalk, Except.ok.injEq, Prod.mk.injEq] at hnew
        refine ⟨r.2, by rw [hnew.1], fun hr => hn ?_⟩
        rw [hnew.2, if_pos hr, hr]
  · rintro ⟨n, hwalk, hn⟩
    have hnew := h.walk_ok hwalk
    rw [if_neg hn] at hnew
    refine ⟨_, hnew, h.ne_directory ?_⟩
    rw [get?_of_walk hwalk hn]
    exact hn

end Grown

end FatImage.Host.Tree
