import FatImage.Proofs.Oversized
import FatImage.Proofs.Stages

/-!
# What a run checks before it touches a file

There are many reasons to refuse a run, and any number of them may be there
at once: `Refused` has one constructor for each. Whatever of them it is, and
whatever else is wrong, the run has touched no file. The order of the stages
has to be right for this, but it need not be known: a reason to refuse leaves
the work with no manifest and image that it could go on with, or with an image
that is too short.

A run that is not refused may still fail, and then it tells no number of files
either. Digits can be read back, so the number that is told is the number of
files on the image and no other.
-/

namespace FatImage.Program

open Host

variable {o : Options} {t : Tree} {m : Manifest} {p : Place} {b : ByteArray}
variable {arguments : List String}

/-! ## What is refused -/

/-- What a run is refused for up front, and the exit code that it is refused with. -/
inductive Refused (arguments : List String) (t : Tree) : Nat → Prop where
  | help (h : Options.parse arguments = .error .help) : Refused arguments t 0
  | usage {e : UsageError} (h : Options.parse arguments = .error e) (he : e ≠ .help) :
      Refused arguments t 2
  | unread {o : Options} {path : String} {why : HostError}
      (h : Options.parse arguments = .ok o) (hpath : o.manifest = some path)
      (hread : t.readText path = .error why) : Refused arguments t 1
  | unparsed {o : Options} {path text : String} {e : ManifestError}
      (h : Options.parse arguments = .ok o) (hpath : o.manifest = some path)
      (hread : t.readText path = .ok text) (hm : Manifest.ofText text = .error e) :
      Refused arguments t 1
  | placeholder {o : Options} {m : Manifest} {e : Entry} {size : UInt32}
      (h : Options.parse arguments = .ok o) (hasks : Asks o t m) (he : e ∈ m.entries)
      (hsize : e.placeholder = some size) (hlarge : layout.maxFileSize < size.toNat) :
      Refused arguments t 1
  | image {o : Options} {why : HostError} (h : Options.parse arguments = .ok o)
      (hfile : t.findFile o.image = .error why) : Refused arguments t 1
  | short {o : Options} {p : Place} {b : ByteArray} (h : Options.parse arguments = .ok o)
      (hfile : t.findFile o.image = .ok (p, b))
      (hshort : b.size - b.size % layout.sectorSize < layout.dataStart) :
      Refused arguments t 1

/-- Nothing that is refused, but for arguments, gets by what is checked. -/
theorem Refused.blocked {arguments : List String} {code : Nat}
    (h : Refused arguments t code) (hparse : Options.parse arguments = .ok o) :
    code = 1 ∧ ∀ m p b, Ready o t m p b →
      b.size - b.size % layout.sectorSize < layout.dataStart := by
  have hsame : ∀ {o'}, Options.parse arguments = .ok o' → o' = o := fun h' =>
    Except.ok.inj (h'.symm.trans hparse)
  cases h with
  | help h | usage h _ => cases h.symm.trans hparse
  | unread h hpath hread =>
      obtain rfl := hsame h
      refine ⟨rfl, fun m p b hready => ?_⟩
      cases hready.asks with
      | boot hnone _ => cases hnone.symm.trans hpath
      | file hsome hread' _ =>
          obtain rfl := Option.some.inj (hsome.symm.trans hpath)
          cases hread.symm.trans hread'
  | unparsed h hpath hread hm =>
      obtain rfl := hsame h
      refine ⟨rfl, fun m p b hready => ?_⟩
      cases hready.asks with
      | boot hnone _ => cases hnone.symm.trans hpath
      | file hsome hread' hm' =>
          obtain rfl := Option.some.inj (hsome.symm.trans hpath)
          obtain rfl := Except.ok.inj (hread.symm.trans hread')
          cases hm.symm.trans hm'
  | placeholder h hasks he hsize hlarge =>
      obtain rfl := hsame h
      refine ⟨rfl, fun m p b hready => ?_⟩
      obtain rfl := hasks.unique hready.asks
      have hsmall := Manifest.checkPlaceholders_eq_ok_iff.1 hready.placeholders _ he _ hsize
      exact absurd hsmall (Nat.not_le.2 hlarge)
  | image h hfile =>
      obtain rfl := hsame h
      exact ⟨rfl, fun m p b hready => by cases hfile.symm.trans hready.image⟩
  | short h hfile hshort =>
      obtain rfl := hsame h
      refine ⟨rfl, fun m p b hready => ?_⟩
      cases hfile.symm.trans hready.image
      exact hshort

/-! ## What is printed -/

/-- The start of the line that tells how many files were placed. -/
def countLine (count : Nat) : String :=
  s!"Injected {count} file(s)"

/-- The number in front of a blank can be read back. -/
theorem eq_of_countLine {n count : Nat} {rest : List Char}
    (h : (countLine n).toList <+: (countLine count).toList ++ rest) : n = count := by
  have hline : ∀ k, (countLine k).toList =
      "Injected ".toList ++ (Nat.toDigits 10 k ++ ' ' :: "file(s)".toList) := by
    intro k
    have happend : countLine k = "Injected " ++ toString k ++ " file(s)" := rfl
    have htoString : (toString k).toList = Nat.toDigits 10 k := by
      rw [Nat.toString_eq_ofList_toDigits, String.toList_ofList]
    rw [happend, String.toList_append, String.toList_append, htoString, List.append_assoc]
    rfl
  have hdigits : ∀ k (back : List Char),
      (Nat.toDigits 10 k ++ ' ' :: back).takeWhile Char.isDigit = Nat.toDigits 10 k := by
    intro k back
    rw [List.takeWhile_append_of_pos fun c hc =>
      Nat.isDigit_of_mem_toDigits (by decide) (by decide) hc]
    exact List.append_nil _
  rw [hline, hline, List.append_assoc, List.prefix_append_right_inj, List.append_assoc,
    List.cons_append] at h
  obtain ⟨back, hback⟩ := h
  rw [List.append_assoc, List.cons_append] at hback
  have hsame := congrArg (List.takeWhile Char.isDigit) hback
  rw [hdigits, hdigits] at hsame
  have hvalue := congrArg (fun ds => Nat.ofDigitChars 10 ds 0) hsame
  simpa only [Nat.ofDigitChars_ten_toDigits] using hvalue

theorem into_eq (count : Nat) (image : String) :
    s!"Injected {count} file(s) into {image}\n" = countLine count ++ s!" into {image}\n" := by
  have hsplit : " file(s) into " = " file(s)" ++ " into " := by decide
  change "Injected " ++ toString count ++ " file(s) into " ++ image ++ "\n" =
    ("Injected " ++ toString count ++ " file(s)") ++ (" into " ++ image ++ "\n")
  rw [hsplit]
  simp only [String.append_assoc]

/-- Work that comes to a number has filled the image with so many files, and the other
way round. -/
theorem Works.count_eq_iff {r : Except String Nat} {t' : Tree} {n : Nat}
    (h : Works o t r t') : r = .ok n ↔ ∃ m p b report w, Ready o t m p b ∧
      (fill (imageDevice p b) layout m (sourcesUnder o.root)).start t = (.ok report, w) ∧
      report.placed.size = n := by
  constructor
  · rintro rfl
    cases h with
    | filled hready hfill => exact ⟨_, _, _, _, _, hready, hfill, rfl⟩
  · rintro ⟨m, p, b, report, w, hready, hfill, rfl⟩
    cases h with
    | refused hnone => exact absurd hready (hnone m p b)
    | filled hready' hfill' =>
        obtain ⟨rfl, rfl, rfl⟩ := hready.unique hready'
        rw [hfill, Prod.mk.injEq, Except.ok.injEq] at hfill'
        rw [hfill'.1]
    | failed hready' hfill' =>
        obtain ⟨rfl, rfl, rfl⟩ := hready.unique hready'
        rw [hfill, Prod.mk.injEq] at hfill'
        cases hfill'.1

/-- What is printed that tells no number of files: nothing, or how to use the program. -/
def Untold (stdout : String) : Prop :=
  stdout = "" ∨ stdout = Options.usage ++ "\n"

theorem Untold.not_prefix_line {stdout : String} (h : Untold stdout) :
    ∀ line ∈ Text.lines stdout.toList, ¬ "Injected".toList <+: line := by
  rcases h with rfl | rfl
  · decide
  · delta Options.usage
    simp only [String.toList_append]
    repeat rw [String.toList_ofList]
    decide +kernel

theorem Untold.not_countLine {stdout : String} (h : Untold stdout) (n : Nat) :
    ¬ (countLine n).toList <+: stdout.toList := by
  have hstart : "Injected".toList <+: (countLine n).toList := by
    have happend : countLine n = "Injected" ++ (" " ++ toString n ++ " file(s)") := by
      simp only [countLine, ← String.append_assoc]
      rfl
    rw [happend, String.toList_append]
    exact List.prefix_append _ _
  intro hline
  have hstdout := hstart.trans hline
  rcases h with rfl | rfl
  · exact absurd hstdout (by decide)
  · delta Options.usage at hstdout
    simp only [String.toList_append] at hstdout
    repeat rw [String.toList_ofList] at hstdout
    exact absurd hstdout (by decide)

theorem run_of_refused {code : Nat} (setting : Option String) (h : Refused arguments t code) :
    (run arguments setting t).tree = t ∧ (run arguments setting t).code = code ∧
      Untold (run arguments setting t).stdout := by
  cases hparse : Options.parse arguments with
  | error e =>
      -- the arguments alone decide
      cases h with
      | help h =>
          obtain ⟨htree, hcode, hstdout⟩ := run_of_help (t := t) setting h
          exact ⟨htree, hcode, Or.inr hstdout⟩
      | usage h he =>
          obtain ⟨htree, hcode, hstdout⟩ := run_of_usage (t := t) setting h he
          exact ⟨htree, hcode, Or.inl hstdout⟩
      | unread h | unparsed h | placeholder h | image h | short h => cases h.symm.trans hparse
  | ok o =>
      obtain ⟨rfl, hblocked⟩ := h.blocked hparse
      rcases run_of_parse (t := t) setting hparse with
        ⟨count, hworks, -, -⟩ | ⟨message, hworks, hcode, hstdout⟩
      · obtain ⟨message, hr⟩ := (hworks.of_blocked hblocked).1
        cases hr
      · exact ⟨(hworks.of_blocked hblocked).2, hcode, Or.inl hstdout⟩

theorem run_counts_iff (arguments : List String) (setting : Option String) (t : Tree) (n : Nat) :
    ((run arguments setting t).code = 0 ∧
        (countLine n).toList <+: (run arguments setting t).stdout.toList) ↔
      ∃ o m p b report w, Options.parse arguments = .ok o ∧ Ready o t m p b ∧
        (fill (imageDevice p b) layout m (sourcesUnder o.root)).start t = (.ok report, w) ∧
        report.placed.size = n := by
  cases hparse : Options.parse arguments with
  | error e =>
      have huntold : Untold (run arguments setting t).stdout := by
        by_cases he : e = .help
        · subst he
          exact Or.inr (run_of_help setting hparse).2.2
        · exact Or.inl (run_of_usage setting hparse he).2.2
      exact ⟨fun h => absurd h.2 (huntold.not_countLine n),
        fun ⟨_, _, _, _, _, _, h, _⟩ => nomatch h⟩
  | ok o =>
      have hfilled : ∀ {r t'}, Works o t r t' → (r = .ok n ↔
          ∃ o' m p b report w, (.ok o : Except UsageError Options) = .ok o' ∧
            Ready o' t m p b ∧
            (fill (imageDevice p b) layout m (sourcesUnder o'.root)).start t =
              (.ok report, w) ∧ report.placed.size = n) := by
        intro r t' hworks
        rw [hworks.count_eq_iff]
        constructor
        · rintro ⟨m, p, b, report, w, h⟩
          exact ⟨o, m, p, b, report, w, rfl, h⟩
        · rintro ⟨o', m, p, b, report, w, h, hfill⟩
          obtain rfl := Except.ok.inj h
          exact ⟨m, p, b, report, w, hfill⟩
      rcases run_of_parse (t := t) setting hparse with
        ⟨count, hworks, hcode, hstdout⟩ | ⟨message, hworks, hcode, hstdout⟩
      · rw [← hfilled hworks, hstdout, into_eq, String.toList_append, Except.ok.injEq]
        refine ⟨fun h => (eq_of_countLine h.2).symm, ?_⟩
        rintro rfl
        exact ⟨hcode, List.prefix_append _ _⟩
      · rw [← hfilled hworks, hcode]
        exact ⟨fun h => absurd h.1 (by decide), nofun⟩

/-- A run that is refused up front changes no file, tells no number of files, and exits
with the code of the refusal. A number is told, and the code is 0, just if the image was
filled and so many files were placed on it. -/
theorem run_upFront (arguments : List String) (setting : Option String) (t : Tree) :
    (∀ code, Refused arguments t code →
      (run arguments setting t).tree = t ∧ (run arguments setting t).code = code ∧
      ∀ line ∈ Text.lines (run arguments setting t).stdout.toList,
        ¬ "Injected".toList <+: line) ∧
    ∀ n, ((run arguments setting t).code = 0 ∧
        (countLine n).toList <+: (run arguments setting t).stdout.toList) ↔
      ∃ o m p b report w, Options.parse arguments = .ok o ∧ Ready o t m p b ∧
        (fill (imageDevice p b) layout m (sourcesUnder o.root)).start t = (.ok report, w) ∧
        report.placed.size = n := by
  refine ⟨fun code h => ?_, run_counts_iff arguments setting t⟩
  obtain ⟨htree, hcode, huntold⟩ := run_of_refused setting h
  exact ⟨htree, hcode, huntold.not_prefix_line⟩

/-- A list with a placeholder that is longer than any file can be. -/
theorem run_upFront_longPlaceholder :
    ∃ t, t = machineWith "A a placeholder=999999999" (Bytes.zeros 3000320) ∧
      Refused ["-i", "d", "-m", "l"] t 1 ∧
      (run ["-i", "d", "-m", "l"] none t).tree = t ∧
      (run ["-i", "d", "-m", "l"] none t).code = 1 ∧
      ∀ line ∈ Text.lines (run ["-i", "d", "-m", "l"] none t).stdout.toList,
        ¬ "Injected".toList <+: line := by
  have hm : Manifest.ofText "A a placeholder=999999999" =
      .ok ⟨[⟨1, ⟨.letterA, "a", some 999999999⟩⟩]⟩ := by
    cbv
  have hrefused : Refused ["-i", "d", "-m", "l"]
      (machineWith "A a placeholder=999999999" (Bytes.zeros 3000320)) 1 :=
    .placeholder parse_list (.file rfl (readText_list_machineWith _ _) hm)
      (List.mem_singleton_self _) rfl (by decide)
  exact ⟨_, rfl, hrefused, (run_upFront ["-i", "d", "-m", "l"] none _).1 1 hrefused⟩

end FatImage.Program
