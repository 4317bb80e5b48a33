import Mathlib.Algebra.GroupWithZero.Nat
import Mathlib.Data.List.TakeWhile
import FatImage.Options

/-!
# How a command line is read

What a command line means is said without reading one. One or two arguments
make up an option (`Spells`), and a list is options one after the other
(`Reads`). Whether an argument is an option or a value is not seen from the
argument: a value may look like any option. It is a matter of what stands
before, and so a list is cut into options in one way only, from the left.

The first argument that begins no option ends the reading (`Offends`). What
is behind it is never looked at, with one exception: an option that needs a
value offends just if nothing is behind it.

The options that were read are settled one by one, but what they amount to is
said of all of them at once (`Settles`): the last value for each purpose, the
sum of the `v`s, and whether one of them was quiet. As long as that sum is
below 256, a byte has room for it.
-/

namespace FatImage.Options

/-! ## What options are -/

namespace Target

def short : Target → String
  | .image => "-i"
  | .root => "-r"
  | .manifest => "-m"

def long : Target → String
  | .image => "--image"
  | .root => "--root"
  | .manifest => "--manifest"

end Target

/-- What one option asks for. -/
inductive Setting where
  | verbose (times : Nat)
  | quiet
  | value (target : Target) (value : String)
  deriving DecidableEq

/-- The arguments that make up one option. Behind an equals sign a long option has
its value, and the next argument is not touched; `--quiet` has no use for one. -/
inductive Spells : List String → Setting → Prop
  | once : Spells ["-v"] (.verbose 1)
  | twice : Spells ["-vv"] (.verbose 2)
  | quiet : Spells ["-q"] .quiet
  | quietLong : Spells ["--quiet"] .quiet
  | quietIgnoring (ignored : String) : Spells ["--quiet" ++ "=" ++ ignored] .quiet
  | inline (target : Target) (value : String) :
      Spells [target.long ++ "=" ++ value] (.value target value)
  | next {option : String} {target : Target}
      (h : option = target.short ∨ option = target.long) (value : String) :
      Spells [option, value] (.value target value)

/-- The arguments are options, one after the other. -/
inductive Reads : (arguments : List String) → List Setting → Prop
  | nil : Reads [] []
  | cons {arguments rest : List String} {s : Setting} {settings : List Setting}
      (h : Spells arguments s) (hrest : Reads rest settings) :
      Reads (arguments ++ rest) (s :: settings)

/-- Every way to write an option, but for what may stand behind an equals sign. -/
def known : List String :=
  ["-h", "--help", "-v", "-vv", "-q", "--quiet"] ++
    [Target.image, .root, .manifest].flatMap fun target => [target.short, target.long]

/-- The name in an argument and what stands behind its first equals sign. Only what
starts with two dashes is divided there. -/
inductive Named : (argument name : String) → (inline? : Option String) → Prop
  | inline {name : String} (hdashes : ['-', '-'] <+: name.toList) (hname : '=' ∉ name.toList)
      (value : String) : Named (name ++ "=" ++ value) name (some value)
  | whole {argument : String}
      (h : ['-', '-'] <+: argument.toList → '=' ∉ argument.toList) : Named argument argument none

/-- The reading ends at an argument with `after` behind it, and why. -/
inductive Offends : (argument : String) → (after : List String) → UsageError → Prop
  | help (after : List String) : Offends "-h" after .help
  | helpLong (after : List String) : Offends "--help" after .help
  | helpIgnoring (ignored : String) (after : List String) :
      Offends ("--help" ++ "=" ++ ignored) after .help
  | missingValue {option : String} {target : Target}
      (h : option = target.short ∨ option = target.long) :
      Offends option [] (.missingValue option)
  | unexpected {argument name : String} {inline? : Option String}
      (h : Named argument name inline?) (hname : name ∉ known) (after : List String) :
      Offends argument after (.unexpected name)

/-! ## What options amount to -/

/-- The last value that is given for a purpose, if there is one. -/
def lastFor (target : Target) (settings : List Setting) : Option String :=
  (settings.filterMap fun
    | .value target' value => if target' = target then some value else none
    | _ => none).getLast?

def Setting.times : Setting → Nat
  | .verbose n => n
  | _ => 0

/-- How many `v`s there are in all. -/
def verboseTimes (settings : List Setting) : Nat :=
  (settings.map Setting.times).sum

/-- The options of a run are what was asked for, in whatever order that was. -/
structure Settles (settings : List Setting) (o : Options) : Prop where
  image : o.image = (lastFor .image settings).getD "os.img"
  root : o.root = (lastFor .root settings).getD "."
  manifest : o.manifest = lastFor .manifest settings
  quiet : o.quiet = true ↔ .quiet ∈ settings
  verbosity : o.verbosity = verboseTimes settings
  threshold : o.threshold =
    if .quiet ∈ settings then some .warn
    else if verboseTimes settings = 0 then some .info
    else if verboseTimes settings = 1 then some .debug
    else some .trace

/-- The options with what one more of them asks for. -/
def adopt (o : Options) : Setting → Options
  | .verbose n => { o with verbosity := o.verbosity + n }
  | .quiet => { o with quiet := true }
  | .value target value => o.set target value

theorem foldl_adopt (settings : List Setting) (o : Options) :
    settings.foldl adopt o = {
      image := (lastFor .image settings).getD o.image
      root := (lastFor .root settings).getD o.root
      manifest := (lastFor .manifest settings).or o.manifest
      quiet := o.quiet || decide (.quiet ∈ settings)
      verbosity := o.verbosity + verboseTimes settings } := by
  induction settings generalizing o with
  | nil => simp [lastFor, verboseTimes]
  | cons s settings ih =>
      rw [List.foldl_cons, ih]
      cases s with
      | verbose n => simp [adopt, lastFor, verboseTimes, Setting.times, Nat.add_assoc]
      | quiet => simp [adopt, lastFor, verboseTimes, Setting.times]
      | value target value =>
          cases target <;>
            simp [adopt, set, lastFor, verboseTimes, Setting.times, List.getLast?_cons]

variable {argument name : String} {arguments front after : List String} {inline? : Option String}
variable {settings : List Setting} {s : Setting} {o o' : Options} {e : UsageError}

theorem threshold_eq (o : Options) : o.threshold =
    if o.quiet = true then some .warn
    else if o.verbosity = 0 then some .info
    else if o.verbosity = 1 then some .debug
    else some .trace := by
  unfold threshold
  split
  · rfl
  · split
    · next h0 => rw [if_pos h0]
    · next h1 => rw [h1, if_neg Nat.one_ne_zero, if_pos rfl]
    · next h0 h1 => rw [if_neg h0, if_neg h1]

theorem settles_foldl (settings : List Setting) : Settles settings (settings.foldl adopt {}) := by
  have hquiet : (settings.foldl adopt {}).quiet = true ↔ .quiet ∈ settings := by
    rw [foldl_adopt, Bool.false_or, decide_eq_true_iff]
  have hverbosity : (settings.foldl adopt {}).verbosity = verboseTimes settings := by
    rw [foldl_adopt, Nat.zero_add]
  refine ⟨?_, ?_, ?_, hquiet, hverbosity, ?_⟩
  · rw [foldl_adopt]
  · rw [foldl_adopt]
  · rw [foldl_adopt, Option.or_none]
  · rw [threshold_eq, hverbosity]
    simp only [hquiet]

theorem Settles.unique (h : Settles settings o) (h' : Settles settings o') : o = o' := by
  have hquiet : o.quiet = o'.quiet := by
    rw [Bool.eq_iff_iff, h.quiet, h'.quiet]
  have himage := h.image.trans h'.image.symm
  have hroot := h.root.trans h'.root.symm
  have hmanifest := h.manifest.trans h'.manifest.symm
  have hverbosity := h.verbosity.trans h'.verbosity.symm
  cases o
  cases o'
  simp only [Options.mk.injEq]
  exact ⟨himage, hroot, hmanifest, hquiet, hverbosity⟩

/-! ## One argument -/

theorem divide_of_not_mem (h : '=' ∉ argument.toList) : divide argument = (argument, none) := by
  have hrest : argument.toList.dropWhile (· ≠ '=') = [] := by
    rw [List.dropWhile_eq_nil_iff]
    intro c hc
    simpa using ne_of_mem_of_not_mem hc h
  unfold divide
  simp only [hrest]

theorem divide_of_mem {front back : List Char} (h : argument.toList = front ++ '=' :: back)
    (hfront : '=' ∉ front) : divide argument =
      if ['-', '-'] <+: front then (String.ofList front, some (String.ofList back))
      else (argument, none) := by
  have hpass : ∀ c ∈ front, decide (c ≠ '=') = true := fun c hc => by
    simpa using ne_of_mem_of_not_mem hc hfront
  have htake : argument.toList.takeWhile (· ≠ '=') = front := by
    rw [h, List.takeWhile_append_of_pos hpass, List.takeWhile_cons_of_neg (by simp),
      List.append_nil]
  have hdrop : argument.toList.dropWhile (· ≠ '=') = '=' :: back := by
    rw [h, List.dropWhile_append_of_pos hpass, List.dropWhile_cons_of_neg (by simp)]
  unfold divide
  simp only [htake, hdrop, List.isPrefixOf_iff_prefix]

theorem dashes_prefix_iff {front back : List Char} :
    ['-', '-'] <+: front ++ '=' :: back ↔ ['-', '-'] <+: front := by
  rcases front with _ | ⟨c, _ | ⟨d, front⟩⟩ <;> simp

theorem Named.divide_eq (h : Named argument name inline?) :
    divide argument = (name, inline?) := by
  cases h with
  | inline hdashes hname value =>
      have hlist : (name ++ "=" ++ value).toList = name.toList ++ '=' :: value.toList := by simp
      rw [divide_of_mem hlist hname, if_pos hdashes, String.ofList_toList, String.ofList_toList]
  | whole hwhole =>
      by_cases hequals : '=' ∈ argument.toList
      · obtain ⟨front, back, hlist, hfront⟩ := List.eq_append_cons_of_mem hequals
        have hdashes : ¬ ['-', '-'] <+: front := fun hdashes =>
          hwhole (by rw [hlist]; exact dashes_prefix_iff.2 hdashes) hequals
        rw [divide_of_mem hlist hfront, if_neg hdashes]
      · exact divide_of_not_mem hequals

/-- Every argument has a name in it. -/
theorem exists_named (argument : String) : ∃ name inline?, Named argument name inline? := by
  by_cases hequals : '=' ∈ argument.toList
  · obtain ⟨front, back, hlist, hfront⟩ := List.eq_append_cons_of_mem hequals
    by_cases hdashes : ['-', '-'] <+: front
    · have hjoined : argument = String.ofList front ++ "=" ++ String.ofList back := by
        rw [← String.toList_inj, hlist]
        simp
      rw [hjoined]
      exact ⟨_, _, .inline (by simpa using hdashes) (by simpa using hfront) _⟩
    · refine ⟨argument, none, .whole fun hprefix => ?_⟩
      rw [hlist, dashes_prefix_iff] at hprefix
      exact absurd hprefix hdashes
  · exact ⟨argument, none, .whole fun _ => hequals⟩

/-- What the name of an option stands for, and that other names stand for nothing. -/
inductive Means : (name : String) → Option Flag → Prop
  | help : Means "-h" (some .help)
  | helpLong : Means "--help" (some .help)
  | once : Means "-v" (some (.verbose 1))
  | twice : Means "-vv" (some (.verbose 2))
  | quiet : Means "-q" (some .quiet)
  | quietLong : Means "--quiet" (some .quiet)
  | short (target : Target) : Means target.short (some (.value target))
  | long (target : Target) : Means target.long (some (.value target))
  | unknown {name : String} (h : name ∉ known) : Means name none

theorem Means.lookup_eq {flag? : Option Flag} (h : Means name flag?) :
    flags.lookup name = flag? := by
  cases h with
  | help | helpLong | once | twice | quiet | quietLong => rfl
  | short target | long target => cases target <;> rfl
  | unknown h =>
      rw [List.lookup_eq_none_iff]
      intro entry hentry
      rw [bne_iff_ne]
      rintro rfl
      have hnames : known.Perm (flags.map Prod.fst) := by decide
      exact h (hnames.mem_iff.2 (List.mem_map_of_mem hentry))

theorem exists_means (name : String) : ∃ flag?, Means name flag? := by
  by_cases hknown : name ∈ known
  · simp only [known, List.flatMap_cons, List.flatMap_nil, List.cons_append, List.nil_append,
      List.append_nil, List.mem_cons, List.not_mem_nil, or_false] at hknown
    rcases hknown with rfl | rfl | rfl | rfl | rfl | rfl | rfl | rfl | rfl | rfl | rfl | rfl
    · exact ⟨_, .help⟩
    · exact ⟨_, .helpLong⟩
    · exact ⟨_, .once⟩
    · exact ⟨_, .twice⟩
    · exact ⟨_, .quiet⟩
    · exact ⟨_, .quietLong⟩
    · exact ⟨_, .short .image⟩
    · exact ⟨_, .long .image⟩
    · exact ⟨_, .short .root⟩
    · exact ⟨_, .long .root⟩
    · exact ⟨_, .short .manifest⟩
    · exact ⟨_, .long .manifest⟩
  · exact ⟨none, .unknown hknown⟩

theorem Named.long (target : Target) (value : String) :
    Named (target.long ++ "=" ++ value) target.long (some value) := by
  cases target <;> exact .inline (by decide) (by decide) value

theorem equals_not_mem_of_known (h : name ∈ known) : '=' ∉ name.toList := by
  have hall : ∀ name ∈ known, '=' ∉ name.toList := by decide
  exact hall name h

theorem Named.of_known (h : name ∈ known) : Named name name none :=
  .whole fun _ => equals_not_mem_of_known h

section

variable {option : String} {target : Target} (h : option = target.short ∨ option = target.long)
include h

theorem means_of_option : Means option (some (.value target)) := by
  rcases h with rfl | rfl
  · exact .short target
  · exact .long target

theorem named_of_option : Named option option none := by
  rcases h with rfl | rfl <;> exact .of_known (by cases target <;> decide)

end

/-! ## Reading from the left

What is done next depends on what the name in the next argument means, and
for an option with a value on where that stands. -/

section

variable (o : Options) (hname : Named argument name inline?)
include hname

theorem readFrom_cons_verbose {n : Nat} (hmeans : Means name (some (.verbose n))) :
    o.readFrom (argument :: after) = (o.adopt (.verbose n)).readFrom after := by
  simp only [readFrom, hname.divide_eq, hmeans.lookup_eq, adopt]

theorem readFrom_cons_quiet (hmeans : Means name (some .quiet)) :
    o.readFrom (argument :: after) = (o.adopt .quiet).readFrom after := by
  simp only [readFrom, hname.divide_eq, hmeans.lookup_eq, adopt]

theorem readFrom_cons_help (hmeans : Means name (some .help)) :
    o.readFrom (argument :: after) = .error .help := by
  simp only [readFrom, hname.divide_eq, hmeans.lookup_eq]

theorem readFrom_cons_unknown (hmeans : Means name none) :
    o.readFrom (argument :: after) = .error (.unexpected name) := by
  simp only [readFrom, hname.divide_eq, hmeans.lookup_eq]

end

/-- An option is read, and then what is behind it. -/
theorem Spells.readFrom_append (h : Spells arguments s) (o : Options) (after : List String) :
    o.readFrom (arguments ++ after) = (o.adopt s).readFrom after := by
  cases h with
  | once => exact readFrom_cons_verbose o (.of_known (by decide)) .once
  | twice => exact readFrom_cons_verbose o (.of_known (by decide)) .twice
  | quiet => exact readFrom_cons_quiet o (.of_known (by decide)) .quiet
  | quietLong => exact readFrom_cons_quiet o (.of_known (by decide)) .quietLong
  | quietIgnoring ignored =>
      exact readFrom_cons_quiet o (.inline (by decide) (by decide) ignored) .quietLong
  | inline target value =>
      simp only [List.singleton_append, readFrom, (Named.long target value).divide_eq,
        (Means.long target).lookup_eq, adopt]
  | next hoption value =>
      simp only [List.cons_append, List.nil_append, readFrom,
        (named_of_option hoption).divide_eq, (means_of_option hoption).lookup_eq, adopt]

theorem Offends.readFrom_cons (h : Offends argument after e) (o : Options) :
    o.readFrom (argument :: after) = .error e := by
  cases h with
  | help => exact readFrom_cons_help o (.of_known (by decide)) .help
  | helpLong => exact readFrom_cons_help o (.of_known (by decide)) .helpLong
  | helpIgnoring ignored =>
      exact readFrom_cons_help o (.inline (by decide) (by decide) ignored) .helpLong
  | missingValue hoption =>
      simp only [readFrom, (named_of_option hoption).divide_eq,
        (means_of_option hoption).lookup_eq]
  | unexpected hname hunknown => exact readFrom_cons_unknown o hname (.unknown hunknown)

/-- An argument is an option, with the next one if it needs that, or it offends. -/
theorem spells_or_offends (argument : String) (after : List String) :
    (∃ arguments rest s, argument :: after = arguments ++ rest ∧ Spells arguments s) ∨
      ∃ e, Offends argument after e := by
  obtain ⟨name, inline?, hname⟩ := exists_named argument
  obtain ⟨flag?, hmeans⟩ := exists_means name
  -- A value for an option, wherever that value stands.
  have hvalued : ∀ target : Target, name = target.short ∨ name = target.long →
      (∃ arguments rest s, argument :: after = arguments ++ rest ∧ Spells arguments s) ∨
        ∃ e, Offends argument after e := by
    intro target hoption
    cases hname with
    | inline hdashes _ value =>
        rcases hoption with rfl | rfl
        · cases target <;> exact absurd hdashes (by decide)
        · exact .inl ⟨[_], after, _, rfl, .inline target value⟩
    | whole =>
        cases after with
        | nil => exact .inr ⟨_, .missingValue hoption⟩
        | cons value rest => exact .inl ⟨[_, value], rest, _, rfl, .next hoption value⟩
  cases hmeans with
  | help =>
      cases hname with
      | inline hdashes => exact absurd hdashes (by decide)
      | whole => exact .inr ⟨_, .help after⟩
  | helpLong =>
      cases hname with
      | inline _ _ ignored => exact .inr ⟨_, .helpIgnoring ignored after⟩
      | whole => exact .inr ⟨_, .helpLong after⟩
  | once =>
      cases hname with
      | inline hdashes => exact absurd hdashes (by decide)
      | whole => exact .inl ⟨[_], after, _, rfl, .once⟩
  | twice =>
      cases hname with
      | inline hdashes => exact absurd hdashes (by decide)
      | whole => exact .inl ⟨[_], after, _, rfl, .twice⟩
  | quiet =>
      cases hname with
      | inline hdashes => exact absurd hdashes (by decide)
      | whole => exact .inl ⟨[_], after, _, rfl, .quiet⟩
  | quietLong =>
      cases hname with
      | inline _ _ ignored => exact .inl ⟨[_], after, _, rfl, .quietIgnoring ignored⟩
      | whole => exact .inl ⟨[_], after, _, rfl, .quietLong⟩
  | short target => exact hvalued target (.inl rfl)
  | long target => exact hvalued target (.inr rfl)
  | unknown hunknown => exact .inr ⟨_, .unexpected hname hunknown after⟩

theorem Spells.length_pos (h : Spells arguments s) : 0 < arguments.length := by
  cases h <;> exact Nat.zero_lt_succ _

/-- Every list is read to its end, or up to an argument that offends. -/
theorem reads_or_offends (arguments : List String) :
    (∃ settings, Reads arguments settings) ∨ ∃ front settings argument after e,
      arguments = front ++ argument :: after ∧ Reads front settings ∧
      Offends argument after e := by
  -- Not every end of the list begins with an option, so the induction is on the length.
  induction hn : arguments.length using Nat.strong_induction_on generalizing arguments with
  | _ n ih =>
      subst hn
      cases arguments with
      | nil => exact .inl ⟨[], .nil⟩
      | cons argument after =>
          obtain ⟨option, rest, s, heq, hs⟩ | ⟨e, he⟩ := spells_or_offends argument after
          · rw [heq]
            have hshorter : rest.length < (argument :: after).length := by
              have := hs.length_pos
              rw [heq, List.length_append]
              omega
            obtain ⟨settings, hrest⟩ | ⟨front, settings, last, behind, e, rfl, hfront, he⟩ :=
              ih rest.length hshorter rest rfl
            · exact .inl ⟨s :: settings, .cons hs hrest⟩
            · exact .inr ⟨option ++ front, s :: settings, last, behind, e,
                (List.append_assoc ..).symm, .cons hs hfront, he⟩
          · exact .inr ⟨[], [], argument, after, e, rfl, .nil, he⟩

theorem Reads.readFrom_append {front : List String} (h : Reads front settings) (o : Options)
    (after : List String) :
    o.readFrom (front ++ after) = (settings.foldl adopt o).readFrom after := by
  induction h generalizing o with
  | nil => rfl
  | cons hs _ ih => rw [List.append_assoc, hs.readFrom_append, ih, List.foldl_cons]

theorem Reads.parse_append (h : Reads front settings) (after : List String) :
    parse (front ++ after) = (settings.foldl adopt {}).readFrom after :=
  h.readFrom_append {} after

theorem Reads.parse_eq (h : Reads arguments settings) :
    parse arguments = .ok (settings.foldl adopt {}) := by
  rw [← List.append_nil arguments, h.parse_append, readFrom]

theorem parse_of_offends (h : Reads front settings) (he : Offends argument after e) :
    parse (front ++ argument :: after) = .error e := by
  rw [h.parse_append, he.readFrom_cons]

/-- What is behind an argument that offends is of no use, unless a value was missing. -/
theorem Offends.append (h : Offends argument after e) (he : ∀ option, e ≠ .missingValue option)
    (more : List String) : Offends argument (after ++ more) e := by
  cases h with
  | help => exact .help _
  | helpLong => exact .helpLong _
  | helpIgnoring ignored => exact .helpIgnoring ignored _
  | missingValue => exact absurd rfl (he _)
  | unexpected hname hunknown => exact .unexpected hname hunknown _

/-- The result of a list that is read to its end says what its options amount to. -/
theorem parse_eq_ok_iff :
    parse arguments = .ok o ↔ ∃ settings, Reads arguments settings ∧ Settles settings o := by
  constructor
  · intro hparse
    obtain ⟨settings, hreads⟩ | ⟨front, settings, argument, after, e, rfl, hfront, he⟩ :=
      reads_or_offends arguments
    · have ho : settings.foldl adopt {} = o := Except.ok.inj (hreads.parse_eq.symm.trans hparse)
      exact ⟨settings, hreads, ho ▸ settles_foldl settings⟩
    · rw [parse_of_offends hfront he] at hparse
      cases hparse
  · rintro ⟨settings, hreads, hsettles⟩
    rw [hreads.parse_eq, (settles_foldl settings).unique hsettles]

example : parse ["--image=a=b", "-v", "-r", "-q", "--image", "c", "-v"] =
    .ok { image := "c", root := "-q", verbosity := 2 } := by decide

/-- The first argument that offends decides. -/
theorem parse_eq_error_iff : parse arguments = .error e ↔
    ∃ front settings argument after, arguments = front ++ argument :: after ∧
      Reads front settings ∧ Offends argument after e := by
  constructor
  · intro hparse
    obtain ⟨settings, hreads⟩ | ⟨front, settings, argument, after, e', rfl, hfront, he⟩ :=
      reads_or_offends arguments
    · rw [hreads.parse_eq] at hparse
      cases hparse
    · cases (parse_of_offends hfront he).symm.trans hparse
      exact ⟨front, settings, argument, after, rfl, hfront, he⟩
  · rintro ⟨front, settings, argument, after, rfl, hfront, he⟩
    exact parse_of_offends hfront he

theorem parse_append_of_error (h : parse arguments = .error e)
    (he : ∀ option, e ≠ .missingValue option) (more : List String) :
    parse (arguments ++ more) = .error e := by
  obtain ⟨front, settings, argument, after, rfl, hfront, hoffends⟩ := parse_eq_error_iff.1 h
  rw [List.append_assoc]
  exact parse_of_offends hfront (hoffends.append he more)

/-- It makes no difference whether a value stands behind an equals sign or by itself. -/
theorem parse_inline_eq (target : Target) (value : String)
    (hfront : ∀ option, parse front ≠ .error (.missingValue option)) :
    parse (front ++ (target.long ++ "=" ++ value) :: after) =
      parse (front ++ target.long :: value :: after) := by
  cases hparse : parse front with
  | error e =>
      have he : ∀ option, e ≠ .missingValue option := by
        rintro option rfl
        exact hfront option hparse
      rw [parse_append_of_error hparse he, parse_append_of_error hparse he]
  | ok o =>
      obtain ⟨settings, hreads, -⟩ := parse_eq_ok_iff.1 hparse
      have hinline : Spells [target.long ++ "=" ++ value] (.value target value) :=
        .inline target value
      have hnext : Spells [target.long, value] (.value target value) := .next (.inr rfl) value
      rw [hreads.parse_append, hreads.parse_append]
      exact (hinline.readFrom_append _ after).trans (hnext.readFrom_append _ after).symm

/-- A command line is read from the left. Either every argument belongs to an option, and
the result is what the options amount to; or the result is the error of the first argument
that offends, and what is behind it makes no difference unless a value was missing. A value
behind an equals sign is the same as one in the next argument, wherever an option may stand,
that is, not where a value is wanted. -/
theorem parse_leftToRight (arguments : List String) :
    (∀ o, parse arguments = .ok o ↔
      ∃ settings, Reads arguments settings ∧ Settles settings o) ∧
    (∀ e, parse arguments = .error e ↔
      ∃ front settings argument after, arguments = front ++ argument :: after ∧
        Reads front settings ∧ Offends argument after e) ∧
    (∀ e more, parse arguments = .error e → (∀ option, e ≠ .missingValue option) →
      parse (arguments ++ more) = .error e) ∧
    ∀ (target : Target) (value : String) (after : List String),
      (∀ option, parse arguments ≠ .error (.missingValue option)) →
      parse (arguments ++ (target.long ++ "=" ++ value) :: after) =
        parse (arguments ++ target.long :: value :: after) :=
  ⟨fun _ => parse_eq_ok_iff, fun _ => parse_eq_error_iff,
    fun _ more h he => parse_append_of_error h he more,
    fun target value _ hfront => parse_inline_eq target value hfront⟩

/-- The second `-v` is a value, and so a value for the image may follow it either way. After
an error the rest is not read, were it a wrong option. -/
theorem parse_leftToRight_valueLikeOption :
    parse (["-v", "--root", "-v"] ++ (Target.image.long ++ "=" ++ "a=b") :: ["-q"]) =
      parse (["-v", "--root", "-v"] ++ Target.image.long :: "a=b" :: ["-q"]) ∧
    parse (["-v", "--help=me"] ++ ["--nothing"]) = .error .help :=
  have hfront : parse ["-v", "--root", "-v"] = .ok { root := "-v", verbosity := 1 } := by decide
  ⟨(parse_leftToRight ["-v", "--root", "-v"]).2.2.2 .image "a=b" ["-q"] (by simp [hfront]),
    (parse_leftToRight ["-v", "--help=me"]).2.2.1 .help ["--nothing"] (by decide) (by simp)⟩

end FatImage.Options
