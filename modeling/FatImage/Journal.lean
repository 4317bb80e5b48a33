import FatImage.Notice

/-!
# Actions and their journal

Everything that a run does to the outside is one of three things: it calls the device, it asks for
the bytes of a file, or it tells its reader something. The journal holds these events of all three
kinds in the one order in which they happened, so that what is said about the order of a write and
a notice, or about the calls that a failure leaves out, is said about a single sequence.

An action works on a state (a disk, or the files of a machine) that it reaches only through a
device or a source of files, and adds to the journal. When it fails, what it did before stays done:
there is no rollback.
-/

namespace FatImage

/-- Something that a run did to the outside. -/
inductive Event where
  /-- A call, and whether the device carried it out. -/
  | call (call : Call) (done : Bool)
  /-- The bytes of a file were asked for, and whether they could be had. -/
  | load (name : ShortName) (found : Bool)
  | notice (n : Notice)

def Event.call? : Event → Option (Call × Bool)
  | .call c done => some (c, done)
  | _ => none

def Event.notice? : Event → Option Notice
  | .notice n => some n
  | _ => none

/-- What actions work on. -/
structure World (σ : Type) where
  state : σ
  /-- The events so far, in order. -/
  journal : Array Event

def World.calls (w : World σ) : List (Call × Bool) :=
  w.journal.toList.filterMap Event.call?

def World.notices (w : World σ) : List Notice :=
  w.journal.toList.filterMap Event.notice?

/-- A computation on a world that may fail with a cause `ε`. -/
abbrev Action (σ ε α : Type) := EStateM ε (World σ) α

namespace Action

/-- Runs an action on a state, with an empty journal. -/
def start (x : Action σ ε α) (s : σ) : Except ε α × World σ :=
  match x { state := s, journal := #[] } with
  | .ok a w => (.ok a, w)
  | .error e w => (.error e, w)

/-- Adds an event to the journal. -/
def record (e : Event) : Action σ ε Unit := fun w =>
  match w with
  | ⟨s, events⟩ => .ok () ⟨s, events.push e⟩

def note (n : Notice) : Action σ ε Unit :=
  record (.notice n)

/-- Does a step of the state that may fail. -/
def step (f : σ → Except ε α × σ) : Action σ ε α := fun w =>
  match w with
  | ⟨s, events⟩ => match f s with
    | (.ok a, s) => .ok a ⟨s, events⟩
    | (.error e, s) => .error e ⟨s, events⟩

/-- Runs an action and takes its failure for an answer. -/
def attempt (x : Action σ ε α) : Action σ ε' (Except ε α) := fun w =>
  match x w with
  | .ok a w => .ok (.ok a) w
  | .error e w => .ok (.error e) w

/-- Succeeds or fails as given. -/
def ofExcept (r : Except ε α) : Action σ ε α :=
  match r with
  | .ok a => pure a
  | .error e => throw e

/-- Fails for the same reason in other words. -/
def mapError (f : ε → ε') (x : Action σ ε α) : Action σ ε' α := fun w =>
  match x w with
  | .ok a w => .ok a w
  | .error e w => .error (f e) w

/-- Runs `f` on `count` numbers from `first` on, in ascending order, up to the first failure. -/
def forEach (f : Nat → Action σ ε Unit) : (count first : Nat) → Action σ ε Unit
  | 0, _ => pure ()
  | count + 1, first => do
    f first
    forEach f count (first + 1)

end Action

end FatImage
