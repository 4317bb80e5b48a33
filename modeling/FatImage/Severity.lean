import FatImage.Text.Blank

/-!
# Severities

Every notice has a severity, and the reader chooses the least severe one still to be shown; `none`
as the choice shows nothing at all.
-/

namespace FatImage

/-- How much a notice matters, the most severe first. -/
inductive Severity where
  | error
  | warn
  | info
  | debug
  | trace
  deriving DecidableEq, Repr

namespace Severity

/-- The position of a severity, the most severe first. -/
def rank : Severity → Nat
  | .error => 1
  | .warn => 2
  | .info => 3
  | .debug => 4
  | .trace => 5

def label : Severity → String
  | .error => "ERROR"
  | .warn => "WARN"
  | .info => "INFO"
  | .debug => "DEBUG"
  | .trace => "TRACE"

end Severity

/-- The least severe notices that are shown; `none` shows no notice. -/
abbrev Threshold := Option Severity

namespace Threshold

/-- Whether notices of a severity are shown. -/
def admits (t : Threshold) (s : Severity) : Bool :=
  match t with
  | none => false
  | some least => s.rank ≤ least.rank

def label : Threshold → String
  | none => "OFF"
  | some s => s.label

/-- All thresholds, from showing nothing to showing everything. -/
def all : List Threshold :=
  [none, some .error, some .warn, some .info, some .debug, some .trace]

/-- Reads the word for a threshold in any case of its letters, blanks around it aside. -/
def ofString? (value : String) : Option Threshold :=
  let word := String.ofList ((Text.trim value.toList).map Char.toUpper)
  all.find? fun t => t.label == word

end Threshold

end FatImage
