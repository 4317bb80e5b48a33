import FatImage.Severity

/-!
# The command line

Options are read from the left. An option with a value takes it from behind an equals sign, which
only a long option can have, or else takes the whole next argument, whatever that looks like. The
first argument that cannot be read decides; of an option given twice the last value counts.
-/

namespace FatImage

/-- The options of a run. -/
structure Options where
  image : String := "os.img"
  /-- The directory from which the sources are reached. -/
  root : String := "."
  /-- The file with the manifest, if it is not the one of the boot disk. -/
  manifest : Option String := none
  quiet : Bool := false
  /-- How often more output was asked for. -/
  verbosity : Nat := 0
  deriving DecidableEq, Repr

/-- Why a command line leads to no run. -/
inductive UsageError where
  | help
  | missingValue (option : String)
  | unexpected (argument : String)
  deriving DecidableEq, Repr

namespace Options

def usage : String :=
  "Usage: fatinject [OPTIONS]\n\n" ++
  "Inject the boot manifest into a pre-formatted FAT12 image.\n\n" ++
  "Options:\n" ++
  "  -i, --image <PATH>      Image to modify in place [default: os.img]\n" ++
  "  -r, --root <DIR>        Directory manifest sources are relative to [default: .]\n" ++
  "  -m, --manifest <FILE>   Text manifest to use instead of the built-in one\n" ++
  "  -v                      More output (-vv for trace)\n" ++
  "  -q                      Only warnings and errors\n" ++
  "  -h, --help              Print this help\n\n" ++
  "The FATINJECT_LOG environment variable (off, error, warn, info, debug, trace)\n" ++
  "overrides -v and -q."

/-- The least severe notices that a run shows. -/
def threshold (o : Options) : Threshold :=
  if o.quiet then some .warn
  else match o.verbosity with
    | 0 => some .info
    | 1 => some .debug
    | _ => some .trace

/-- What the value of an option is for. -/
inductive Target where
  | image
  | root
  | manifest
  deriving DecidableEq, Repr

/-- What an option asks for. -/
inductive Flag where
  | help
  | verbose (times : Nat)
  | quiet
  | value (target : Target)
  deriving DecidableEq, Repr

/-- The options that there are. -/
def flags : List (String × Flag) :=
  [("-h", .help), ("--help", .help), ("-v", .verbose 1), ("-vv", .verbose 2),
    ("-q", .quiet), ("--quiet", .quiet),
    ("-i", .value .image), ("--image", .value .image),
    ("-r", .value .root), ("--root", .value .root),
    ("-m", .value .manifest), ("--manifest", .value .manifest)]

/-- The options with a value put where it belongs. -/
def set (o : Options) (target : Target) (value : String) : Options :=
  match target with
  | .image => { o with image := value }
  | .root => { o with root := value }
  | .manifest => { o with manifest := some value }

/-- An argument as an option and what stands behind its first equals sign. Only what starts with two
dashes is divided. -/
def divide (argument : String) : String × Option String :=
  let cs := argument.toList
  let front := cs.takeWhile (· ≠ '=')
  match cs.dropWhile (· ≠ '=') with
  | _ :: value =>
    if ['-', '-'].isPrefixOf front then (String.ofList front, some (String.ofList value))
    else (argument, none)
  | [] => (argument, none)

/-- Reads the arguments that are left, `o` being what those before have set. -/
def readFrom (o : Options) : List String → Except UsageError Options
  | [] => .ok o
  | argument :: rest =>
    let (option, inline?) := divide argument
    match flags.lookup option with
    | none => .error (.unexpected option)
    | some .help => .error .help
    | some (.verbose n) => readFrom { o with verbosity := o.verbosity + n } rest
    | some .quiet => readFrom { o with quiet := true } rest
    | some (.value target) =>
      match inline? with
      | some value => readFrom (o.set target value) rest
      | none => match rest with
        | [] => .error (.missingValue option)
        | value :: rest => readFrom (o.set target value) rest

def parse (arguments : List String) : Except UsageError Options :=
  readFrom {} arguments

end Options

def UsageError.message : UsageError → String
  | .help => Options.usage
  | .missingValue option => s!"{option} needs a value"
  | .unexpected argument => s!"unexpected argument '{argument}'"

end FatImage
