import FatImage.Host.ImageFile
import FatImage.Host.Sources
import FatImage.Options

/-!
# The program

A run reads its options, then the manifest, then opens the image, and only then changes anything:
whatever can be refused is refused before the first file is touched. From there on it places the
files of the manifest on the image, which has the layout of the boot disk.

The outcome is a value: the exit code, what goes to the two output channels, and the files as the
run leaves them.
-/

namespace FatImage.Program

open Host

def layout : Layout := Layout.bootDisk

/-- The variable whose value decides what is shown, if it names a threshold. -/
def thresholdVariable : String := "FATINJECT_LOG"

/-- What a run leaves behind. -/
structure Outcome where
  code : Nat
  stdout : String
  stderr : String
  tree : Tree

/-- The manifest that the options ask for. -/
def loadManifest (path : Option String) : Action Tree String Manifest := do
  match path with
  | none =>
    Action.ofExcept (Manifest.boot.mapError fun e => s!"built-in manifest: {e.message}")
  | some path =>
    let t := (← get).state
    let text ← Action.ofExcept
      ((t.readText path).mapError fun e => s!"cannot read manifest {path}: {e.message}")
    Action.ofExcept ((Manifest.ofText text).mapError fun e => s!"{path}: {e.message}")

/-- The paths that a run may look at besides that of the manifest. -/
def paths (o : Options) (m : Manifest) : List String :=
  o.image :: m.entries.map fun e => joinPath o.root e.source

/-- Does what the options ask for and answers how many files were placed. -/
def work (o : Options) : Action Tree String Nat := do
  let manifest ← loadManifest o.manifest
  Action.ofExcept ((manifest.checkPlaceholders layout.maxFileSize).mapError ManifestError.message)
  Action.note (.listed manifest.length)
  let device ← (openImage o.image layout.sectorSize).mapError ImageFileError.message
  Action.note (.sourcesUnder o.root)
  let report ← (fill device layout manifest (sourcesUnder o.root)).mapError
    fun e => s!"{o.image}: {e.message}"
  if report.skipped.size ≠ 0 then Action.note (.skippedInAll report.skipped.size)
  Action.note (.nextCluster report.next.cluster)
  return report.placed.size

/-- The lines for the notices that a threshold admits. -/
def shown (t : Threshold) (notices : List Notice) : String :=
  String.join ((notices.filter fun n => t.admits n.severity).map Notice.line)

/-- The threshold of a run: the variable decides if it can be read, else the options. -/
def thresholdOf (o : Options) (setting : Option String) : Threshold :=
  (setting.bind Threshold.ofString?).getD o.threshold

/-- Runs the program on the files of a machine. -/
def run (arguments : List String) (setting : Option String) (tree : Tree) : Outcome :=
  match Options.parse arguments with
  | .error .help => { code := 0, stdout := Options.usage ++ "\n", stderr := "", tree := tree }
  | .error e =>
    let stderr := s!"fatinject: {e.message}\n" ++
      "Try 'fatinject --help' for more information.\n"
    { code := 2, stdout := "", stderr := stderr, tree := tree }
  | .ok o =>
    let threshold := thresholdOf o setting
    match (work o).start tree with
    | (.ok count, w) =>
      { code := 0
        stdout := s!"Injected {count} file(s) into {o.image}\n"
        stderr := shown threshold w.notices
        tree := w.state }
    | (.error message, w) =>
      { code := 1
        stdout := ""
        stderr := shown threshold (w.notices ++ [.failed message])
        tree := w.state }

end FatImage.Program
