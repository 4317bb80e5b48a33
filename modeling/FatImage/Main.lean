import FatImage.Program

/-!
# The command

The program is a function from the files of a machine to the files that it leaves behind. The
command draws a picture of those files that a run may look at, applies the program to it, writes
back every file that has changed and prints what the program says.
-/

namespace FatImage.Command

open Host

/-- What the host has at a path in a directory, if it lets itself be looked at. -/
def probe (path : String) : IO (Option Node) := do
  try
    return some (.file (← IO.FS.readBinFile path))
  catch e =>
    match e with
    | .inappropriateType .. => return some .directory
    | _ => return none

/-- The path of a place from the top. -/
def hostPath (p : Place) : String :=
  "/" ++ "/".intercalate p

/-- Adds to the picture what the host has along the names from the directory at `p` on. -/
def surveyFrom (t : Tree) (p : Place) : List String → IO Tree
  | [] => return t
  | name :: rest => do
    if name = "." then surveyFrom t p rest
    else if name = ".." then surveyFrom t p.dropLast rest
    else
      let q := p ++ [name]
      let found ← match t.get? q with
        | some n => pure (some n)
        | none => probe (hostPath q)
      match found with
      | none => return t
      | some n =>
        let t := if (t.get? q).isSome then t else t.put q n
        match n with
        | .directory => surveyFrom t q rest
        | .file _ => return t

/-- Adds to the picture what the host has along a path. -/
def survey (t : Tree) (path : String) : IO Tree :=
  surveyFrom t (t.origin path) (names path)

/-- The picture that a run with these arguments needs. -/
def picture (arguments : List String) : IO Tree := do
  let here := names (← IO.currentDir).toString
  let t := Tree.fresh here
  match Options.parse arguments with
  | .error _ => return t
  | .ok o =>
    let t ← match o.manifest with
      | some path => survey t path
      | none => pure t
    match (Program.loadManifest o.manifest).start t with
    | (.error _, _) => return t
    | (.ok m, _) => (Program.paths o m).foldlM survey t

/-- Writes back the files that differ from the picture. -/
def writeBack (before after : Tree) : IO Unit :=
  after.nodes.forM fun (p, n) => do
    match n with
    | .directory => return ()
    | .file b =>
      if before.get? p ≠ some n then IO.FS.writeBinFile (hostPath p) b

end FatImage.Command

/-- Runs the program on the files of this machine. -/
def main (arguments : List String) : IO UInt32 := do
  let setting ← IO.getEnv FatImage.Program.thresholdVariable
  let before ← FatImage.Command.picture arguments
  let outcome := FatImage.Program.run arguments setting before
  FatImage.Command.writeBack before outcome.tree
  (← IO.getStderr).putStr outcome.stderr
  (← IO.getStdout).putStr outcome.stdout
  return outcome.code.toUInt32
