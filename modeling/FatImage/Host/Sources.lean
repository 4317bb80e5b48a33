import FatImage.Host.Tree
import FatImage.Volume.Placement

/-!
# Files below a root directory

The bytes of an entry are those of the file that its path leads to from a root directory. If there
is no such file and the entry declares a placeholder, a file of zeros is created there and used.
-/

namespace FatImage.Host

/-- Why the bytes of an entry cannot be had. -/
inductive SourceError where
  | cannotRead (path : String) (why : HostError)
  | cannotCreate (path : String) (why : HostError)
  deriving DecidableEq, Repr

/-- The words for bytes that cannot be had. -/
def SourceError.message : SourceError → String
  | .cannotRead path why => s!"{path}: {why.message}"
  | .cannotCreate path why => s!"cannot create placeholder {path}: {why.message}"

/-- Creates the file of a missing entry, all zeros, and answers its bytes. -/
def createPlaceholder (path : String) (size : UInt32) : Action Tree SourceError ByteArray := do
  let data := Bytes.zeros size.toNat
  Action.step fun t => match t.write path data with
    | .ok t => (.ok (), t)
    | .error why => (.error (.cannotCreate path why), t)
  Action.note (.created path size)
  return data

/-- The bytes of an entry below `root`. -/
def load (root : String) (e : Entry) : Action Tree SourceError ByteArray := do
  let path := joinPath root e.source
  let t := (← get).state
  match t.read path, e.placeholder with
  | .ok data, _ => return data
  | .error .notFound, some size => createPlaceholder path size
  | .error why, _ => throw (.cannotRead path why)

/-- The files below `root` as a source. -/
def sourcesUnder (root : String) : Source Tree :=
  fun e => (load root e).mapError SourceError.message

end FatImage.Host
