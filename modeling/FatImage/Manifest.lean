import FatImage.ShortName
import FatImage.Text.Blank
import FatImage.Text.Number

/-!
# The list of files to place

A manifest names the files in the order in which they are placed, and the order matters: the n-th
file placed takes the n-th slot of the directory and the clusters right behind its predecessor's.

In its text form every line is empty or holds a name, the path of its bytes and, if wanted,
`placeholder=` with a size; a `#` starts a comment. Each entry remembers the line it came from, so
that a complaint made later still points at the text. No name is listed twice.
-/

namespace FatImage

/-- A file to place. -/
structure Entry where
  name : ShortName
  /-- The path of its bytes. -/
  source : String
  /-- The size of the zero-filled file that is created in place of a missing one. -/
  placeholder : Option UInt32 := none
  deriving DecidableEq

namespace Entry

/-- An entry whose name is given as text. -/
def ofName (name source : String) : Except NameError Entry :=
  (ShortName.ofString name).map fun name => { name, source }

/-- The entry with a placeholder of this size. -/
def withPlaceholder (e : Entry) (size : UInt32) : Entry :=
  { e with placeholder := some size }

end Entry

/-- What is wrong with a line. -/
inductive LineError where
  | invalidName (why : NameError)
  | duplicateName (name : ShortName)
  | missingSource
  | invalidPlaceholder
  /-- No file of that size can be placed. -/
  | placeholderTooLarge (size : UInt32) (limit : Nat)
  | unexpectedField
  deriving DecidableEq

def LineError.message : LineError → String
  | .invalidName why => s!"invalid name: {why.message}"
  | .duplicateName name => s!"{name.display} is listed twice"
  | .missingSource => "missing source path"
  | .invalidPlaceholder => "expected placeholder=<bytes>"
  | .placeholderTooLarge size limit =>
    s!"placeholder of {size.toNat} bytes exceeds the {limit} bytes the FAT can hold"
  | .unexpectedField => "unexpected extra field"

/-- A refused line; lines count from one. -/
structure ManifestError where
  line : Nat
  cause : LineError
  deriving DecidableEq

def ManifestError.message (e : ManifestError) : String :=
  s!"manifest line {e.line}: {e.cause.message}"

/-- An entry and the line it came from. -/
structure Listing where
  line : Nat
  entry : Entry
  deriving DecidableEq

/-- The files to place, in order. -/
structure Manifest where
  listings : List Listing
  deriving DecidableEq

namespace Manifest

def empty : Manifest := ⟨[]⟩

def entries (m : Manifest) : List Entry :=
  m.listings.map Listing.entry

def length (m : Manifest) : Nat :=
  m.listings.length

/-- Whether an entry has this name. -/
def lists (m : Manifest) (name : ShortName) : Bool :=
  m.listings.any fun l => l.entry.name == name

/-- Adds an entry at the end, as coming from `line`. -/
def pushAt (m : Manifest) (line : Nat) (e : Entry) : Except ManifestError Manifest :=
  if m.lists e.name then .error ⟨line, .duplicateName e.name⟩
  else .ok ⟨m.listings ++ [⟨line, e⟩]⟩

/-- Adds an entry at the end, as if every entry had a line of its own. -/
def push (m : Manifest) (e : Entry) : Except ManifestError Manifest :=
  m.pushAt (m.length + 1) e

/-- What stands before the size of a placeholder. -/
def placeholderMark : List Char := "placeholder=".toList

/-- Reads the third field of a line. -/
def placeholderSize? (field : List Char) : Option UInt32 :=
  if placeholderMark.isPrefixOf field then Text.word32? (field.drop placeholderMark.length)
  else none

/-- The entry in the fields of a line, if there are any. -/
def entryOfFields : List (List Char) → Except LineError (Option Entry)
  | [] => .ok none
  | [_] => .error .missingSource
  | name :: source :: rest => do
    let name ← (ShortName.parse name).mapError .invalidName
    let entry : Entry := { name, source := String.ofList source }
    match rest with
    | [] => return some entry
    | field :: more =>
      let some size := placeholderSize? field | throw .invalidPlaceholder
      if !more.isEmpty then throw .unexpectedField
      return some (entry.withPlaceholder size)

/-- The entry on a line, if there is one. -/
def entryOfLine (line : List Char) : Except LineError (Option Entry) :=
  entryOfFields (Text.fields (line.takeWhile (· ≠ '#')))

/-- Adds the entries on `lines`, the first of which is line `number`, up to the first bad line. -/
def readLines (m : Manifest) (number : Nat) : List (List Char) → Except ManifestError Manifest
  | [] => .ok m
  | line :: rest =>
    match entryOfLine line with
    | .error cause => .error ⟨number, cause⟩
    | .ok none => readLines m (number + 1) rest
    | .ok (some entry) =>
      match m.pushAt number entry with
      | .error e => .error e
      | .ok m => readLines m (number + 1) rest

def ofText (text : String) : Except ManifestError Manifest :=
  readLines empty 1 (Text.lines text.toList)

/-- Whether an entry declares a placeholder above `limit`. -/
def tooLarge? (limit : Nat) (l : Listing) : Option ManifestError :=
  match l.entry.placeholder with
  | some size =>
    if limit < size.toNat then some ⟨l.line, .placeholderTooLarge size limit⟩ else none
  | none => none

/-- Refuses the first entry whose placeholder is longer than any file can be. -/
def checkPlaceholders (m : Manifest) (limit : Nat) : Except ManifestError Unit :=
  match m.listings.findSome? (tooLarge? limit) with
  | some e => .error e
  | none => .ok ()

/-- The size of the file in which a boot disk keeps what has to survive. -/
def truthSize : Nat := 300000

/-- The files of the boot disk. -/
def bootText : String :=
  "WALL.BMP assets/wallpaper.bmp\n" ++
  "INIT.ELF apps/init.elf\n" ++
  "HELLO.ELF apps/hello.elf\n" ++
  "CALC.ELF apps/calc.elf\n" ++
  "DF.ELF apps/df.elf\n" ++
  "EXPLORER.ELF apps/explorer.elf\n" ++
  "SH.ELF apps/sh.elf\n" ++
  "TERM.ELF apps/terminal.elf\n" ++
  "LS.ELF apps/ls.elf\n" ++
  "CAT.ELF apps/cat.elf\n" ++
  "MKDIR.ELF apps/mkdir.elf\n" ++
  "TEXTVIEW.ELF apps/textview.elf\n" ++
  "POSIX_T.ELF apps/posix_test.elf\n" ++
  "POSIX_S.ELF apps/posix_suite.elf\n" ++
  "UTILS.ELF apps/file_utils.elf\n" ++
  "NOTEPAD.ELF apps/notepad.elf\n" ++
  "TEST.ELF apps/test.elf\n" ++
  "PING.ELF apps/ping.elf\n" ++
  "TCPTEST.ELF apps/tcptest.elf\n" ++
  s!"TRUTH.DAT TRUTH.DAT placeholder={truthSize}"

def boot : Except ManifestError Manifest :=
  ofText bootText

end Manifest

end FatImage
