import FatImage.Bytes

/-!
# The files of a machine

A tree of directories and files without links. Every node has a place, the list of names that leads
to it from the top; the top itself is always a directory. A path is text, read from the working
directory unless it starts with a slash, and walked name by name: `.` stays, `..` goes up, and any
other name has to be there.

The walk can fail in the ways of the host: the path or a name in it is too long, a name is not
there, or is there but no directory. A path that ends with a slash means a directory.
-/

namespace FatImage.Host

/-- Why the host does not do what it is asked. -/
inductive HostError where
  | notFound
  | notDirectory
  | isDirectory
  | nameTooLong
  /-- The path holds a NUL. -/
  | badPath
  /-- The bytes of a text file are no text. -/
  | badText
  deriving DecidableEq, Repr

def HostError.message : HostError → String
  | .notFound => "No such file or directory (os error 2)"
  | .notDirectory => "Not a directory (os error 20)"
  | .isDirectory => "Is a directory (os error 21)"
  | .nameTooLong => "File name too long (os error 36)"
  | .badPath => "file name contained an unexpected NUL byte"
  | .badText => "stream did not contain valid UTF-8"

/-- Something in a tree. -/
inductive Node where
  | file (content : ByteArray)
  | directory

instance : DecidableEq Node
  | .file b, .file b' =>
    @decidable_of_iff _ (b = b') ⟨congrArg Node.file, Node.file.inj⟩
      (ByteArray.instDecidableEq b b')
  | .directory, .directory => isTrue rfl
  | .file _, .directory => isFalse nofun
  | .directory, .file _ => isFalse nofun

/-- The names that lead to a node from the top. -/
abbrev Place := List String

/-- The place that one more name leads to from a directory: the directory itself, the one
above it, or something in it. -/
def Place.step (p : Place) (name : String) : Place :=
  if name = "." then p else if name = ".." then p.dropLast else p ++ [name]

def longestPath : Nat := 4095

def longestName : Nat := 255

/-- The names in a path, without the empty ones. -/
def names (path : String) : List String :=
  (path.splitOn "/").filter (· ≠ "")

def isAbsolute (path : String) : Bool :=
  path.startsWith "/"

/-- Whether a path means a directory by its last character. -/
def endsWithSlash (path : String) : Bool :=
  path.endsWith "/"

/-- The path `path` as seen from `root`: an absolute path is kept. -/
def joinPath (root path : String) : String :=
  if isAbsolute path || root.isEmpty then path
  else if endsWithSlash root then root ++ path
  else root ++ "/" ++ path

/-- The nodes of a machine. -/
structure Tree where
  /-- The working directory. -/
  here : Place := []
  nodes : List (Place × Node) := []

namespace Tree

def get? (t : Tree) (p : Place) : Option Node :=
  if p = [] then some .directory else t.nodes.lookup p

/-- The bytes of the file at a place; none if there is no file. -/
def content (t : Tree) (p : Place) : ByteArray :=
  match t.get? p with
  | some (.file b) => b
  | _ => .empty

/-- Applies `f` to the node at a place in a list of nodes. -/
def changeNode (p : Place) (f : Node → Node) : List (Place × Node) → List (Place × Node)
  | [] => []
  | (q, n) :: rest => if q = p then (q, f n) :: rest else (q, n) :: changeNode p f rest

/-- The tree with `n` at a place, in place of what was there. -/
def put (t : Tree) (p : Place) (n : Node) : Tree :=
  if (t.nodes.lookup p).isSome then { t with nodes := changeNode p (fun _ => n) t.nodes }
  else { t with nodes := t.nodes ++ [(p, n)] }

/-- The tree with the bytes of the file at a place replaced from `offset` on. -/
def patch (t : Tree) (p : Place) (offset : Nat) (data : ByteArray) : Tree :=
  match t with
  | ⟨here, nodes⟩ =>
    let change : Node → Node
      | .file b => .file (Bytes.overwrite b offset data)
      | .directory => .directory
    ⟨here, changeNode p change nodes⟩

/-- Where the names lead from the directory at `p`, and what is there. Only the last may lead to
nothing. -/
def walk (t : Tree) (p : Place) : List String → Except HostError (Place × Option Node)
  | [] => .ok (p, some .directory)
  | name :: rest =>
    if name = "." then t.walk p rest
    else if name = ".." then t.walk p.dropLast rest
    else if longestName < name.utf8ByteSize then .error .nameTooLong
    else
      let q := p ++ [name]
      match t.get? q with
      | some .directory => t.walk q rest
      | some (.file b) => if rest.isEmpty then .ok (q, some (.file b)) else .error .notDirectory
      | none => if rest.isEmpty then .ok (q, none) else .error .notFound

/-- Where the walk along a path starts. -/
def origin (t : Tree) (path : String) : Place :=
  if isAbsolute path then [] else t.here

/-- Refuses the texts that are no path at all. -/
def checkPath (path : String) : Except HostError Unit :=
  if path.contains '\x00' then .error .badPath
  else if path.isEmpty then .error .notFound
  else if longestPath < path.utf8ByteSize then .error .nameTooLong
  else .ok ()

/-- The file that a path leads to. -/
def findFile (t : Tree) (path : String) : Except HostError (Place × ByteArray) := do
  checkPath path
  let asked := names path ++ if endsWithSlash path then ["."] else []
  match ← t.walk (t.origin path) asked with
  | (p, some (.file b)) => return (p, b)
  | (_, some .directory) => throw .isDirectory
  | (_, none) => throw .notFound

def read (t : Tree) (path : String) : Except HostError ByteArray :=
  (t.findFile path).map (·.2)

def readText (t : Tree) (path : String) : Except HostError String := do
  let bytes ← t.read path
  match String.fromUTF8? bytes with
  | some text => return text
  | none => throw .badText

/-- The tree in which the path leads to a file with these bytes, be it new or not. Its directory has
to be there, also when a slash at the end already rules out a file. -/
def write (t : Tree) (path : String) (data : ByteArray) : Except HostError Tree := do
  checkPath path
  let asked := names path
  if endsWithSlash path then
    let _ ← t.walk (t.origin path) (asked.dropLast ++ ["."])
    throw .isDirectory
  match ← t.walk (t.origin path) asked with
  | (_, some .directory) => throw .isDirectory
  | (p, _) => return t.put p (.file data)

/-- The tree with directories along the names from `p` on. -/
def makeDirectories (t : Tree) (p : Place) : List String → Tree
  | [] => t
  | name :: rest =>
    let q := Place.step p name
    let t := if (t.get? q).isSome then t else t.put q .directory
    t.makeDirectories q rest

/-- The tree with a file that a path leads to, its directories made where they are missing. -/
def addFile (t : Tree) (path : String) (content : ByteArray) : Tree :=
  let asked := names path
  let start := t.origin path
  (t.makeDirectories start asked.dropLast).put (asked.foldl Place.step start) (.file content)

/-- The tree with the directory that a path leads to, and those on the way to it. -/
def addDirectory (t : Tree) (path : String) : Tree :=
  t.makeDirectories (t.origin path) (names path)

/-- The tree of a machine with an empty working directory. -/
def fresh (here : Place) : Tree :=
  makeDirectories { here := here, nodes := [] } [] here

/-- The files below the working directory with their paths from there. -/
def filesBelow (t : Tree) : List (String × ByteArray) :=
  t.nodes.filterMap fun (p, n) => match n with
    | .file b =>
      if t.here.isPrefixOf p then some ("/".intercalate (p.drop t.here.length), b) else none
    | .directory => none

/-! ## What a patch does to a place -/

theorem lookup_changeNode (p q : Place) (f : Node → Node) (nodes : List (Place × Node)) :
    (changeNode p f nodes).lookup q =
      if q = p then (nodes.lookup q).map f else nodes.lookup q := by
  induction nodes with
  | nil => simp [changeNode]
  | cons head rest ih =>
    obtain ⟨r, n⟩ := head
    by_cases hr : r = p
    · by_cases hq : q = r
      · simp [changeNode, hr, hq]
      · have hq' : ¬ q = p := fun h => hq (h.trans hr.symm)
        have hb : (q == p) = false := by simp [hq']
        simp [changeNode, hr, hq', List.lookup_cons, hb]
    · by_cases hq : q = r
      · simp [changeNode, hr, hq]
      · have hb : (q == r) = false := by simp [hq]
        simp [changeNode, hr, List.lookup_cons, hb, ih]

theorem get?_patch_self {t : Tree} {p : Place} {b : ByteArray} (h : t.get? p = some (.file b))
    (offset : Nat) (data : ByteArray) :
    (t.patch p offset data).get? p = some (.file (Bytes.overwrite b offset data)) := by
  unfold get? at h ⊢
  split at h
  · cases h
  · next hp => rw [if_neg hp, patch, lookup_changeNode, if_pos rfl, h]; rfl

theorem get?_patch_of_ne {t : Tree} {p q : Place} (h : q ≠ p) (offset : Nat)
    (data : ByteArray) : (t.patch p offset data).get? q = t.get? q := by
  simp only [get?, patch, lookup_changeNode, if_neg h]

theorem content_eq {t : Tree} {p : Place} {b : ByteArray} (h : t.get? p = some (.file b)) :
    t.content p = b := by
  rw [content, h]

/-- A walk that does not end in a directory ends at what is there. -/
theorem get?_of_walk {t : Tree} {names : List String} {p q : Place} {n : Option Node}
    (h : t.walk p names = .ok (q, n)) (hn : n ≠ some .directory) : t.get? q = n := by
  fun_induction walk t p names with
  | case1 =>
      cases h
      exact absurd rfl hn
  | case2 _ _ ih => exact ih h
  | case3 _ _ _ ih => exact ih h
  | case5 _ _ _ _ _ _ _ _ ih => exact ih h
  | case6 _ _ _ _ _ _ _ _ hget _ | case8 _ _ _ _ _ _ _ hget _ =>
      rw [Except.ok.injEq, Prod.mk.injEq] at h
      rw [← h.1, ← h.2]
      exact hget
  | case4 | case7 | case9 => cases h

theorem get?_of_findFile {t : Tree} {path : String} {p : Place} {b : ByteArray}
    (h : t.findFile path = .ok (p, b)) : t.get? p = some (.file b) := by
  simp only [findFile, bind, Except.bind] at h
  split at h
  · cases h
  · split at h
    · cases h
    · next hwalk =>
      split at h
      · cases h; exact get?_of_walk hwalk nofun
      · cases h
      · cases h

end Tree

end FatImage.Host
