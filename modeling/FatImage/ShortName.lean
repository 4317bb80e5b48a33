import FatImage.Text.Quoted

/-!
# 8.3 names

A directory record has room for eight bytes of base name and three of extension, both filled up
with spaces, and no place for the dot. A name that would not fit is refused and never cut short:
two long names cut to the same eleven bytes would collide, and a cut name would not be found again.
-/

namespace FatImage

/-- Why a text is not an 8.3 name. -/
inductive NameError where
  | empty
  | baseTooLong (length : Nat)
  | extensionTooLong (length : Nat)
  | tooManyDots
  | invalidCharacter (c : Char)
  deriving DecidableEq, Repr

def NameError.message : NameError → String
  | .empty => "empty base name"
  | .baseTooLong n => s!"base name has {n} characters, at most 8 allowed"
  | .extensionTooLong n => s!"extension has {n} characters, at most 3 allowed"
  | .tooManyDots => "more than one '.'"
  | .invalidCharacter c => s!"character {Text.quoted c} not allowed in 8.3 name"

/-- A name as a record holds it: eight bytes and three bytes, each padded with spaces. -/
structure ShortName where
  base : Vector UInt8 8
  extension : Vector UInt8 3
  deriving DecidableEq

namespace ShortName

def baseLength : Nat := 8

def extensionLength : Nat := 3

/-- The byte that fills up a short base name or extension. -/
def padding : UInt8 := 0x20

/-- Printable ASCII characters that a name may not hold. -/
def reserved : List Char :=
  ['\x22', '*', '+', ',', '/', ':', ';', '<', '=', '>', '?', '[', '\\', ']', '|']

/-- Whether a character may stand in a base name or an extension. -/
def isAllowed (c : Char) : Bool :=
  0x21 ≤ c.toNat && c.toNat ≤ 0x7E && !reserved.contains c

/-- Upper-cased characters in a field of `n` bytes, filled up with spaces. -/
def field (n : Nat) (cs : List Char) : Vector UInt8 n :=
  Vector.ofFn fun i => match cs[i.val]? with
    | some c => c.toUpper.toNat.toUInt8
    | none => padding

/-- Reads a base name and, behind a dot, an extension. -/
def parse (name : List Char) : Except NameError ShortName := do
  let base := name.takeWhile (· ≠ '.')
  let extension := (name.dropWhile (· ≠ '.')).tail
  if extension.contains '.' then throw .tooManyDots
  if base.isEmpty then throw .empty
  if let some c := (base ++ extension).find? (!isAllowed ·) then throw (.invalidCharacter c)
  if baseLength < base.length then throw (.baseTooLong base.length)
  if extensionLength < extension.length then throw (.extensionTooLong extension.length)
  return { base := field 8 base, extension := field 3 extension }

def ofString (name : String) : Except NameError ShortName :=
  parse name.toList

/-- The name whose eleven bytes are `byte 0` to `byte 10`. -/
def ofBytes (byte : Nat → UInt8) : ShortName where
  base := Vector.ofFn fun i => byte i
  extension := Vector.ofFn fun i => byte (8 + i)

/-- The eleven bytes of a name. -/
def bytes (name : ShortName) : List UInt8 :=
  name.base.toList ++ name.extension.toList

/-- A field as text: without its padding, each byte the character of that code. -/
def fieldText (bytes : List UInt8) : List Char :=
  (bytes.reverse.dropWhile (· == padding)).reverse.map fun b => Char.ofNat b.toNat

/-- The characters of a name as it is shown: the dot stands only before an extension. -/
def displayChars (name : ShortName) : List Char :=
  let extension := fieldText name.extension.toList
  fieldText name.base.toList ++ if extension.isEmpty then [] else '.' :: extension

def display (name : ShortName) : String :=
  String.ofList name.displayChars

/-! ## A name and its bytes -/

theorem length_bytes (n : ShortName) : n.bytes.length = 11 := by
  simp [bytes]

/-- Names are told apart by their bytes. -/
theorem bytes_inj {name name' : ShortName} : name.bytes = name'.bytes ↔ name = name' := by
  constructor
  · intro h
    obtain ⟨hbase, hextension⟩ := List.append_inj h (by simp)
    obtain ⟨base, extension⟩ := name
    rw [ShortName.mk.injEq]
    exact ⟨Vector.toList_inj.1 hbase, Vector.toList_inj.1 hextension⟩
  · intro h
    rw [h]

theorem ofBytes_eq {n : ShortName} {byte : Nat → UInt8}
    (h : ∀ i < 11, byte i = n.bytes[i]?.getD 0) : ofBytes byte = n := by
  have hb : (ofBytes byte).base = n.base := by
    ext i hi
    have := h i (by omega)
    simp only [bytes, List.getElem?_append, Vector.length_toList, hi, if_true] at this
    simp [ofBytes, this, hi]
  have he : (ofBytes byte).extension = n.extension := by
    ext i hi
    have := h (8 + i) (by omega)
    simp only [bytes, List.getElem?_append, Vector.length_toList,
      show ¬ (8 + i < 8) by omega, if_false, Nat.add_sub_cancel_left] at this
    simp [ofBytes, this, hi]
  cases n
  simp only [ofBytes] at hb he ⊢
  rw [hb, he]

end ShortName

end FatImage
