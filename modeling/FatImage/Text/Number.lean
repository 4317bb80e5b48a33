/-!
# Numbers in text

Sizes in a file list are decimals that must fit a 32-bit word; offsets in messages are written in
hexadecimal with a leading `0x`.
-/

namespace FatImage.Text

/-- The value of a string of decimal digits. -/
def decimalValue (digits : List Char) : Nat :=
  digits.foldl (fun n c => 10 * n + (c.toNat - '0'.toNat)) 0

/-- Reads a decimal below `2 ^ 32`: an optional plus sign and at least one ASCII digit. -/
def word32? (cs : List Char) : Option UInt32 :=
  let digits := if cs.head? = some '+' then cs.tail else cs
  if digits.isEmpty || !digits.all Char.isDigit then none
  else
    let n := decimalValue digits
    if n < 0x100000000 then some n.toUInt32 else none

/-- A number in hexadecimal, lower case, without leading zeros. -/
def hexDigits (n : Nat) : String :=
  String.ofList (Nat.toDigits 16 n)

/-- A number in hexadecimal behind `0x`. -/
def hex (n : Nat) : String :=
  "0x" ++ hexDigits n

end FatImage.Text
