import FatImage.Text.Number
import FatImage.Text.Unseen

/-!
# A character between quotes

A message quotes the character it complains about. The quote and the backslash are escaped by a
backslash, the four usual control characters by their letters, and every other character that does
not show on its own by its code point.
-/

namespace FatImage.Text

/-- The character as it stands between the quotes. -/
def escaped (c : Char) : String :=
  if c = '\x00' then "\\0"
  else if c = '\t' then "\\t"
  else if c = '\r' then "\\r"
  else if c = '\n' then "\\n"
  else if c = '\x27' then "\\\x27"
  else if c = '\\' then "\\\\"
  else if isUnseen c then "\\u\x7b" ++ hexDigits c.toNat ++ "\x7d"
  else String.singleton c

/-- The character between single quotes. -/
def quoted (c : Char) : String :=
  "\x27" ++ escaped c ++ "\x27"

end FatImage.Text
