/-!
# Blanks, lines and fields

A file list and a level name are read with the same notion of blank: the Unicode property
`White_Space`, twenty-five characters in all. A line break is a line feed alone; a carriage return
before it is a blank like any other and so never shows.
-/

namespace FatImage.Text

/-- The characters with the Unicode property `White_Space`. -/
def isBlank (c : Char) : Bool :=
  let n := c.toNat
  (9 ≤ n && n ≤ 13) || n == 0x20 || n == 0x85 || n == 0xA0 || n == 0x1680 ||
    (0x2000 ≤ n && n ≤ 0x200A) || n == 0x2028 || n == 0x2029 || n == 0x202F || n == 0x205F ||
    n == 0x3000

/-- The text without the blanks at its two ends. -/
def trim (cs : List Char) : List Char :=
  ((cs.dropWhile isBlank).reverse.dropWhile isBlank).reverse

/-- The maximal runs of characters that are not blank, in order. -/
def fields : List Char → List (List Char)
  | [] => []
  | c :: rest =>
    if isBlank c then fields rest
    else (c :: rest.takeWhile (!isBlank ·)) :: fields (rest.dropWhile (!isBlank ·))
termination_by cs => cs.length
decreasing_by
  · simp
  · have := (List.dropWhile_suffix (l := rest) (!isBlank ·)).length_le
    simp only [List.length_cons]
    omega

/-- Puts one more character in front of a text that is already cut into lines. -/
def consLine (c : Char) (ls : List (List Char)) : List (List Char) :=
  if c = '\n' then [] :: ls
  else match ls with
    | [] => [[c]]
    | l :: ls => (c :: l) :: ls

/-- The pieces of a text between its line feeds; a text without one is a single line. -/
def lines (cs : List Char) : List (List Char) :=
  cs.foldr consLine [[]]

end FatImage.Text
