import ElementQuery.Text.CodeRange

/-!
# Blank characters

White space in two extents. The white space property of the Unicode standard surrounds a number;
text handling also counts the four information separators of ASCII. A zero width space and a byte
order mark belong to neither.

## Main definitions

* `isSpace` : the white space property.
* `isBlank` : the property and the information separators.
* `trim` : a text without its leading and trailing blanks.
-/

namespace ElementQuery.Text

/-- Code points with the white space property. -/
def spaceRanges : List CodeRange :=
  [(0x9, 0xD), (0x20, 0x20), (0x85, 0x85), (0xA0, 0xA0), (0x1680, 0x1680), (0x2000, 0x200A),
   (0x2028, 0x2029), (0x202F, 0x202F), (0x205F, 0x205F), (0x3000, 0x3000)]

/-- Whether a character has the white space property. -/
def isSpace (c : Char) : Bool := CodeRange.covers spaceRanges c.toNat

/-- Whether a character is white space or an information separator. -/
def isBlank (c : Char) : Bool := isSpace c || (0x1C ≤ c.toNat && c.toNat ≤ 0x1F)

/-- Drops the characters of a class at both ends of a list. -/
def trimBoth (drops : Char → Bool) (cs : List Char) : List Char :=
  ((cs.dropWhile drops).reverse.dropWhile drops).reverse

/-- A text without its leading and trailing blanks. -/
def trim (s : String) : String := String.ofList (trimBoth isBlank s.toList)

end ElementQuery.Text
