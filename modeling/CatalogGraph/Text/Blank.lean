import CatalogGraph.Text.Ranges

/-!
# White space

The white space characters of every script, and the removal of white space at the ends of a text.
-/

namespace CatalogGraph.Text

/-- White space: five ASCII controls, the space, and the spaces and separators beyond ASCII. -/
def blankRanges : Ranges :=
  [(0x9, 0xD), (0x20, 0x20), (0x85, 0x85), (0xA0, 0xA0), (0x1680, 0x1680), (0x2000, 0x200A),
   (0x2028, 0x2029), (0x202F, 0x202F), (0x205F, 0x205F), (0x3000, 0x3000)]

/-- A white space character of any script. -/
def isBlank (c : Char) : Bool := blankRanges.holds c

/-- The characters without the white space before them. -/
def trimStartChars (cs : List Char) : List Char := cs.dropWhile isBlank

/-- The characters without the white space after them. -/
def trimEndChars (cs : List Char) : List Char := (cs.reverse.dropWhile isBlank).reverse

/-- The characters without the white space around them. -/
def trimChars (cs : List Char) : List Char := trimEndChars (trimStartChars cs)

/-- The text without the white space around it. -/
def trim (s : String) : String := String.ofList (trimChars s.toList)

end CatalogGraph.Text
