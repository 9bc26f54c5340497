/-
This file holds the characters with the property `White_Space` and the removal of such characters
from both ends of a text. The table is complete: it holds all 25 of them, of which core's own
`Char.isWhitespace` knows four. Zero-width characters do not have the property and stay.
-/

namespace Columnar.Blank

/-- Whether a character has the property `White_Space`. -/
def isBlank (character : Char) : Bool :=
  let point := character.toNat
  (0x09 ≤ point && point ≤ 0x0D) || point == 0x20 || point == 0x85 || point == 0xA0 ||
    point == 0x1680 || (0x2000 ≤ point && point ≤ 0x200A) || point == 0x2028 || point == 0x2029 ||
    point == 0x202F || point == 0x205F || point == 0x3000

/-- The characters without the blanks at either end. -/
def trimList (characters : List Char) : List Char :=
  ((characters.dropWhile isBlank).reverse.dropWhile isBlank).reverse

/-- The text without the blanks at either end. -/
def trim (text : String) : String :=
  String.ofList (trimList text.toList)

end Columnar.Blank
