/-
This file writes doubles. A finite double is written with the fewest digits that read back as the
same double, as a plain decimal or with an exponent, whichever the style asks for at its size. A
plain decimal always has a point with a digit on either side; with an exponent there is a point
only between digits. The zeros keep their sign.
-/

import Columnar.Numeral.Shortest

namespace Columnar.Numeral

/-- How a double is laid out. -/
structure DoubleStyle where
  /-- The least exponent of a first digit that is still written as a plain decimal. -/
  plainFrom : Int
  /-- The greatest exponent of a first digit that is still written as a plain decimal. -/
  plainTo : Int
  /-- What stands between the digits and the exponent. -/
  exponentMark : Char
  infinity : String
  notNumber : String

namespace Scientific

/-- The decimal with its point in place. -/
def plain (decimal : Scientific) : List Char :=
  if decimal.exponent < 0 then
    ['0', '.'] ++ List.replicate (-decimal.exponent - 1).toNat '0' ++ decimal.digits
  else
    let whole := decimal.exponent.toNat + 1
    let fraction := decimal.digits.drop whole
    (decimal.digits.take whole).rightpad whole '0' ++ ['.'] ++
      (if fraction.isEmpty then ['0'] else fraction)

/-- The decimal with one digit before its point, and the exponent. -/
def withExponent (mark : Char) (decimal : Scientific) : List Char :=
  let fraction := decimal.digits.drop 1
  decimal.digits.take 1 ++ (if fraction.isEmpty then [] else '.' :: fraction) ++
    mark :: (toString decimal.exponent).toList

/-- The decimal in the layout that the style asks for. -/
def layout (style : DoubleStyle) (decimal : Scientific) : List Char :=
  if style.plainFrom ≤ decimal.exponent && decimal.exponent ≤ style.plainTo then decimal.plain
  else decimal.withExponent style.exponentMark

end Scientific

namespace DoubleStyle

/-- The text of a double without its sign, from its bits without the sign bit. -/
def magnitude (style : DoubleStyle) (bits : Nat) : String :=
  if bits = 0 then "0.0"
  else if bits = 0x7FF0000000000000 then style.infinity
  else String.ofList ((Scientific.shortest (.ofBits bits)).layout style)

/-- The text of a double. -/
def render (style : DoubleStyle) (double : Float) : String :=
  let bits := double.toBits.toNat
  if double.isNaN then style.notNumber
  else if bits < 0x8000000000000000 then style.magnitude bits
  else "-" ++ style.magnitude (bits - 0x8000000000000000)

end DoubleStyle

end Columnar.Numeral
