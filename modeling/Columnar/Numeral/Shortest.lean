/-
This file finds the shortest decimal that stands for a double. The reals that round to a positive
finite double form an interval around it, whose ends belong to it exactly when the significand is
even. On the grid of the multiples of a power of ten only the two neighbours of the value matter:
if any point of the grid lies in the interval, so does one of them. The grids are tried from the
coarsest, with one digit before its point, and the first one that meets the interval gives the
digits; of two neighbours that both lie in the interval the nearer one is taken, and of two that
are equally near the greater one. All of this is arithmetic on natural numbers.
-/

namespace Columnar.Numeral

/-- The reals that round to one positive double: the ends and the double itself, as numerators
over one denominator, and whether the ends belong to the interval. -/
structure RoundingInterval where
  lower : Nat
  value : Nat
  upper : Nat
  denominator : Nat
  closed : Bool
deriving DecidableEq, Repr

namespace RoundingInterval

/-- The interval of the positive finite double with these bits. Numerators count quarters of the
unit in the last place, for the lower neighbour of a power of two is only half a unit away. -/
def ofBits (bits : Nat) : RoundingInterval :=
  let fraction := bits % 0x10000000000000
  let biased := bits / 0x10000000000000
  let significand := if biased = 0 then fraction else 0x10000000000000 + fraction
  let quarter : Int := (max biased 1 : Nat) - 1077
  let below := if fraction = 0 && 1 < biased then 1 else 2
  let scale := Nat.pow 2 quarter.toNat
  { lower := (4 * significand - below) * scale
    value := 4 * significand * scale
    upper := (4 * significand + 2) * scale
    denominator := Nat.pow 2 (-quarter).toNat
    closed := significand % 2 == 0 }

/-- The same interval measured in units of ten to the given power. -/
def inUnits (interval : RoundingInterval) (power : Int) : RoundingInterval :=
  let scale := Nat.pow 10 (-power).toNat
  { interval with
    lower := interval.lower * scale
    value := interval.value * scale
    upper := interval.upper * scale
    denominator := interval.denominator * Nat.pow 10 power.toNat }

/-- Whether a whole number of units lies in the interval. -/
def contains (interval : RoundingInterval) (point : Nat) : Bool :=
  let numerator := point * interval.denominator
  if interval.closed then interval.lower ≤ numerator && numerator ≤ interval.upper
  else interval.lower < numerator && numerator < interval.upper

/-- The whole number of units that stands for the value, if the interval holds one. -/
def wholePoint? (interval : RoundingInterval) : Option Nat :=
  let floor := interval.value / interval.denominator
  let nearer := if 2 * (interval.value % interval.denominator) < interval.denominator
    then floor else floor + 1
  match interval.contains floor, interval.contains (floor + 1) with
  | true, true => some nearer
  | true, false => some floor
  | false, true => some (floor + 1)
  | false, false => none

/-- The count of decimal digits of a natural number. -/
def digitCount (number : Nat) : Nat :=
  (Nat.toDigits 10 number).length

/-- The power of ten just above the value: the value is less than it, and at least a tenth of
it. -/
def magnitude (interval : RoundingInterval) : Int :=
  let guess : Int := (digitCount interval.value : Int) - digitCount interval.denominator
  let scaled := interval.inUnits guess
  if scaled.value < scaled.denominator then guess else guess + 1

end RoundingInterval

/-- A positive decimal: the digit before the point and those after it, with the power of ten
that the whole is multiplied by. -/
structure Scientific where
  digits : List Char
  exponent : Int
deriving DecidableEq, Repr

namespace Scientific

/-- A natural number of units of ten to the given power, without zeros at the end. -/
def ofUnits (units : Nat) (power : Int) : Scientific :=
  let digits := Nat.toDigits 10 units
  { digits := (digits.reverse.dropWhile (· == '0')).reverse
    exponent := power + digits.length - 1 }

/-- The shortest decimal in a rounding interval, the nearest one to the value of those. Seventeen
digits always suffice for a double. -/
def shortest (interval : RoundingInterval) : Scientific :=
  let magnitude := interval.magnitude
  let found := (List.range 17).findSome? fun (index : Nat) =>
    let power := magnitude - (index + 1)
    (interval.inUnits power).wholePoint?.map fun units => ofUnits units power
  found.getD (ofUnits (interval.inUnits (magnitude - 17)).value (magnitude - 17))

end Scientific

end Columnar.Numeral
