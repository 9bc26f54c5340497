/-
This file reads doubles written in decimal: an optional sign, then digits with an optional point
before, between or after them and an optional exponent, or one of the words for infinity and for
a value that is no number, in any case of their letters. The decimal is rounded once, to the
nearest double. A decimal far outside the range of the doubles is decided by its size alone, so
that no exponent, however long, is ever raised to.
-/

import Columnar.Text.Ascii
import Columnar.Numeral.Integer

namespace Columnar.Numeral

/-- Why a text is not a double. -/
inductive DoubleError
  | empty
  | invalid
deriving DecidableEq, Repr

/-- The report of a double that cannot be read. -/
def DoubleError.message : DoubleError → String
  | .empty => "cannot parse float from empty string"
  | .invalid => "invalid float literal"

/-- The number that a run of digits stands for. -/
def digitsValue (digits : List Char) : Nat :=
  digits.foldl (fun total digit => 10 * total + (digit.toNat - '0'.toNat)) 0

/-- Whether a number starts with a minus sign, and what follows its sign. -/
def splitSign : List Char → Bool × List Char
  | '-' :: rest => (true, rest)
  | '+' :: rest => (false, rest)
  | rest => (false, rest)

/-- A decimal as it is written: `units` times ten to the `power`. -/
structure Decimal where
  units : Nat
  power : Int
deriving DecidableEq, Repr

namespace Decimal

/-- The double nearest to the decimal. Every positive double lies between the powers of ten with
the exponents -330 and 310. -/
def toDouble (decimal : Decimal) : Float :=
  let size : Int := decimal.power + (Nat.toDigits 10 decimal.units).length
  if decimal.units = 0 || size < -330 then 0.0
  else if 310 < size then Float.ofBits 0x7FF0000000000000
  else Float.ofScientific decimal.units (decimal.power < 0) decimal.power.natAbs

/-- Read what follows the digits of a decimal: nothing, or an exponent. -/
def readExponent? : List Char → Option Int
  | [] => some 0
  | mark :: rest =>
    if mark = 'e' || mark = 'E' then
      let (negative, digits) := splitSign rest
      if digits.isEmpty || !digits.all Char.isDigit then none
      else some (if negative then -(digitsValue digits) else digitsValue digits)
    else none

/-- Read a decimal without a sign. -/
def read? (text : List Char) : Option Decimal :=
  let (whole, rest) := text.span Char.isDigit
  let (fraction, rest) := match rest with
    | '.' :: rest => rest.span Char.isDigit
    | rest => ([], rest)
  if whole.isEmpty && fraction.isEmpty then none
  else (readExponent? rest).map fun exponent =>
    ⟨digitsValue (whole ++ fraction), exponent - fraction.length⟩

end Decimal

/-- Read a double without a sign. -/
def readMagnitude? (text : List Char) : Option Float :=
  match Decimal.read? text with
  | some decimal => some decimal.toDouble
  | none =>
    let word := String.ofList (text.map Char.toLower)
    if word = "inf" || word = "infinity" then some (Float.ofBits 0x7FF0000000000000)
    else if word = "nan" then some (Float.ofBits 0x7FF8000000000000)
    else none

/-- Read a double. -/
def readDouble : List Char → Except DoubleError Float
  | [] => .error .empty
  | text =>
    let (negative, magnitude) := splitSign text
    match readMagnitude? magnitude with
    | some double => .ok (if negative then -double else double)
    | none => .error .invalid

end Columnar.Numeral
