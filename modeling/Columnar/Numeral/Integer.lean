/-
This file reads integers written in decimal: an optional sign and at least one of the digits `0`
to `9`, with any number of leading zeros. The number has to lie between two bounds. Digits are
taken from the left, so of two faults the one that stands further left is reported: a run of
digits that has already left the bounds is out of range whatever follows it, and a character
that is no digit counts only while the digits before it are still within the bounds.
-/

namespace Columnar.Numeral

/-- Why a text is not an integer within the bounds. -/
inductive IntegerError
  | empty
  | invalidDigit
  | tooLarge
  | tooSmall
deriving DecidableEq, Repr

/-- The report of an integer that cannot be read. -/
def IntegerError.message : IntegerError → String
  | .empty => "cannot parse integer from empty string"
  | .invalidDigit => "invalid digit found in string"
  | .tooLarge => "number too large to fit in target type"
  | .tooSmall => "number too small to fit in target type"

/-- The value of one of the digits `0` to `9`. -/
def digit? (character : Char) : Option Nat :=
  if character.isDigit then some (character.toNat - '0'.toNat) else none

/-- The bounds, both included, of the integers that are read. -/
structure Bounds where
  least : Int
  greatest : Int
deriving DecidableEq, Repr

/-- Read the digits of a number that is not negative, after those that make up `total`. -/
def readUp (bounds : Bounds) (total : Int) : List Char → Except IntegerError Int
  | [] => .ok total
  | character :: rest =>
    match digit? character with
    | none => .error .invalidDigit
    | some digit =>
      if 10 * total + digit ≤ bounds.greatest then readUp bounds (10 * total + digit) rest
      else .error .tooLarge

/-- Read the digits of a number with a minus sign, after those that make up `total`. -/
def readDown (bounds : Bounds) (total : Int) : List Char → Except IntegerError Int
  | [] => .ok total
  | character :: rest =>
    match digit? character with
    | none => .error .invalidDigit
    | some digit =>
      if bounds.least ≤ 10 * total - digit then readDown bounds (10 * total - digit) rest
      else .error .tooSmall

/-- Read a signed decimal within the bounds. A sign alone is an invalid digit. -/
def readInteger (bounds : Bounds) : List Char → Except IntegerError Int
  | [] => .error .empty
  | ['+'] => .error .invalidDigit
  | ['-'] => .error .invalidDigit
  | '+' :: digits => readUp bounds 0 digits
  | '-' :: digits => readDown bounds 0 digits
  | digits => readUp bounds 0 digits

/-- The integers of 32 bits in two's complement. -/
def Bounds.word32 : Bounds := ⟨-2147483648, 2147483647⟩

/-- The integers of 64 bits in two's complement. -/
def Bounds.word64 : Bounds := ⟨-9223372036854775808, 9223372036854775807⟩

/-- Read a signed decimal of 32 bits. -/
def readInt32 (text : List Char) : Except IntegerError Int32 :=
  (readInteger .word32 text).map Int32.ofInt

/-- Read a signed decimal of 64 bits. -/
def readInt64 (text : List Char) : Except IntegerError Int64 :=
  (readInteger .word64 text).map Int64.ofInt

end Columnar.Numeral
