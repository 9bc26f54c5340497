/-
This file holds the words that stand for NULL. Numbers, timestamps and symbol codes reserve one
word of their own domain for it, so that a row can be evaluated without a flag beside every word;
booleans read NULL as `false`, and a string is simply absent. The reserved words are defined here
and nowhere else.
-/

import Columnar.ColumnType

namespace Columnar

namespace Null

/-- NULL among the booleans, which have no value to spare. -/
def boolean : Bool := false

/-- NULL among the integers of 32 bits: the least of them. -/
def int : Int32 := Int32.minValue

/-- NULL among the integers of 64 bits: the least of them. -/
def long : Int64 := Int64.minValue

/-- NULL among the timestamps, which share the words of the long integers. -/
def date : Int64 := long

/-- NULL among the doubles. Any value that is not a number counts as NULL; this is one of them. -/
def double : Float := Float.ofBits 0x7FF8000000000000

/-- NULL among the symbol codes, which are otherwise not negative. -/
def code : Int32 := -1

end Null

/-- What stands for NULL in a type. -/
inductive Sentinel
  | boolean (word : Bool)
  | int (word : Int32)
  | long (word : Int64)
  | double (word : Float)
  | absent

/-- The representation of NULL in a type. -/
def ColumnType.sentinel : ColumnType → Sentinel
  | .boolean => .boolean Null.boolean
  | .int => .int Null.int
  | .long => .long Null.long
  | .double => .double Null.double
  | .date => .long Null.date
  | .symbol => .int Null.code
  | .string => .absent

end Columnar
