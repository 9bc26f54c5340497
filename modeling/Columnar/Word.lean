/-
This file computes with words of which one is reserved for NULL. Sums, differences and products of
integers wrap around, quotients are cut off toward zero, and a quotient by zero is NULL. A result
that wraps onto the reserved word is that word, and so is NULL from there on. An integer operation
can also be seen as a double: then its integer result is converted, except for division, which
divides the converted operands. NULL has no place in any order.
-/

import Columnar.Operation

namespace Columnar

namespace ArithmeticOp

/-- The operation on integers of 32 bits, none of them NULL. -/
def onInts (op : ArithmeticOp) (left right : Int32) : Int32 :=
  match op with
  | .add => left + right
  | .subtract => left - right
  | .multiply => left * right
  | .divide => if right = 0 then Null.int else left / right

/-- The operation on integers of 64 bits, none of them NULL. -/
def onLongs (op : ArithmeticOp) (left right : Int64) : Int64 :=
  match op with
  | .add => left + right
  | .subtract => left - right
  | .multiply => left * right
  | .divide => if right = 0 then Null.long else left / right

/-- The operation on doubles. -/
def onDoubles (op : ArithmeticOp) (left right : Float) : Float :=
  match op with
  | .add => left + right
  | .subtract => left - right
  | .multiply => left * right
  | .divide => left / right

end ArithmeticOp

namespace Word

/-- The double nearest to an integer. -/
def nearestDouble (number : Int) : Float :=
  Float.ofInt number

/-- An integer of 32 bits as one of 64, NULL as NULL. -/
def widen (word : Int32) : Int64 :=
  if word = Null.int then Null.long else word.toInt64

/-- An integer of 32 bits as a double, NULL as NULL. -/
def intToDouble (word : Int32) : Float :=
  if word = Null.int then Null.double else nearestDouble word.toInt

/-- An integer of 64 bits as a double, NULL as NULL. -/
def longToDouble (word : Int64) : Float :=
  if word = Null.long then Null.double else nearestDouble word.toInt

/-- The negative of an integer of 32 bits, NULL for NULL. -/
def negateInt (word : Int32) : Int32 :=
  if word = Null.int then Null.int else -word

/-- The negative of an integer of 64 bits, NULL for NULL. -/
def negateLong (word : Int64) : Int64 :=
  if word = Null.long then Null.long else -word

/-- The result of an operation on integers of 32 bits, seen as a double. -/
def intsToDouble (op : ArithmeticOp) (left right : Int32) : Float :=
  match op with
  | .divide => nearestDouble left.toInt / nearestDouble right.toInt
  | op => nearestDouble (op.onInts left right).toInt

/-- The result of an operation on integers of 64 bits, seen as a double. -/
def longsToDouble (op : ArithmeticOp) (left right : Int64) : Float :=
  match op with
  | .divide => nearestDouble left.toInt / nearestDouble right.toInt
  | op => nearestDouble (op.onLongs left right).toInt

/-! ### Orders -/

/-- The order of two integers of 64 bits. -/
def compareLongs (left right : Int64) : Option Ordering :=
  if left = Null.long ∨ right = Null.long then none else some (compare left right)

/-- The order of two symbol codes. -/
def compareCodes (left right : Int32) : Option Ordering :=
  if left = Null.code ∨ right = Null.code then none else some (compare left right)

/-- The order of two doubles; a value that is no number has none. -/
def compareDoubles (left right : Float) : Option Ordering :=
  if left < right then some .lt
  else if Float.beq left right then some .eq
  else if right < left then some .gt
  else none

/-- The order of two texts, character by character. -/
def compareTexts : Option String → Option String → Option Ordering
  | some left, some right => some (compare left right)
  | _, _ => none

end Word

end Columnar
