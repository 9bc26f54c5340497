/-
This file holds the operations of expressions: what they are called, the type of their result, and
how comparisons judge an order. Arithmetic widens from int to long to double; a timestamp can be
shifted by an integer, and the difference of two timestamps is a long. Comparisons need two types
that share a domain. Their verdict on values that have no order, NULL among them, is always no.
-/

import Columnar.Partition

namespace Columnar

/-- The operations of arithmetic. -/
inductive ArithmeticOp
  | add
  | subtract
  | multiply
  | divide
deriving DecidableEq, Repr

/-- The operations that compare. -/
inductive ComparisonOp
  | equal
  | notEqual
  | less
  | lessOrEqual
  | greater
  | greaterOrEqual
deriving DecidableEq, Repr

/-- The operations that join conditions. -/
inductive LogicalOp
  | and
  | or
deriving DecidableEq, Repr

/-- The operations on two operands. -/
inductive BinaryOp
  | arithmetic (op : ArithmeticOp)
  | comparison (op : ComparisonOp)
  | logical (op : LogicalOp)
deriving DecidableEq, Repr

/-- The operations on one operand. -/
inductive UnaryOp
  | negate
  | not
  | isNull
  | isNotNull
  /-- The start of the segment that a timestamp belongs to. -/
  | floor (scheme : Scheme)
deriving DecidableEq, Repr

/-- The domain in which two values are compared. -/
inductive Domain
  | integer
  | double
  | boolean
  | text
  /-- Bare symbol codes, where there is no table to turn them into text. -/
  | code
deriving DecidableEq, Repr

/-- The domain in which values of two types are compared. Symbols count as text here. -/
def Domain.ofTypes? : ColumnType → ColumnType → Option Domain
  | .int, .int | .int, .long | .long, .int | .long, .long => some .integer
  | .double, .int | .double, .long | .double, .double => some .double
  | .int, .double | .long, .double => some .double
  | .date, .date => some .integer
  | .boolean, .boolean => some .boolean
  | .string, .string | .string, .symbol | .symbol, .string | .symbol, .symbol => some .text
  | _, _ => none

namespace ArithmeticOp

/-- The sign of an operation. -/
def symbol : ArithmeticOp → String
  | .add => "+"
  | .subtract => "-"
  | .multiply => "*"
  | .divide => "/"

/-- The type of a result. -/
def outputType? : ArithmeticOp → ColumnType → ColumnType → Option ColumnType
  | .add, .date, .int | .add, .date, .long => some .date
  | .add, .int, .date | .add, .long, .date => some .date
  | .subtract, .date, .int | .subtract, .date, .long => some .date
  | .subtract, .date, .date => some .long
  | _, left, right => left.wider? right

end ArithmeticOp

namespace ComparisonOp

/-- The sign of a comparison. -/
def symbol : ComparisonOp → String
  | .equal => "="
  | .notEqual => "!="
  | .less => "<"
  | .lessOrEqual => "<="
  | .greater => ">"
  | .greaterOrEqual => ">="

/-- Whether a comparison holds of values in the given order. -/
def accepts : ComparisonOp → Ordering → Bool
  | .equal, order => order == .eq
  | .notEqual, order => order != .eq
  | .less, order => order == .lt
  | .lessOrEqual, order => order != .gt
  | .greater, order => order == .gt
  | .greaterOrEqual, order => order != .lt

/-- Whether a comparison holds of values that may have no order. -/
def holds (op : ComparisonOp) : Option Ordering → Bool
  | none => false
  | some order => op.accepts order

theorem holds_none (op : ComparisonOp) : op.holds none = false := rfl

end ComparisonOp

namespace LogicalOp

/-- The word for an operation. -/
def symbol : LogicalOp → String
  | .and => "AND"
  | .or => "OR"

end LogicalOp

namespace BinaryOp

/-- The sign or word for an operation. -/
def symbol : BinaryOp → String
  | .arithmetic op => op.symbol
  | .comparison op => op.symbol
  | .logical op => op.symbol

/-- Whether the operation is one of arithmetic. -/
def isArithmetic : BinaryOp → Bool
  | .arithmetic _ => true
  | _ => false

/-- Whether the operation compares. -/
def isComparison : BinaryOp → Bool
  | .comparison _ => true
  | _ => false

/-- The type of a result, if the operation is defined on operands of these types. -/
def outputType? : BinaryOp → ColumnType → ColumnType → Option ColumnType
  | .arithmetic op, left, right => op.outputType? left right
  | .comparison _, left, right => (Domain.ofTypes? left right).map fun _ => .boolean
  | .logical _, .boolean, .boolean => some .boolean
  | .logical _, _, _ => none

/-- The names of the operations: a sign, a short word, or both, in small letters. -/
def names : List (String × BinaryOp) :=
  [("+", .arithmetic .add), ("add", .arithmetic .add),
    ("-", .arithmetic .subtract), ("sub", .arithmetic .subtract),
    ("*", .arithmetic .multiply), ("mul", .arithmetic .multiply),
    ("/", .arithmetic .divide), ("div", .arithmetic .divide),
    ("=", .comparison .equal), ("eq", .comparison .equal),
    ("!=", .comparison .notEqual), ("<>", .comparison .notEqual), ("ne", .comparison .notEqual),
    ("<", .comparison .less), ("lt", .comparison .less),
    ("<=", .comparison .lessOrEqual), ("le", .comparison .lessOrEqual),
    (">", .comparison .greater), ("gt", .comparison .greater),
    (">=", .comparison .greaterOrEqual), ("ge", .comparison .greaterOrEqual),
    ("and", .logical .and), ("or", .logical .or)]

/-- The operation with a name, whatever the case of its letters. -/
def ofName? (text : String) : Option BinaryOp :=
  names.lookup (Ascii.lower text)

end BinaryOp

namespace UnaryOp

/-- The word for an operation, without the scheme of a floor. -/
def symbol : UnaryOp → String
  | .negate => "-"
  | .not => "NOT"
  | .isNull => "IS NULL"
  | .isNotNull => "IS NOT NULL"
  | .floor _ => "FLOOR"

/-- The word for an operation, with the scheme of a floor. -/
def render : UnaryOp → String
  | .floor scheme => "FLOOR(" ++ scheme.name ++ ")"
  | op => op.symbol

/-- The type of a result, if the operation is defined on operands of this type. -/
def outputType? : UnaryOp → ColumnType → Option ColumnType
  | .negate, operand => if operand.isNumeric then some operand else none
  | .not, .boolean => some .boolean
  | .isNull, _ => some .boolean
  | .isNotNull, _ => some .boolean
  | .floor _, .date => some .date
  | _, _ => none

end UnaryOp

end Columnar
