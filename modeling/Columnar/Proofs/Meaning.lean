/-
This file says what an expression means, with NULL as the absence of a value and numbers without
bounds. Sums, differences and products are taken exactly and then brought back into the range of
the declared type; one that comes to the least number of that range is no value. Quotients drop
their fraction and have no value over zero. A timestamp outside the calendar belongs to no segment.
Comparisons hold of two values or not at all. A condition is always true or false, for booleans have
no word to spare: where one is missing, it counts as false.

No reserved word stands for NULL here, except where a cell or a constant is first looked at. Doubles
have no place in this meaning: they carry their own absent value and their own arithmetic.
-/

import Columnar.Proofs.Typing
import Columnar.Expr.Evaluation

namespace Columnar

/-! ### Numbers -/

namespace ColumnType

/-- The least number of the words of a type. -/
def least : ColumnType → Int
  | .int => -0x80000000
  | _ => -0x8000000000000000

/-- The count of the words of a type. -/
def modulus : ColumnType → Nat
  | .int => 0x100000000
  | _ => 0x10000000000000000

/-- A number brought back into the range of a type. The least number there is no value. -/
def wrap? (type : ColumnType) (number : Int) : Option Int :=
  if number.bmod type.modulus = type.least then none else some (number.bmod type.modulus)

end ColumnType

/-- The exact result of an operation, as a value of a type. -/
def ArithmeticOp.exact? (op : ArithmeticOp) (type : ColumnType) (left right : Int) : Option Int :=
  match op with
  | .add => type.wrap? (left + right)
  | .subtract => type.wrap? (left - right)
  | .multiply => type.wrap? (left * right)
  | .divide => if right = 0 then none else some (left.tdiv right)

/-- The start of the segment that holds a timestamp, if it lies in the calendar. -/
def Scheme.start? (scheme : Scheme) (micros : Int) : Option Int :=
  if scheme = .unsplit then some micros
  else
    let day := micros / dayMicros
    if Calendar.holdsDay day then some ((scheme.firstDate (.ofDay day)).toDay * dayMicros) else none

/-! ### Words and values -/

namespace Word

/-- The number that a word of 32 bits stands for. -/
def int? (word : Int32) : Option Int :=
  if word = Null.int then none else some word.toInt

/-- The number that a word of 64 bits stands for. -/
def long? (word : Int64) : Option Int :=
  if word = Null.long then none else some word.toInt

/-- The number of a symbol code. -/
def code? (code : Int32) : Option Int :=
  if code = Null.code then none else some code.toInt

end Word

/-- The text of a code in a table. -/
def SymbolTable.text? (table : SymbolTable) (code : Int32) : Option String :=
  if code = Null.code then none else table.texts[code.toNatClampNeg]?

namespace Value

/-- The number that a value stands for. -/
def number? : Value → Option Int
  | .int word => Word.int? word
  | .long word => Word.long? word
  | .date micros => Word.long? micros
  | _ => none

/-- The symbol code that a value stands for. -/
def code? : Value → Option Int
  | .symbol code => Word.code? code
  | _ => none

/-- The text that a value holds, a symbol through its table. -/
def text? (symbols : Option SymbolTable) : Value → Option String
  | .string text => some text
  | .symbol code => symbols.bind fun table => table.text? code
  | _ => none

/-- The truth of a value as a condition. -/
def truth : Value → Bool
  | .boolean word => word
  | _ => false

end Value

/-- The cell at a position; where there is none, nothing is known. -/
def Row.value (row : Row) (position : Nat) : Value :=
  match row.cell position with
  | .ok value => value
  | .error _ => .null

/-! ### Comparisons -/

/-- Whether a comparison holds of two values. It never does where one of them is missing. -/
def ComparisonOp.relates {Word : Type} [DecidableEq Word] [LT Word] [DecidableLT Word]
    (op : ComparisonOp) : Option Word → Option Word → Bool
  | some left, some right =>
    match op with
    | .equal => left = right
    | .notEqual => left ≠ right
    | .less => left < right
    | .lessOrEqual => left < right ∨ left = right
    | .greater => right < left
    | .greaterOrEqual => right < left ∨ left = right
  | _, _ => false

/-! ### Expressions -/

namespace Expr

/-- The number that an expression stands for. -/
def number? (row : Row) : Expr → Option Int
  | .column _ source => (row.value source.position).number?
  | .constant _ value => value.number?
  | .unary _ .negate operand => (operand.number? row).map Int.neg
  | .unary _ (.floor scheme) operand => (operand.number? row).bind scheme.start?
  | .binary type (.arithmetic op) left right =>
    (left.number? row).bind fun leftNumber =>
      (right.number? row).bind fun rightNumber => op.exact? type leftNumber rightNumber
  | _ => none

/-- The symbol code that an expression stands for. -/
def code? (row : Row) : Expr → Option Int
  | .column _ source => (row.value source.position).code?
  | .constant _ value => value.code?
  | _ => none

/-- The text that an expression stands for. -/
def text? (row : Row) : Expr → Option String
  | .column _ source => (row.value source.position).text? source.symbols
  | .constant _ value => value.text? none
  | _ => none

/-- Whether an expression has no value. A condition always has one. -/
def isMissing (row : Row) (expression : Expr) : Bool :=
  match expression.type with
  | .int | .long | .date => (expression.number? row).isNone
  | .symbol => (expression.code? row).isNone
  | .string => (expression.text? row).isNone
  | .boolean | .double => false

/-- The truth of an expression as a condition. -/
def truth (row : Row) : Expr → Bool
  | .column _ source => (row.value source.position).truth
  | .constant _ value => value.truth
  | .unary _ .not operand => !operand.truth row
  | .unary _ .isNull operand => operand.isMissing row
  | .unary _ .isNotNull operand => !operand.isMissing row
  | .binary _ (.logical .and) left right => left.truth row && right.truth row
  | .binary _ (.logical .or) left right => left.truth row || right.truth row
  | .binary _ (.comparison op) left right =>
    match left.domain? right with
    | some .integer => op.relates (left.number? row) (right.number? row)
    | some .boolean => op.relates (some (left.truth row)) (some (right.truth row))
    | some .text => op.relates (left.text? row) (right.text? row)
    | some .code => op.relates (left.code? row) (right.code? row)
    | some .double | none => false
  | _ => false

end Expr

/-- What an expression can mean, doubles apart. -/
inductive Datum
  | truth (holds : Bool)
  | number (number : Int)
  | code (number : Int)
  | text (text : String)
deriving DecidableEq, Repr

/-- The meaning of an expression. -/
def Expr.meaning (row : Row) (expression : Expr) : Option Datum :=
  match expression.type with
  | .boolean => some (.truth (expression.truth row))
  | .int | .long | .date => (expression.number? row).map .number
  | .symbol => (expression.code? row).map .code
  | .string => (expression.text? row).map .text
  | .double => none

/-- The meaning of a value on its own. -/
def Value.meaning : Value → Option Datum
  | .boolean word => some (.truth word)
  | .int word => (Word.int? word).map .number
  | .long word => (Word.long? word).map .number
  | .date micros => (Word.long? micros).map .number
  | .symbol code => (Word.code? code).map .code
  | .string text => some (.text text)
  | .null | .double _ => none

end Columnar
