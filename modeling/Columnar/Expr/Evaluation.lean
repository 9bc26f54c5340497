/-
This file evaluates expressions against a row. An expression is read through a view, and the
answer is a word of that view in which NULL is the reserved one. Each type offers its own view and
those it widens to:

  INT       int, long, double
  LONG      long, date, double
  DATE      date, long, double
  DOUBLE    double
  BOOLEAN   boolean
  SYMBOL    code, and text where there is a table
  STRING    text

Any other view is a fault. The views build on each other in one direction: integers of 32 bits
need no other view, those of 64 bits need them, doubles need both, and conditions need all. So
every view is a recursion on the expression alone. The double view of an integer operation reads
the operands again, as `Word.intsToDouble` and `Word.longsToDouble` say.
-/

import Columnar.Expr.Printer
import Columnar.Row
import Columnar.Word

namespace Columnar.Expr

/-- The fault of reading an expression through a view that it does not offer. -/
def unsupported (expression : Expr) (view : View) : Fault :=
  .unsupportedView view expression.type expression.render

/-! ### Views -/

/-- Read an expression as an integer of 32 bits. -/
def readInt (row : Row) (expression : Expr) : Except Fault Int32 :=
  if expression.type = .int then
    match expression with
    | .column _ source => row.readInt source.position
    | .constant _ (.int word) => .ok word
    | .constant _ .null => .ok Null.int
    | .unary _ .negate operand => do return Word.negateInt (← operand.readInt row)
    | .binary _ op left right => do
      let leftWord ← left.readInt row
      let rightWord ← right.readInt row
      if leftWord = Null.int ∨ rightWord = Null.int then return Null.int
      else match op with
        | .arithmetic op => return op.onInts leftWord rightWord
        | _ => throw (expression.unsupported .int)
    | _ => .error (expression.unsupported .int)
  else .error (expression.unsupported .int)

/-- Read an expression as an integer of 64 bits. -/
def readLong (row : Row) (expression : Expr) : Except Fault Int64 :=
  if expression.type = .int then do return Word.widen (← expression.readInt row)
  else if expression.type.isLongWord then
    match expression with
    | .column .date source => row.readDate source.position
    | .column _ source => row.readLong source.position
    | .constant _ (.long word) => .ok word
    | .constant _ (.date micros) => .ok micros
    | .constant _ .null => .ok Null.long
    | .unary _ .negate operand => do return Word.negateLong (← operand.readLong row)
    | .unary _ (.floor scheme) operand =>
      if operand.type.isLongWord then do return scheme.floor (← operand.readLong row)
      else .error (operand.unsupported .date)
    | .binary _ op left right => do
      let leftWord ← left.readLong row
      let rightWord ← right.readLong row
      if leftWord = Null.long ∨ rightWord = Null.long then return Null.long
      else match op with
        | .arithmetic op => return op.onLongs leftWord rightWord
        | _ => throw (expression.unsupported .long)
    | _ => .error (expression.unsupported .long)
  else .error (expression.unsupported .long)

/-- Read an expression as a timestamp. -/
def readDate (row : Row) (expression : Expr) : Except Fault Int64 :=
  if expression.type.isLongWord then expression.readLong row
  else .error (expression.unsupported .date)

/-- Read an expression as a double. -/
def readDouble (row : Row) (expression : Expr) : Except Fault Float :=
  if expression.type = .double then
    match expression with
    | .column _ source => row.readDouble source.position
    | .constant _ (.double word) => .ok word
    | .constant _ .null => .ok Null.double
    | .unary _ .negate operand => do return -(← operand.readDouble row)
    | .binary _ op left right => do
      let leftWord ← left.readDouble row
      let rightWord ← right.readDouble row
      match op with
      | .arithmetic op => return op.onDoubles leftWord rightWord
      | _ => throw (expression.unsupported .double)
    | _ => .error (expression.unsupported .double)
  else if expression.type.isLongWord then
    match expression with
    | .binary _ op left right => do
      let leftWord ← left.readLong row
      let rightWord ← right.readLong row
      if leftWord = Null.long ∨ rightWord = Null.long then return Null.double
      else match op with
        | .arithmetic op => return Word.longsToDouble op leftWord rightWord
        | _ => throw (expression.unsupported .double)
    | _ => do return Word.longToDouble (← expression.readLong row)
  else if expression.type = .int then
    match expression with
    | .binary _ op left right => do
      let leftWord ← left.readInt row
      let rightWord ← right.readInt row
      if leftWord = Null.int ∨ rightWord = Null.int then return Null.double
      else match op with
        | .arithmetic op => return Word.intsToDouble op leftWord rightWord
        | _ => throw (expression.unsupported .double)
    | _ => do return Word.intToDouble (← expression.readInt row)
  else .error (expression.unsupported .double)

/-- Read an expression as a symbol code. -/
def readCode (row : Row) (expression : Expr) : Except Fault Int32 :=
  match expression with
  | .column .symbol source => row.readCode source.position
  | .constant .symbol (.symbol code) => .ok code
  | .constant .symbol .null => .ok Null.code
  | _ => .error (expression.unsupported .code)

/-- Read an expression as text; a symbol column looks its code up in its table. -/
def readText (row : Row) (expression : Expr) : Except Fault (Option String) :=
  match expression with
  | .column .string source => row.readText source.position
  | .constant .string (.string text) => .ok (some text)
  | .constant .string .null => .ok none
  | .constant .symbol .null => .ok none
  | .column .symbol source => do
    let code ← row.readCode source.position
    match source.symbols with
    | some table => table.text code
    | none => throw (.unboundColumn source.position)
  | _ => .error (expression.unsupported .text)

/-- Whether an expression is NULL in the view of its own type. Booleans never are. -/
def readNull (row : Row) (expression : Expr) : Except Fault Bool :=
  match expression.type with
  | .boolean => .ok false
  | .int => do return (← expression.readInt row) == Null.int
  | .long => do return (← expression.readLong row) == Null.long
  | .date => do return (← expression.readDate row) == Null.date
  | .double => do return (← expression.readDouble row).isNaN
  | .symbol => do return (← expression.readCode row) == Null.code
  | .string => do return (← expression.readText row).isNone

/-- Read an expression as a condition. The right operand of AND and OR is read only if the left
one leaves the answer open. -/
def readBoolean (row : Row) (expression : Expr) : Except Fault Bool :=
  if expression.type = .boolean then
    match expression with
    | .column _ source => row.readBoolean source.position
    | .constant _ (.boolean word) => .ok word
    | .constant _ .null => .ok Null.boolean
    | .unary _ .not operand => do return !(← operand.readBoolean row)
    | .unary _ .isNull operand => operand.readNull row
    | .unary _ .isNotNull operand => do return !(← operand.readNull row)
    | .binary _ (.logical .and) left right => do
      if ← left.readBoolean row then right.readBoolean row else return false
    | .binary _ (.logical .or) left right => do
      if ← left.readBoolean row then return true else right.readBoolean row
    | .binary _ (.comparison op) left right =>
      match left.domain? right with
      | some .integer => do
        return op.holds (Word.compareLongs (← left.readLong row) (← right.readLong row))
      | some .double => do
        return op.holds (Word.compareDoubles (← left.readDouble row) (← right.readDouble row))
      | some .boolean => do
        return op.accepts (compare (← left.readBoolean row) (← right.readBoolean row))
      | some .text => do
        return op.holds (Word.compareTexts (← left.readText row) (← right.readText row))
      | some .code => do
        return op.holds (Word.compareCodes (← left.readCode row) (← right.readCode row))
      | none => .error (.incomparable left.type right.type)
    | _ => .error (expression.unsupported .boolean)
  else .error (expression.unsupported .boolean)

/-- The value of an expression, read through the view of its own type. -/
def evaluate (row : Row) (expression : Expr) : Except Fault Value :=
  match expression.type with
  | .boolean => do return .boolean (← expression.readBoolean row)
  | .int => do return .ofInt (← expression.readInt row)
  | .long => do return .ofLong (← expression.readLong row)
  | .double => do return .ofDouble (← expression.readDouble row)
  | .date => do return .ofDate (← expression.readDate row)
  | .symbol => do return .ofSymbol (← expression.readCode row)
  | .string => do return .ofString (← expression.readText row)

end Columnar.Expr
