/-
This file infers and checks the types of expressions. Inference builds a node with the type its
operation gives, and refuses operands that the operation is not defined on. The check goes through
a finished tree from its leaves up and compares every declaration with the type that its node
computes; the first node that disagrees, operands before the node and the left one first, is the
one reported. Columns are taken at their word, unless the types of a row's cells are given.
-/

import Columnar.Expr.Printer

namespace Columnar

/-- The types of the cells of a row, by position. -/
abbrev Schema := List ColumnType

/-- Why an expression cannot be built or is not declared rightly. -/
inductive TypingError
  /-- The node computes another type than it declares. -/
  | misdeclared (node : Expr) (computed : ColumnType)
  /-- A filter is not a condition. -/
  | notCondition (actual : ColumnType)
  /-- The operation is not defined on an operand of this type. -/
  | invalidOperand (op : UnaryOp) (operand : ColumnType)
  /-- The operation is not defined on operands like these. -/
  | invalidOperands (op : BinaryOp) (left right : ColumnType)
  /-- A constant of the type cannot hold the value. -/
  | unfitConstant (value : Value) (declared : ColumnType)
  /-- The schema has no column at the position. -/
  | missingColumn (position size : Nat)
  /-- No table is known for the symbol column at the position. -/
  | missingTable (position : Nat)
deriving DecidableEq

namespace TypingError

/-- The report that a place calls for one type and has another. -/
def mismatch (place : String) (expected actual : ColumnType) : String :=
  "Type mismatch in " ++ place ++ ": expected " ++ expected.name ++ ", got " ++ actual.name

/-- The report that an operation is not defined on its operands. -/
def undefinedOn (symbol : String) (left : ColumnType) (right : Option ColumnType) : String :=
  "Invalid operand types for operator " ++ symbol ++ ": left=" ++ left.name ++ ", right=" ++
    ColumnType.tag? right

/-- The report of a typing error. -/
def message : TypingError → String
  | .misdeclared node computed => mismatch ("declaration of " ++ node.render) computed node.type
  | .notCondition actual => mismatch "filter predicate" .boolean actual
  | .invalidOperand op operand => undefinedOn op.symbol operand none
  | .invalidOperands op left right => undefinedOn op.symbol left (some right)
  | .unfitConstant value declared =>
    "Constant " ++ value.tagged ++ " cannot be declared as " ++ declared.name
  | .missingColumn position size =>
    "Column index " ++ toString position ++ " out of bounds for schema with " ++ toString size ++
      " columns"
  | .missingTable position => "No symbol table bound to column " ++ toString position

end TypingError

namespace Expr

/-! ### Inference -/

/-- The type of an operation on two expressions of the given types. Expressions that share no
domain cannot be compared, even where their types could be. -/
def resultType? (op : BinaryOp) (left right : Expr) (leftType rightType : ColumnType) :
    Option ColumnType :=
  if op.isComparison && (left.domain? right).isNone then none
  else op.outputType? leftType rightType

/-- Build a constant, if it can hold the value. -/
def inferConstant (type : ColumnType) (value : Value) : Except TypingError Expr :=
  if value.fits type then .ok (.constant type value) else .error (.unfitConstant value type)

/-- Build an operation on one operand, with the type that it has. -/
def inferUnary (op : UnaryOp) (operand : Expr) : Except TypingError Expr :=
  match op.outputType? operand.type with
  | some type => .ok (.unary type op operand)
  | none => .error (.invalidOperand op operand.type)

/-- Build an operation on two operands, with the type that it has. -/
def inferBinary (op : BinaryOp) (left right : Expr) : Except TypingError Expr :=
  match resultType? op left right left.type right.type with
  | some type => .ok (.binary type op left right)
  | none => .error (.invalidOperands op left.type right.type)

/-! ### The check -/

/-- Compare the declaration of a node with the type that it computes. -/
def expectType (node : Expr) (computed : ColumnType) : Except TypingError ColumnType :=
  if computed = node.type then .ok node.type else .error (.misdeclared node computed)

/-- The type of an expression, if all of it is declared rightly. -/
def check (schema : Option Schema) (expression : Expr) : Except TypingError ColumnType :=
  match expression with
  | .column type source =>
    match schema with
    | none => expression.expectType type
    | some types =>
      match types[source.position]? with
      | some computed => expression.expectType computed
      | none => .error (.missingColumn source.position types.length)
  | .constant type value =>
    if value.fits type then expression.expectType type else .error (.unfitConstant value type)
  | .unary _ op operand => do
    let operandType ← operand.check schema
    match op.outputType? operandType with
    | some computed => expression.expectType computed
    | none => throw (.invalidOperand op operandType)
  | .binary _ op left right => do
    let leftType ← left.check schema
    let rightType ← right.check schema
    match resultType? op left right leftType rightType with
    | some computed => expression.expectType computed
    | none => throw (.invalidOperands op leftType rightType)

/-- Check that an expression is declared rightly and is a condition. -/
def checkFilter (schema : Option Schema) (expression : Expr) : Except TypingError Unit := do
  match ← expression.check schema with
  | .boolean => return ()
  | actual => throw (.notCondition actual)

end Expr

end Columnar
