/-
This file holds expressions over the columns of a row. An expression is a tree whose every node
carries the type it is declared with. A node can be built with any declaration; building through
`Typing` infers the declaration instead, and its check tells which trees are declared rightly.
Two expressions are compared in a domain that depends on more than their types: a symbol counts as
text only where its code can be turned into text, by a table bound to its column or because it is
NULL; bare codes meet each other as codes, and never meet a string.
-/

import Columnar.Operation
import Columnar.SymbolTable
import Columnar.Value

namespace Columnar

/-- A reference to a column. -/
structure Column where
  /-- The position of the cell in a row, counted from zero. -/
  position : Nat
  /-- The name to show instead of the position. -/
  name : Option String
  /-- The table that turns the codes of a symbol column into text. -/
  symbols : Option SymbolTable
deriving DecidableEq

/-- An expression. -/
inductive Expr
  | column (type : ColumnType) (source : Column)
  | constant (type : ColumnType) (value : Value)
  | unary (type : ColumnType) (op : UnaryOp) (operand : Expr)
  | binary (type : ColumnType) (op : BinaryOp) (left right : Expr)
deriving DecidableEq

namespace Expr

/-- The type an expression is declared with. -/
def type : Expr → ColumnType
  | .column type _ => type
  | .constant type _ => type
  | .unary type _ _ => type
  | .binary type _ _ _ => type

/-! ### Leaves -/

/-- The column at a position. -/
def atPosition (position : Nat) (type : ColumnType) : Expr :=
  .column type ⟨position, none, none⟩

/-- The column at a position, shown by a name. -/
def named (position : Nat) (name : String) (type : ColumnType) : Expr :=
  .column type ⟨position, some name, none⟩

/-- The symbol column at a position, with a table for its codes. -/
def bound (position : Nat) (symbols : SymbolTable) : Expr :=
  .column .symbol ⟨position, none, some symbols⟩

/-- The NULL of a type. -/
def null (type : ColumnType) : Expr :=
  .constant type .null

/-- A boolean constant. -/
def ofBoolean (word : Bool) : Expr :=
  .constant .boolean (.boolean word)

/-- An integer constant of 32 bits; the reserved word gives NULL. -/
def ofInt (word : Int32) : Expr :=
  .constant .int (.ofInt word)

/-- An integer constant of 64 bits; the reserved word gives NULL. -/
def ofLong (word : Int64) : Expr :=
  .constant .long (.ofLong word)

/-- A double constant; a value that is no number gives NULL. -/
def ofDouble (word : Float) : Expr :=
  .constant .double (.ofDouble word)

/-- A timestamp constant; the reserved word gives NULL. -/
def ofDate (micros : Int64) : Expr :=
  .constant .date (.ofDate micros)

/-- A string constant. -/
def ofString (text : String) : Expr :=
  .constant .string (.string text)

/-- The question whether an expression is NULL, which every type allows. -/
def isNull (operand : Expr) : Expr :=
  .unary .boolean .isNull operand

/-- The question whether an expression has a value, which every type allows. -/
def isNotNull (operand : Expr) : Expr :=
  .unary .boolean .isNotNull operand

/-! ### Shape -/

/-- Whether an expression reads no column. -/
def isConstant : Expr → Bool
  | .column _ _ => false
  | .constant _ _ => true
  | .unary _ _ operand => operand.isConstant
  | .binary _ _ left right => left.isConstant && right.isConstant

/-- Whether an expression can be read as text: strings can, symbols where there is a table for
their code or no code at all. -/
def resolvesText (expression : Expr) : Bool :=
  expression.type == .string ||
    match expression with
    | .column _ source => source.symbols.isSome
    | .constant _ value => value.isNull
    | _ => false

/-- The domain in which two expressions are compared. -/
def domain? (left right : Expr) : Option Domain :=
  match Domain.ofTypes? left.type right.type with
  | some .text =>
    if left.resolvesText && right.resolvesText then some .text
    else if left.type == right.type then some .code
    else none
  | domain => domain

end Expr

end Columnar
