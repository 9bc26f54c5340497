/-
This file writes expressions. Operations on two operands stand between them in parentheses, the
questions about NULL stand after their operand, and all others before it. A constant is written so
that its type can be told: long integers end in `L`, timestamps and symbol codes are marked, and
strings stand between single quotes, as they are.
-/

import Columnar.Expr

namespace Columnar

namespace Column

/-- The name of a column, or its position after a dollar sign. -/
def render (source : Column) : String :=
  match source.name with
  | some name => name
  | none => "$" ++ toString source.position

/-- All that is known of a column; of its table, the size. -/
def describe (source : Column) : String :=
  let name := match source.name with
    | some name => "Some(" ++ Quoted.quote name ++ ")"
    | none => "None"
  let symbols := match source.symbols with
    | some table => "Some(" ++ toString table.size ++ ")"
    | none => "None"
  "ColumnRef \x7b position: " ++ toString source.position ++ ", name: " ++ name ++
    ", symbols: " ++ symbols ++ " \x7d"

end Column

/-- A value as a constant of an expression. -/
def Value.literal : Value → String
  | .null => "NULL"
  | .string text => "'" ++ text ++ "'"
  | .boolean word => toString word
  | .int word => toString word.toInt
  | .long word => toString word.toInt ++ "L"
  | .double word => doubleStyle.render word
  | .date micros => "DATE " ++ toString micros.toInt
  | .symbol code => "#" ++ toString code.toInt

/-- The text of an expression. -/
def Expr.render : Expr → String
  | .column _ source => source.render
  | .constant _ value => value.literal
  | .unary _ .isNull operand => "(" ++ operand.render ++ " " ++ UnaryOp.isNull.render ++ ")"
  | .unary _ .isNotNull operand => "(" ++ operand.render ++ " " ++ UnaryOp.isNotNull.render ++ ")"
  | .unary _ op operand => op.render ++ "(" ++ operand.render ++ ")"
  | .binary _ op left right => "(" ++ left.render ++ " " ++ op.symbol ++ " " ++ right.render ++ ")"

end Columnar
