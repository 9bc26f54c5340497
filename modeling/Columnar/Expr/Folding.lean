/-
This file replaces constant parts of an expression by their values. Operands are folded first, the
left one before the right; a node that then reads no column is evaluated against the row without
cells, and the constant that takes its place keeps its declared type. Leaves stay as they are.
Evaluation can raise a fault in an expression that is not declared rightly, and so can folding.
-/

import Columnar.Expr.Evaluation

namespace Columnar.Expr

/-- A node over folded operands, or its value if it reads no column. -/
def collapse (node : Expr) : Except Fault Expr :=
  if node.isConstant then do return .constant node.type (← node.evaluate .empty)
  else .ok node

/-- The expression with every constant part replaced by its value. -/
def fold : Expr → Except Fault Expr
  | .column type source => .ok (.column type source)
  | .constant type value => .ok (.constant type value)
  | .unary type op operand => do
    let operand ← operand.fold
    collapse (.unary type op operand)
  | .binary type op left right => do
    let left ← left.fold
    let right ← right.fold
    collapse (.binary type op left right)

end Columnar.Expr
