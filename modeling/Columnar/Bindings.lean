/-
This file holds the symbol tables that the columns of a query are bound to. Binding a column again
replaces its table; expressions built before keep the table they were built with. The table of the
partition schemes is always at hand and needs no binding.
-/

import Columnar.Expr.Typing

namespace Columnar

/-- The tables that columns are bound to, by position. -/
structure Bindings where
  /-- The table that the column at a position is bound to. -/
  table? : Nat → Option SymbolTable

namespace Bindings

/-- No column is bound. -/
def empty : Bindings where
  table? _ := none

/-- Bind the column at a position to a table. -/
def bind (bindings : Bindings) (position : Nat) (table : SymbolTable) : Bindings where
  table? other := if other = position then some table else bindings.table? other

theorem table?_bind_self (bindings : Bindings) (position : Nat) (table : SymbolTable) :
    (bindings.bind position table).table? position = some table := by
  unfold bind
  exact if_pos rfl

theorem table?_bind_other (bindings : Bindings) {position other : Nat} (table : SymbolTable)
    (differs : other ≠ position) :
    (bindings.bind position table).table? other = bindings.table? other := by
  unfold bind
  exact if_neg differs

/-- The symbol column at a position, with the table it is bound to. -/
def symbolColumn (bindings : Bindings) (position : Nat) : Except TypingError Expr :=
  match bindings.table? position with
  | some table => .ok (.bound position table)
  | none => .error (.missingTable position)

/-- The symbol column at a position whose codes are partition schemes. -/
def schemeColumn (position : Nat) : Expr :=
  .bound position .schemes

end Bindings

end Columnar
