/-
This file holds the ways in which reading a row can be misused. A fault is never a fact about the
data: it says that a reader was applied to a cell, code or expression that it is not made for, and
an expression that passes the type check raises none on a row that fits its columns.
-/

import Columnar.ColumnType

namespace Columnar

/-- The ways to read a cell of a row or an expression. -/
inductive View
  | boolean
  | int
  | long
  | double
  | date
  | code
  | text
deriving DecidableEq, Repr

namespace View

/-- The name of a view in reports. -/
def name : View → String
  | .boolean => "get_bool"
  | .int => "get_int32"
  | .long => "get_int64"
  | .double => "get_float64"
  | .date => "get_date"
  | .code => "get_symbol_code"
  | .text => "get_str"

end View

/-- A misuse of a reader. -/
inductive Fault
  /-- A row has no cell at the position. -/
  | missingCell (position size : Nat)
  /-- Constants are evaluated without a row, and a column was read all the same. -/
  | emptyRow (position : Nat)
  /-- The cell at the position holds a value of another type. -/
  | mismatchedCell (view : View) (position : Nat) (held : Option ColumnType)
  /-- The view is not one that an expression of the type offers; the expression is shown as it
  is written. -/
  | unsupportedView (view : View) (type : ColumnType) (expression : String)
  /-- The symbol column has no table to turn its codes into text. -/
  | unboundColumn (position : Nat)
  /-- Values of the two types cannot be compared. -/
  | incomparable (left right : ColumnType)
  /-- The symbol table has no such code. -/
  | unknownCode (code : Int32) (size : Nat)
deriving DecidableEq, Repr

/-- The report of a fault. -/
def Fault.message : Fault → String
  | .missingCell position size =>
    "Column index " ++ toString position ++ " out of bounds for record with " ++ toString size ++
      " columns"
  | .emptyRow position => "Column " ++ toString position ++ " read from an empty record"
  | .mismatchedCell view position held =>
    view.name ++ " called on column " ++ toString position ++ " holding " ++ ColumnType.tag? held
  | .unsupportedView view type expression =>
    view.name ++ " is not supported by " ++ type.name ++ " operator " ++ expression
  | .unboundColumn position => "No symbol table bound to column " ++ toString position
  | .incomparable left right => "cannot compare " ++ left.name ++ " with " ++ right.name
  | .unknownCode code size =>
    "Symbol code " ++ toString code.toInt ++ " out of range for table of size " ++ toString size

end Columnar
