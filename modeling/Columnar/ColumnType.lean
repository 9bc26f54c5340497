/-
This file holds the types that a column can have: their names, which of them are numbers, and how
two numeric types widen to one. Names are found whatever the case of their letters.
-/

import Columnar.Text.Ascii

namespace Columnar

/-- The type of a column, and of every expression. -/
inductive ColumnType
  | boolean
  | int
  | long
  | double
  /-- Microseconds since the start of 1970, in universal time. -/
  | date
  /-- A code that a symbol table turns into text. -/
  | symbol
  | string
deriving DecidableEq, Repr

namespace ColumnType

/-- Every type, in the order in which they are listed. -/
def all : List ColumnType :=
  [.boolean, .int, .long, .double, .date, .symbol, .string]

/-- The name of a type in plans and on the command line. -/
def name : ColumnType → String
  | .boolean => "BOOLEAN"
  | .int => "INT"
  | .long => "LONG"
  | .double => "DOUBLE"
  | .date => "DATE"
  | .symbol => "SYMBOL"
  | .string => "STRING"

/-- The tag that marks values of a type when they are written out in full. -/
def tag : ColumnType → String
  | .boolean => "Bool"
  | .int => "Int32"
  | .long => "Int64"
  | .double => "Float64"
  | .date => "Date"
  | .symbol => "Symbol"
  | .string => "String"

/-- The tag of a type that may be missing. -/
def tag? : Option ColumnType → String
  | none => "None"
  | some type => "Some(" ++ type.tag ++ ")"

/-- The type with a name, whatever the case of its letters. -/
def ofName? (text : String) : Option ColumnType :=
  all.find? fun type => Ascii.sameName type.name text

/-- Arithmetic is defined on the numeric types. -/
def isNumeric : ColumnType → Bool
  | .int | .long | .double => true
  | _ => false

/-- The numeric types without a fraction. -/
def isInteger : ColumnType → Bool
  | .int | .long => true
  | _ => false

/-- The types whose words are integers of 64 bits. -/
def isLongWord : ColumnType → Bool
  | .long | .date => true
  | _ => false

/-- The wider of two numeric types. -/
def wider? : ColumnType → ColumnType → Option ColumnType
  | .int, .int => some .int
  | .int, .long | .long, .int | .long, .long => some .long
  | .int, .double | .long, .double => some .double
  | .double, .int | .double, .long | .double, .double => some .double
  | _, _ => none

end ColumnType

/-- A name that no column type has. -/
structure UnknownType where
  name : String
deriving DecidableEq, Repr

/-- The report of an unknown type. -/
def UnknownType.message (unknown : UnknownType) : String :=
  "Unknown physical type: " ++ unknown.name

/-- The type with a name, or the report that there is none. -/
def ColumnType.ofName (text : String) : Except UnknownType ColumnType :=
  match ofName? text with
  | some type => .ok type
  | none => .error ⟨text⟩

end Columnar
