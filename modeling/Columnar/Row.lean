/-
This file holds rows and the reading of their cells by position. A cell is read through the view
of its own type, and the answer is a plain word in which NULL is the reserved word of the view's
type. Timestamps and long integers have the same words, so each can be read through the view of the
other; every other view of a cell is a fault. The row without cells stands for no row at all: it is
what constants are evaluated against, and reading any column of it is a fault of its own.
-/

import Columnar.Fault
import Columnar.Value

namespace Columnar

/-- One row of data. -/
inductive Row
  | cells (values : List Value)
  | empty

namespace Row

/-- The count of cells. -/
def size : Row → Nat
  | .cells values => values.length
  | .empty => 0

/-- The cell at a position. -/
def cell : Row → Nat → Except Fault Value
  | .cells values, position =>
    match values[position]? with
    | some value => .ok value
    | none => .error (.missingCell position values.length)
  | .empty, position => .error (.emptyRow position)

/-- Read a boolean cell. -/
def readBoolean (row : Row) (position : Nat) : Except Fault Bool := do
  match ← row.cell position with
  | .null => return Null.boolean
  | .boolean word => return word
  | other => throw (.mismatchedCell .boolean position other.type?)

/-- Read an integer cell of 32 bits. -/
def readInt (row : Row) (position : Nat) : Except Fault Int32 := do
  match ← row.cell position with
  | .null => return Null.int
  | .int word => return word
  | other => throw (.mismatchedCell .int position other.type?)

/-- Read an integer cell of 64 bits, or the microseconds of a timestamp. -/
def readLong (row : Row) (position : Nat) : Except Fault Int64 := do
  match ← row.cell position with
  | .null => return Null.long
  | .long word => return word
  | .date micros => return micros
  | other => throw (.mismatchedCell .long position other.type?)

/-- Read a double cell. -/
def readDouble (row : Row) (position : Nat) : Except Fault Float := do
  match ← row.cell position with
  | .null => return Null.double
  | .double word => return word
  | other => throw (.mismatchedCell .double position other.type?)

/-- Read a timestamp, or an integer cell of 64 bits as microseconds. -/
def readDate (row : Row) (position : Nat) : Except Fault Int64 := do
  match ← row.cell position with
  | .null => return Null.date
  | .date micros => return micros
  | .long word => return word
  | other => throw (.mismatchedCell .date position other.type?)

/-- Read the code of a symbol cell. -/
def readCode (row : Row) (position : Nat) : Except Fault Int32 := do
  match ← row.cell position with
  | .null => return Null.code
  | .symbol code => return code
  | other => throw (.mismatchedCell .code position other.type?)

/-- Read a text cell; NULL has no text. -/
def readText (row : Row) (position : Nat) : Except Fault (Option String) := do
  match ← row.cell position with
  | .null => return none
  | .string text => return some text
  | other => throw (.mismatchedCell .text position other.type?)

end Row

end Columnar
