/-
This file reads values written as literals. Blanks around a literal are dropped. The word for
NULL, in any case of its letters, is a literal of every type; beyond it each type has a grammar of
its own, and a string is any text at all. A number that happens to be its type's reserved word
reads as NULL. Symbol codes are read as integers of 32 bits and must not be negative.
-/

import Columnar.Text.Blank
import Columnar.Numeral.DoubleReader
import Columnar.Value

namespace Columnar

/-- Why a text is not a literal of a type. The texts are without the blanks around them. -/
inductive LiteralError
  | boolean (text : String)
  | integer (type : ColumnType) (text : String) (cause : Numeral.IntegerError)
  | double (text : String) (cause : Numeral.DoubleError)
  | negativeCode (code : Int32)
deriving DecidableEq, Repr

namespace LiteralError

/-- What a report calls a literal of a type. -/
def noun : ColumnType → String
  | .boolean => "boolean literal"
  | .int => "int literal"
  | .long => "long literal"
  | .double => "double literal"
  | .date => "date literal"
  | .symbol => "symbol code"
  | .string => "string literal"

/-- The head of a report: what was to be read, and from what. -/
def invalid (type : ColumnType) (text : String) : String :=
  "Invalid " ++ noun type ++ ": " ++ text

/-- The report, followed by its cause where a number is at fault. -/
def chain : LiteralError → List String
  | .boolean text => [invalid .boolean text]
  | .integer type text cause => [invalid type text, cause.message]
  | .double text cause => [invalid .double text, cause.message]
  | .negativeCode code => [invalid .symbol (toString code.toInt)]

end LiteralError

namespace Value

/-- Read a boolean: one of two words, in any case of their letters. -/
def readBoolean (text : String) : Except LiteralError Value :=
  if Ascii.sameName text "true" then .ok (.boolean true)
  else if Ascii.sameName text "false" then .ok (.boolean false)
  else .error (.boolean text)

/-- Read an integer of 32 bits. -/
def readInt (text : String) : Except LiteralError Value :=
  match Numeral.readInt32 text.toList with
  | .ok word => .ok (.ofInt word)
  | .error cause => .error (.integer .int text cause)

/-- Read an integer of 64 bits. -/
def readLong (text : String) : Except LiteralError Value :=
  match Numeral.readInt64 text.toList with
  | .ok word => .ok (.ofLong word)
  | .error cause => .error (.integer .long text cause)

/-- Read a double. -/
def readDouble (text : String) : Except LiteralError Value :=
  match Numeral.readDouble text.toList with
  | .ok word => .ok (.ofDouble word)
  | .error cause => .error (.double text cause)

/-- Read a timestamp, written as its microseconds. -/
def readDate (text : String) : Except LiteralError Value :=
  match Numeral.readInt64 text.toList with
  | .ok micros => .ok (.ofDate micros)
  | .error cause => .error (.integer .date text cause)

/-- Read a symbol code. -/
def readSymbol (text : String) : Except LiteralError Value :=
  match Numeral.readInt32 text.toList with
  | .ok code => if code < 0 then .error (.negativeCode code) else .ok (.symbol code)
  | .error cause => .error (.integer .symbol text cause)

/-- Read a literal that has no blanks around it and is not the word for NULL. -/
def readTyped : ColumnType → String → Except LiteralError Value
  | .boolean, text => readBoolean text
  | .int, text => readInt text
  | .long, text => readLong text
  | .double, text => readDouble text
  | .date, text => readDate text
  | .symbol, text => readSymbol text
  | .string, text => .ok (.string text)

/-- Read a literal of a type. -/
def read (type : ColumnType) (text : String) : Except LiteralError Value :=
  let text := Blank.trim text
  if Ascii.sameName text "null" then .ok .null else readTyped type text

end Value

end Columnar
