/-
This file holds single values. A value is NULL or a tagged word; the tag fixes the type, NULL has
none and fits every type. A tagged word that is its type's reserved word is kept apart from NULL:
`Value.int Null.int` is not `Value.null`. The functions `ofInt` to `ofString` are the way from
words to values, and they never give such a word a tag.
-/

import Columnar.Null
import Columnar.Numeral.DoublePrinter
import Columnar.Text.Quoted

namespace Columnar

/-- A value with NULL made explicit. -/
inductive Value
  | null
  | boolean (word : Bool)
  | int (word : Int32)
  | long (word : Int64)
  | double (word : Float)
  | date (micros : Int64)
  | symbol (code : Int32)
  | string (text : String)
deriving DecidableEq

namespace Value

/-- The value of an integer word of 32 bits. -/
def ofInt (word : Int32) : Value :=
  if word = Null.int then .null else .int word

/-- The value of an integer word of 64 bits. -/
def ofLong (word : Int64) : Value :=
  if word = Null.long then .null else .long word

/-- The value of a double. -/
def ofDouble (word : Float) : Value :=
  if word.isNaN then .null else .double word

/-- The value of a timestamp. -/
def ofDate (micros : Int64) : Value :=
  if micros = Null.date then .null else .date micros

/-- The value of a symbol code. -/
def ofSymbol (code : Int32) : Value :=
  if code = Null.code then .null else .symbol code

/-- The value of a text that may be absent. -/
def ofString : Option String → Value
  | none => .null
  | some text => .string text

/-- The type of a value. -/
def type? : Value → Option ColumnType
  | .null => none
  | .boolean _ => some .boolean
  | .int _ => some .int
  | .long _ => some .long
  | .double _ => some .double
  | .date _ => some .date
  | .symbol _ => some .symbol
  | .string _ => some .string

/-- Whether a value is NULL. -/
def isNull : Value → Bool
  | .null => true
  | _ => false

/-- Whether a column of the type can hold the value. -/
def fits (value : Value) (type : ColumnType) : Bool :=
  value.isNull || value.type? == some type

theorem fits_iff {value : Value} {type : ColumnType} :
    value.fits type = true ↔ value = .null ∨ value.type? = some type := by
  cases value <;> simp [fits, isNull, type?]

/-- Whether two values compare as equal. Doubles compare as doubles: zeros are equal whatever
their sign, and a value that is no number differs from itself. -/
def equals : Value → Value → Bool
  | .null, .null => true
  | .boolean left, .boolean right => left == right
  | .int left, .int right => left == right
  | .long left, .long right => left == right
  | .double left, .double right => Float.beq left right
  | .date left, .date right => left == right
  | .symbol left, .symbol right => left == right
  | .string left, .string right => left == right
  | _, _ => false

/-! ### Texts -/

/-- Doubles from `0.0001` up to below `1e16` are plain decimals. -/
def doubleStyle : Numeral.DoubleStyle where
  plainFrom := -4
  plainTo := 15
  exponentMark := 'e'
  infinity := "inf"
  notNumber := "NaN"

/-- The value on its own, as a result is shown. -/
def render : Value → String
  | .null => "NULL"
  | .boolean word => toString word
  | .int word => toString word.toInt
  | .long word => toString word.toInt
  | .double word => doubleStyle.render word
  | .date micros => toString micros.toInt
  | .symbol code => "#" ++ toString code.toInt
  | .string text => text

/-- The value with its tag, as it stands in a report. -/
def tagged : Value → String
  | .null => "Null"
  | .boolean word => "Bool(" ++ toString word ++ ")"
  | .int word => "Int32(" ++ toString word.toInt ++ ")"
  | .long word => "Int64(" ++ toString word.toInt ++ ")"
  | .double word => "Float64(" ++ doubleStyle.render word ++ ")"
  | .date micros => "Date(" ++ toString micros.toInt ++ ")"
  | .symbol code => "Symbol(" ++ toString code.toInt ++ ")"
  | .string text => "String(" ++ Quoted.quote text ++ ")"

end Value

end Columnar
