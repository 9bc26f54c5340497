/-
This file says which rows an expression can be read against, and what its leaves read as there. A
row conforms to an expression if each column finds a cell that is NULL or of the column's type, and
if the codes in the cells of a column with a table are codes of that table or NULL. Nothing is asked
of cells that no column reads. Every view of a leaf then gives the word of the value that the leaf
holds, and a column reads like a constant with the value of its cell.
-/

import Columnar.Proofs.Views

namespace Columnar

namespace SymbolTable

/-- The codes that a table can be asked for: NULL, and those from zero up to below its size. -/
def Holds (table : SymbolTable) (code : Int32) : Prop :=
  code = Null.code ∨ 0 ≤ code.toInt ∧ code.toInt < table.size

/-- A code that is not NULL is the position of a text. -/
theorem inside_of_holds {table : SymbolTable} {code : Int32} (holds : table.Holds code)
    (known : code ≠ Null.code) : code.toNatClampNeg < table.texts.length := by
  obtain ⟨lower, upper⟩ := holds.resolve_left known
  have size : (table.texts.length : Int) = table.size := rfl
  have clamped : code.toNatClampNeg = code.toInt.toNat := rfl
  omega

/-- A table answers every code that it can be asked for. -/
theorem text_of_holds {table : SymbolTable} {code : Int32} (holds : table.Holds code) :
    table.text code = .ok (table.text? code) := by
  unfold text text?
  split
  · rfl
  · next known =>
    have notNegative : ¬ code < 0 := by
      rw [Int32.lt_iff_toInt_lt, Int32.toInt_zero]
      exact Int.not_lt.mpr (holds.resolve_left known).1
    rw [if_neg notNegative, List.getElem?_eq_getElem (inside_of_holds holds known)]

end SymbolTable

/-! ### Rows that conform -/

/-- The row has a cell for a column: NULL or of its type, and with a code of its table. -/
def Row.Fits (row : Row) (type : ColumnType) (source : Column) : Prop :=
  ∃ value, row.cell source.position = .ok value ∧ value.fits type = true ∧
    ∀ table code, source.symbols = some table → value = .symbol code → table.Holds code

theorem Row.value_of_cell {row : Row} {position : Nat} {value : Value}
    (held : row.cell position = .ok value) : row.value position = value := by
  unfold Row.value
  rw [held]

namespace Expr

/-- The row has a fitting cell for every column of the expression. -/
def Conforms (row : Row) (expression : Expr) : Prop :=
  ∀ leaf ∈ expression.columns, row.Fits leaf.1 leaf.2

theorem conforms_column {row : Row} {type : ColumnType} {source : Column} :
    (Expr.column type source).Conforms row ↔ row.Fits type source := by
  simp only [Conforms, columns, List.forall_mem_singleton]

theorem conforms_binary {row : Row} {type : ColumnType} {op : BinaryOp} {left right : Expr} :
    (Expr.binary type op left right).Conforms row ↔ left.Conforms row ∧ right.Conforms row := by
  simp only [Conforms, columns, List.forall_mem_append]

/-- No column of the expression holds the codes of symbols. -/
def ReadsNoCodes (expression : Expr) : Prop :=
  ∀ leaf ∈ expression.columns, leaf.1 ≠ .symbol

theorem readsNoCodes_binary {type : ColumnType} {op : BinaryOp} {left right : Expr} :
    (Expr.binary type op left right).ReadsNoCodes ↔ left.ReadsNoCodes ∧ right.ReadsNoCodes := by
  simp only [ReadsNoCodes, columns, List.forall_mem_append]

/-- Where no codes are read, a row conforms as soon as its cells have the types of the columns. -/
theorem conforms_of_cells {row : Row} {expression : Expr} (noCodes : expression.ReadsNoCodes)
    (cells : ∀ leaf ∈ expression.columns, ∃ value, row.cell leaf.2.position = .ok value ∧
      value.fits leaf.1 = true) : expression.Conforms row := by
  intro leaf member
  obtain ⟨value, held, fits⟩ := cells leaf member
  refine ⟨value, held, fits, ?_⟩
  rintro table code - rfl
  have isSymbol : some .symbol = some leaf.1 := (Value.fits_iff.mp fits).resolve_left nofun
  exact absurd (Option.some.inj isSymbol).symm (noCodes leaf member)

/-- Every row conforms to an expression that reads no column. -/
theorem conforms_of_isConstant {expression : Expr} (constant : expression.isConstant = true)
    (row : Row) : expression.Conforms row := by
  intro leaf member
  rw [columns_of_isConstant constant] at member
  cases member

end Expr

/-! ### The words of a value -/

namespace Value

/-- The word of a value among the booleans. -/
def booleanWord : Value → Bool
  | .boolean word => word
  | _ => Null.boolean

/-- The word of a value among the integers of 32 bits. -/
def intWord : Value → Int32
  | .int word => word
  | _ => Null.int

/-- The word of a value among the integers of 64 bits and the timestamps. -/
def longWord : Value → Int64
  | .long word => word
  | .date micros => micros
  | _ => Null.long

/-- The word of a value among the doubles. -/
def doubleWord : Value → Float
  | .double word => word
  | _ => Null.double

/-- The word of a value among the symbol codes. -/
def codeWord : Value → Int32
  | .symbol code => code
  | _ => Null.code

variable {value : Value} {type : ColumnType}

/-! What fits a type is NULL or tagged with the type. -/

theorem eq_of_fits_boolean (fits : value.fits .boolean = true) :
    value = .null ∨ ∃ word, value = .boolean word := by
  cases value <;> simp_all [Value.fits, isNull, type?]

theorem eq_of_fits_int (fits : value.fits .int = true) :
    value = .null ∨ ∃ word, value = .int word := by
  cases value <;> simp_all [Value.fits, isNull, type?]

theorem eq_of_fits_double (fits : value.fits .double = true) :
    value = .null ∨ ∃ word, value = .double word := by
  cases value <;> simp_all [Value.fits, isNull, type?]

theorem eq_of_fits_symbol (fits : value.fits .symbol = true) :
    value = .null ∨ ∃ code, value = .symbol code := by
  cases value <;> simp_all [Value.fits, isNull, type?]

theorem eq_of_fits_string (fits : value.fits .string = true) :
    value = .null ∨ ∃ text, value = .string text := by
  cases value <;> simp_all [Value.fits, isNull, type?]

theorem eq_of_fits_isLongWord (long : type.isLongWord = true) (fits : value.fits type = true) :
    value = .null ∨ (∃ word, value = .long word) ∨ ∃ micros, value = .date micros := by
  cases type <;> cases long <;> cases value <;> simp_all [Value.fits, isNull, type?]

theorem int?_intWord (fits : value.fits .int = true) :
    Word.int? value.intWord = value.number? := by
  rcases eq_of_fits_int fits with rfl | ⟨word, rfl⟩ <;> rfl

theorem long?_longWord (long : type.isLongWord = true) (fits : value.fits type = true) :
    Word.long? value.longWord = value.number? := by
  rcases eq_of_fits_isLongWord long fits with rfl | ⟨word, rfl⟩ | ⟨micros, rfl⟩ <;> rfl

theorem code?_codeWord (fits : value.fits .symbol = true) :
    Word.code? value.codeWord = value.code? := by
  rcases eq_of_fits_symbol fits with rfl | ⟨code, rfl⟩ <;> rfl

theorem booleanWord_eq_truth (value : Value) : value.booleanWord = value.truth := by
  cases value <;> rfl

end Value

/-! ### What leaves read as -/

namespace Expr

variable {row : Row} {type : ColumnType} {source : Column} {value : Value}

section Column

variable (held : row.cell source.position = .ok value)

include held

theorem readBoolean_column (fits : value.fits .boolean = true) :
    (Expr.column .boolean source).readBoolean row = .ok value.booleanWord := by
  rw [readBoolean, Expr.type, if_pos rfl, Row.readBoolean, held]
  rcases Value.eq_of_fits_boolean fits with rfl | ⟨word, rfl⟩ <;> rfl

theorem readInt_column (fits : value.fits .int = true) :
    (Expr.column .int source).readInt row = .ok value.intWord := by
  rw [readInt, Expr.type, if_pos rfl, Row.readInt, held]
  rcases Value.eq_of_fits_int fits with rfl | ⟨word, rfl⟩ <;> rfl

theorem readLong_column (long : type.isLongWord = true) (fits : value.fits type = true) :
    (Expr.column type source).readLong row = .ok value.longWord := by
  unfold readLong
  rw [Expr.type, if_neg (ne_int_of_isLongWord long), if_pos long]
  have shapes := Value.eq_of_fits_isLongWord long fits
  cases type <;> cases long
  · simp only [Row.readLong, held, bind, Except.bind]
    rcases shapes with rfl | ⟨word, rfl⟩ | ⟨micros, rfl⟩ <;> rfl
  · simp only [Row.readDate, held, bind, Except.bind]
    rcases shapes with rfl | ⟨word, rfl⟩ | ⟨micros, rfl⟩ <;> rfl

theorem readDouble_column (fits : value.fits .double = true) :
    (Expr.column .double source).readDouble row = .ok value.doubleWord := by
  rw [readDouble, Expr.type, if_pos rfl, Row.readDouble, held]
  rcases Value.eq_of_fits_double fits with rfl | ⟨word, rfl⟩ <;> rfl

theorem readCode_column (fits : value.fits .symbol = true) :
    (Expr.column .symbol source).readCode row = .ok value.codeWord := by
  show row.readCode source.position = .ok value.codeWord
  rw [Row.readCode, held]
  rcases Value.eq_of_fits_symbol fits with rfl | ⟨code, rfl⟩ <;> rfl

theorem readText_column (fits : value.fits .string = true) :
    (Expr.column .string source).readText row = .ok (value.text? source.symbols) := by
  rw [readText, Row.readText, held]
  rcases Value.eq_of_fits_string fits with rfl | ⟨text, rfl⟩ <;> rfl

/-- A symbol column with a table reads as the text that the table has for the code. -/
theorem readText_bound {table : SymbolTable} (fits : value.fits .symbol = true)
    (bound : source.symbols = some table)
    (holds : ∀ code, value = .symbol code → table.Holds code) :
    (Expr.column .symbol source).readText row = .ok (value.text? source.symbols) := by
  rw [readText, Row.readCode, held, bound]
  cases value with
  | null => rfl
  | symbol code => exact SymbolTable.text_of_holds (holds code rfl)
  | boolean | int | long | double | date | string => cases fits

end Column

theorem readBoolean_constant (fits : value.fits .boolean = true) :
    (Expr.constant .boolean value).readBoolean row = .ok value.booleanWord := by
  rcases Value.eq_of_fits_boolean fits with rfl | ⟨word, rfl⟩ <;> rfl

theorem readInt_constant (fits : value.fits .int = true) :
    (Expr.constant .int value).readInt row = .ok value.intWord := by
  rcases Value.eq_of_fits_int fits with rfl | ⟨word, rfl⟩ <;> rfl

theorem readLong_constant (long : type.isLongWord = true) (fits : value.fits type = true) :
    (Expr.constant type value).readLong row = .ok value.longWord := by
  have shapes := Value.eq_of_fits_isLongWord long fits
  cases type <;> cases long
  · rcases shapes with rfl | ⟨word, rfl⟩ | ⟨micros, rfl⟩ <;> rfl
  · rcases shapes with rfl | ⟨word, rfl⟩ | ⟨micros, rfl⟩ <;> rfl

theorem readDouble_constant (fits : value.fits .double = true) :
    (Expr.constant .double value).readDouble row = .ok value.doubleWord := by
  rcases Value.eq_of_fits_double fits with rfl | ⟨word, rfl⟩ <;> rfl

theorem readCode_constant (fits : value.fits .symbol = true) :
    (Expr.constant .symbol value).readCode row = .ok value.codeWord := by
  rcases Value.eq_of_fits_symbol fits with rfl | ⟨code, rfl⟩ <;> rfl

theorem readText_constant (fits : value.fits .string = true) :
    (Expr.constant .string value).readText row = .ok (value.text? none) := by
  rcases Value.eq_of_fits_string fits with rfl | ⟨text, rfl⟩ <;> rfl

end Expr

end Columnar
