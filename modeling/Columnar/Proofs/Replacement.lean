/-
This file says what it takes for one expression, read on a row of its own, to stand in the place of
another one: the same type, and the same outcome through every view of that type. The value and the
question whether it is NULL come with these views. The relation passes from operands to the node
above them, for a node reads its operands only through views that its own declaration makes them
offer. Comparisons alone look at more than the types of their operands, so there the domain has to
be the same too.
-/

import Columnar.Proofs.Folding
import Columnar.Proofs.Questions

namespace Columnar

/-- The values have the same word in every view, and as strings they have the same text. -/
structure Value.SameWords (value other : Value) : Prop where
  boolean : value.booleanWord = other.booleanWord
  int : value.intWord = other.intWord
  long : value.longWord = other.longWord
  double : value.doubleWord = other.doubleWord
  code : value.codeWord = other.codeWord
  text : value.text? none = other.text? none

namespace Expr

variable {row otherRow : Row} {expression other operand otherOperand : Expr}
  {left otherLeft right otherRight : Expr} {type : ColumnType}

/-- The second expression answers on its row what the first one answers on the other, through every
view that their type offers. The text of a symbol counts only where it can be found. -/
structure Matches (row : Row) (expression : Expr) (otherRow : Row) (other : Expr) : Prop where
  type : other.type = expression.type
  views : ∀ view, expression.type.offers view = true →
    (view = .text → expression.resolvesText = true) →
      other.read otherRow view = expression.read row view

/-- On a row that conforms to it, an expression reads without a fault through every view that its
type offers, apart from the text of a symbol. -/
theorem exists_read {view : View} (typed : expression.WellTyped)
    (conforms : expression.Conforms row) (offered : expression.type.offers view = true)
    (string : view = .text → expression.type = .string) :
    ∃ answer, expression.read row view = .ok answer := by
  have answers : expression.Answers row view := by
    refine (answers_iff typed conforms view).mpr ⟨offered, fun isText isSymbol => ?_⟩
    rw [string isText] at isSymbol
    cases isSymbol
  cases view <;> exact answers

/-! ### The views of expressions that match -/

namespace Matches

variable (alike : expression.Matches row otherRow other)

include alike

theorem readBoolean_eq (condition : expression.type = .boolean) :
    other.readBoolean otherRow = expression.readBoolean row :=
  alike.views .boolean (ColumnType.offers_boolean_iff.mpr condition) nofun

theorem readInt_eq (isInt : expression.type = .int) :
    other.readInt otherRow = expression.readInt row :=
  alike.views .int (ColumnType.offers_int_iff.mpr isInt) nofun

theorem readLong_eq (offered : expression.type.offers .long = true) :
    other.readLong otherRow = expression.readLong row :=
  alike.views .long offered nofun

theorem readDate_eq (long : expression.type.isLongWord = true) :
    other.readDate otherRow = expression.readDate row :=
  alike.views .date (ColumnType.offers_date_iff.mpr long) nofun

theorem readDouble_eq (offered : expression.type.offers .double = true) :
    other.readDouble otherRow = expression.readDouble row :=
  alike.views .double offered nofun

theorem readCode_eq (isSymbol : expression.type = .symbol) :
    other.readCode otherRow = expression.readCode row :=
  alike.views .code (ColumnType.offers_code_iff.mpr isSymbol) nofun

theorem readText_eq (offered : expression.type.offers .text = true)
    (resolves : expression.resolvesText = true) :
    other.readText otherRow = expression.readText row :=
  alike.views .text offered fun _ => resolves

/-- Of two expressions that match, one is NULL if the other is. -/
theorem readNull_eq : other.readNull otherRow = expression.readNull row := by
  unfold readNull
  rw [alike.type]
  cases known : expression.type with
  | boolean => rfl
  | int => simp only [alike.readInt_eq known]
  | long => simp only [alike.readLong_eq (by rw [known]; rfl)]
  | date => simp only [alike.readDate_eq (by rw [known]; rfl)]
  | double => simp only [alike.readDouble_eq (by rw [known]; rfl)]
  | symbol => simp only [alike.readCode_eq known]
  | string => simp only [alike.readText_eq (by rw [known]; rfl) (resolvesText_of_string known)]

/-- Expressions that match have the same value. -/
theorem evaluate_eq : other.evaluate otherRow = expression.evaluate row := by
  unfold evaluate
  rw [alike.type]
  cases known : expression.type with
  | boolean => simp only [alike.readBoolean_eq known]
  | int => simp only [alike.readInt_eq known]
  | long => simp only [alike.readLong_eq (by rw [known]; rfl)]
  | date => simp only [alike.readDate_eq (by rw [known]; rfl)]
  | double => simp only [alike.readDouble_eq (by rw [known]; rfl)]
  | symbol => simp only [alike.readCode_eq known]
  | string => simp only [alike.readText_eq (by rw [known]; rfl) (resolvesText_of_string known)]

end Matches

/-! ### Which views have to be compared -/

theorem matches_of_boolean (condition : expression.type = .boolean)
    (otherCondition : other.type = .boolean)
    (same : other.readBoolean otherRow = expression.readBoolean row) :
    expression.Matches row otherRow other := by
  refine ⟨otherCondition.trans condition.symm, fun view offered _ => ?_⟩
  rw [condition] at offered
  cases view <;> first | exact same | cases offered

theorem matches_of_double (isDouble : expression.type = .double)
    (otherDouble : other.type = .double)
    (same : other.readDouble otherRow = expression.readDouble row) :
    expression.Matches row otherRow other := by
  refine ⟨otherDouble.trans isDouble.symm, fun view offered _ => ?_⟩
  rw [isDouble] at offered
  cases view <;> first | exact same | cases offered

theorem matches_of_string (isString : expression.type = .string)
    (otherString : other.type = .string)
    (same : other.readText otherRow = expression.readText row) :
    expression.Matches row otherRow other := by
  refine ⟨otherString.trans isString.symm, fun view offered _ => ?_⟩
  rw [isString] at offered
  cases view <;> first | exact same | cases offered

theorem matches_of_symbol (isSymbol : expression.type = .symbol)
    (otherSymbol : other.type = .symbol)
    (codes : other.readCode otherRow = expression.readCode row)
    (texts : expression.resolvesText = true → other.readText otherRow = expression.readText row) :
    expression.Matches row otherRow other := by
  refine ⟨otherSymbol.trans isSymbol.symm, fun view offered resolves => ?_⟩
  rw [isSymbol] at offered
  cases view <;> first | exact codes | exact texts (resolves rfl) | cases offered

/-- Integers of 32 bits that read alike do so as integers of 64 bits. -/
theorem matches_of_int (isInt : expression.type = .int) (otherInt : other.type = .int)
    (ints : other.readInt otherRow = expression.readInt row)
    (doubles : other.readDouble otherRow = expression.readDouble row) :
    expression.Matches row otherRow other := by
  have longs : other.readLong otherRow = expression.readLong row := by
    unfold readLong
    rw [if_pos isInt, if_pos otherInt, ints]
  refine ⟨otherInt.trans isInt.symm, fun view offered _ => ?_⟩
  rw [isInt] at offered
  cases view <;> first | exact ints | exact longs | exact doubles | cases offered

theorem matches_of_isLongWord (sameType : other.type = expression.type)
    (long : expression.type.isLongWord = true)
    (longs : other.readLong otherRow = expression.readLong row)
    (doubles : other.readDouble otherRow = expression.readDouble row) :
    expression.Matches row otherRow other := by
  have dates : other.readDate otherRow = expression.readDate row := by
    rw [readDate_of_isLongWord long, readDate_of_isLongWord (by rw [sameType]; exact long), longs]
  refine ⟨sameType, fun view offered _ => ?_⟩
  cases view with
  | long => exact longs
  | date => exact dates
  | double => exact doubles
  | boolean | int | code | text =>
    cases known : expression.type <;> rw [known] at long offered <;> cases long <;> cases offered

/-- Away from arithmetic on two operands the double view converts what the integer view reads. -/
theorem matches_of_isNoOperation (sameType : other.type = expression.type)
    (offered : expression.type.offers .long = true) (shape : expression.IsNoOperation)
    (otherShape : other.IsNoOperation)
    (ints : expression.type = .int → other.readInt otherRow = expression.readInt row)
    (longs : expression.type.isLongWord = true →
      other.readLong otherRow = expression.readLong row) :
    expression.Matches row otherRow other := by
  rcases ColumnType.offers_long_iff.mp offered with isInt | long
  · have otherInt : other.type = .int := sameType.trans isInt
    refine matches_of_int isInt otherInt (ints isInt) ?_
    rw [readDouble_converts_int isInt shape, readDouble_converts_int otherInt otherShape,
      ints isInt]
  · have otherLong : other.type.isLongWord = true := by rw [sameType]; exact long
    refine matches_of_isLongWord sameType long (longs long) ?_
    rw [readDouble_converts_long long shape, readDouble_converts_long otherLong otherShape,
      longs long]

/-! ### Leaves that match -/

/-- The expression is a leaf of a type and shows a value: a constant its own, a column that of its
cell. -/
inductive Shows (row : Row) (type : ColumnType) (value : Value) : Expr → Prop
  | column {source : Column} (held : row.cell source.position = .ok value) :
    Shows row type value (.column type source)
  | constant : Shows row type value (.constant type value)

namespace Shows

variable {value : Value}

theorem type_eq (shows : expression.Shows row type value) : expression.type = type := by
  cases shows <;> rfl

theorem isNoOperation (shows : expression.Shows row type value) : expression.IsNoOperation := by
  cases shows <;> exact trivial

theorem readBoolean_eq (shows : expression.Shows row .boolean value)
    (fits : value.fits .boolean = true) : expression.readBoolean row = .ok value.booleanWord := by
  cases shows with
  | column held => exact readBoolean_column held fits
  | constant => exact readBoolean_constant fits

theorem readInt_eq (shows : expression.Shows row .int value) (fits : value.fits .int = true) :
    expression.readInt row = .ok value.intWord := by
  cases shows with
  | column held => exact readInt_column held fits
  | constant => exact readInt_constant fits

theorem readLong_eq (shows : expression.Shows row type value) (long : type.isLongWord = true)
    (fits : value.fits type = true) : expression.readLong row = .ok value.longWord := by
  cases shows with
  | column held => exact readLong_column held long fits
  | constant => exact readLong_constant long fits

theorem readDouble_eq (shows : expression.Shows row .double value)
    (fits : value.fits .double = true) : expression.readDouble row = .ok value.doubleWord := by
  cases shows with
  | column held => exact readDouble_column held fits
  | constant => exact readDouble_constant fits

theorem readCode_eq (shows : expression.Shows row .symbol value)
    (fits : value.fits .symbol = true) : expression.readCode row = .ok value.codeWord := by
  cases shows with
  | column held => exact readCode_column held fits
  | constant => exact readCode_constant fits

/-- A string is its own text, whatever table may stand beside it. -/
theorem readText_eq (shows : expression.Shows row .string value)
    (fits : value.fits .string = true) : expression.readText row = .ok (value.text? none) := by
  cases shows with
  | column held =>
    rw [readText_column held fits]
    rcases Value.eq_of_fits_string fits with rfl | ⟨text, rfl⟩ <;> rfl
  | constant => exact readText_constant fits

end Shows

/-- Leaves of one type whose values have the same words match. About the text of a symbol the words
say nothing: it depends on a table, and on how a constant is written. -/
theorem matches_of_shows {value otherValue : Value} (shows : expression.Shows row type value)
    (fits : value.fits type = true) (otherShows : other.Shows otherRow type otherValue)
    (otherFits : otherValue.fits type = true) (sameWords : otherValue.SameWords value)
    (texts : type = .symbol → expression.resolvesText = true →
      other.readText otherRow = expression.readText row) :
    expression.Matches row otherRow other := by
  have shape := shows.isNoOperation
  have otherShape := otherShows.isNoOperation
  have isType := shows.type_eq
  have isOtherType := otherShows.type_eq
  have sameType := isOtherType.trans isType.symm
  have longs (long : type.isLongWord = true) :
      other.readLong otherRow = expression.readLong row := by
    rw [otherShows.readLong_eq long otherFits, shows.readLong_eq long fits, sameWords.long]
  cases type with
  | boolean =>
    refine matches_of_boolean isType isOtherType ?_
    rw [otherShows.readBoolean_eq otherFits, shows.readBoolean_eq fits, sameWords.boolean]
  | int =>
    refine matches_of_isNoOperation sameType (by rw [isType]; rfl) shape otherShape (fun _ => ?_)
      (by rw [isType]; nofun)
    rw [otherShows.readInt_eq otherFits, shows.readInt_eq fits, sameWords.int]
  | long =>
    exact matches_of_isNoOperation sameType (by rw [isType]; rfl) shape otherShape
      (by rw [isType]; nofun) fun _ => longs rfl
  | date =>
    exact matches_of_isNoOperation sameType (by rw [isType]; rfl) shape otherShape
      (by rw [isType]; nofun) fun _ => longs rfl
  | double =>
    refine matches_of_double isType isOtherType ?_
    rw [otherShows.readDouble_eq otherFits, shows.readDouble_eq fits, sameWords.double]
  | symbol =>
    refine matches_of_symbol isType isOtherType ?_ (texts rfl)
    rw [otherShows.readCode_eq otherFits, shows.readCode_eq fits, sameWords.code]
  | string =>
    refine matches_of_string isType isOtherType ?_
    rw [otherShows.readText_eq otherFits, shows.readText_eq fits, sameWords.text]

/-! ### Nodes over operands that match -/

theorem matches_negate (numeric : operand.type.isNumeric = true)
    (alike : operand.Matches row otherRow otherOperand) :
    (Expr.unary operand.type .negate operand).Matches row otherRow
      (.unary operand.type .negate otherOperand) := by
  cases known : operand.type with
  | double =>
    have doubles := alike.readDouble_eq (by rw [known]; rfl)
    exact matches_of_double rfl rfl (by simp only [readDouble, Expr.type, ↓reduceIte, doubles])
  | int =>
    have ints := alike.readInt_eq known
    refine matches_of_isNoOperation rfl rfl trivial trivial (fun _ => ?_) fun long => ?_
    · simp only [readInt, Expr.type, ↓reduceIte, ints]
    · cases long
  | long =>
    have longs := alike.readLong_eq (by rw [known]; rfl)
    refine matches_of_isNoOperation rfl rfl trivial trivial (fun isInt => ?_) fun _ => ?_
    · cases isInt
    · simp only [readLong, Expr.type, ColumnType.isLongWord, reduceCtorEq, ↓reduceIte, longs]
  | boolean | date | symbol | string =>
    rw [known] at numeric
    cases numeric

theorem matches_unary {op : UnaryOp} (typed : (Expr.unary type op operand).WellTyped)
    (alike : operand.Matches row otherRow otherOperand) :
    (Expr.unary type op operand).Matches row otherRow (.unary type op otherOperand) := by
  cases typed with
  | negate operandTyped numeric => exact matches_negate numeric alike
  | not operandTyped condition =>
    have booleans := alike.readBoolean_eq condition
    exact matches_of_boolean rfl rfl (by simp only [readBoolean, Expr.type, ↓reduceIte, booleans])
  | isNull operandTyped =>
    refine matches_of_boolean rfl rfl ?_
    rw [readBoolean_isNull, readBoolean_isNull, alike.readNull_eq]
  | isNotNull operandTyped =>
    have nulls := alike.readNull_eq
    exact matches_of_boolean rfl rfl (by simp only [readBoolean, Expr.type, ↓reduceIte, nulls])
  | floor scheme operandTyped timestamp =>
    have long : operand.type.isLongWord = true := by rw [timestamp]; rfl
    have otherLong : otherOperand.type.isLongWord = true := by rw [alike.type]; exact long
    have longs := alike.readLong_eq (ColumnType.offers_long_iff.mpr (.inr long))
    refine matches_of_isNoOperation rfl rfl trivial trivial (fun isInt => ?_) fun _ => ?_
    · cases isInt
    · rw [readLong_floors otherLong, readLong_floors long, longs]

/-- Arithmetic reads both operands through one view, which the type of the result makes both of
them offer. -/
theorem matches_arithmetic {op : ArithmeticOp} (leftAlike : left.Matches row otherRow otherLeft)
    (rightAlike : right.Matches row otherRow otherRight)
    (output : op.outputType? left.type right.type = some type) :
    (Expr.binary type (.arithmetic op) left right).Matches row otherRow
      (.binary type (.arithmetic op) otherLeft otherRight) := by
  rcases ColumnType.offers_double_iff.mp (ArithmeticOp.offers_double_of_output output) with
    rfl | integer
  · obtain ⟨leftOffered, rightOffered⟩ := ArithmeticOp.operands_of_double output
    have leftDoubles := leftAlike.readDouble_eq leftOffered
    have rightDoubles := rightAlike.readDouble_eq rightOffered
    exact matches_of_double rfl rfl
      (by simp only [readDouble, Expr.type, ↓reduceIte, leftDoubles, rightDoubles])
  rcases ColumnType.offers_long_iff.mp integer with rfl | long
  · obtain ⟨leftInt, rightInt⟩ := ArithmeticOp.operands_of_int output
    have leftInts := leftAlike.readInt_eq leftInt
    have rightInts := rightAlike.readInt_eq rightInt
    refine matches_of_int rfl rfl ?_ ?_
    · simp only [readInt, Expr.type, ↓reduceIte, leftInts, rightInts]
    · simp only [readDouble, Expr.type, ColumnType.isLongWord, reduceCtorEq, Bool.false_eq_true,
        ↓reduceIte, leftInts, rightInts]
  · obtain ⟨leftOffered, rightOffered⟩ := ArithmeticOp.operands_of_long output long
    have leftLongs := leftAlike.readLong_eq leftOffered
    have rightLongs := rightAlike.readLong_eq rightOffered
    have notDouble : type ≠ .double := by
      rintro rfl
      cases long
    refine matches_of_isLongWord rfl long ?_ ?_
    · simp only [readLong, Expr.type, if_neg (ne_int_of_isLongWord long), if_pos long, leftLongs,
        rightLongs]
    · simp only [readDouble, Expr.type, if_neg notDouble, if_pos long, leftLongs, rightLongs]

/-- A comparison reads its operands through the view of their domain. -/
theorem matches_comparison {op : ComparisonOp} {domain : Domain}
    (leftAlike : left.Matches row otherRow otherLeft)
    (rightAlike : right.Matches row otherRow otherRight)
    (shared : left.domain? right = some domain)
    (otherShared : otherLeft.domain? otherRight = some domain) :
    (Expr.binary .boolean (.comparison op) left right).Matches row otherRow
      (.binary .boolean (.comparison op) otherLeft otherRight) := by
  refine matches_of_boolean rfl rfl ?_
  simp only [readBoolean, Expr.type, ↓reduceIte, shared, otherShared]
  cases domain with
  | integer =>
    obtain ⟨leftOffered, rightOffered⟩ := offers_long_of_integer shared
    simp only [leftAlike.readLong_eq leftOffered, rightAlike.readLong_eq rightOffered]
  | double =>
    obtain ⟨leftOffered, rightOffered, -⟩ := offers_double_of_double shared
    simp only [leftAlike.readDouble_eq leftOffered, rightAlike.readDouble_eq rightOffered]
  | boolean =>
    obtain ⟨leftCondition, rightCondition⟩ := type_of_boolean shared
    simp only [leftAlike.readBoolean_eq leftCondition, rightAlike.readBoolean_eq rightCondition]
  | text =>
    obtain ⟨⟨leftOffered, leftResolves⟩, rightOffered, rightResolves⟩ := offers_text_of_text shared
    simp only [leftAlike.readText_eq leftOffered leftResolves,
      rightAlike.readText_eq rightOffered rightResolves]
  | code =>
    obtain ⟨leftSymbol, rightSymbol⟩ := type_of_code shared
    simp only [leftAlike.readCode_eq leftSymbol, rightAlike.readCode_eq rightSymbol]

theorem matches_logical {op : LogicalOp} (leftAlike : left.Matches row otherRow otherLeft)
    (rightAlike : right.Matches row otherRow otherRight) (leftCondition : left.type = .boolean)
    (rightCondition : right.type = .boolean) :
    (Expr.binary .boolean (.logical op) left right).Matches row otherRow
      (.binary .boolean (.logical op) otherLeft otherRight) := by
  have leftBooleans := leftAlike.readBoolean_eq leftCondition
  have rightBooleans := rightAlike.readBoolean_eq rightCondition
  refine matches_of_boolean rfl rfl ?_
  cases op <;> simp only [readBoolean, Expr.type, ↓reduceIte, leftBooleans, rightBooleans]

/-- Operands that match make nodes that match, provided that a comparison stays in its domain. -/
theorem matches_binary {op : BinaryOp} (typed : (Expr.binary type op left right).WellTyped)
    (leftAlike : left.Matches row otherRow otherLeft)
    (rightAlike : right.Matches row otherRow otherRight)
    (sameDomain : op.isComparison = true →
      otherLeft.domain? otherRight = left.domain? right) :
    (Expr.binary type op left right).Matches row otherRow
      (.binary type op otherLeft otherRight) := by
  cases typed with
  | arithmetic leftTyped rightTyped output => exact matches_arithmetic leftAlike rightAlike output
  | comparison leftTyped rightTyped shared =>
    exact matches_comparison leftAlike rightAlike shared ((sameDomain rfl).trans shared)
  | logical leftTyped rightTyped leftCondition rightCondition =>
    exact matches_logical leftAlike rightAlike leftCondition rightCondition

/-! ### The rules for nodes over other operands -/

/-- The rules ask of an operand no more than that it follows them and what its type is. -/
theorem wellTyped_unary_congr {op : UnaryOp} (typed : (Expr.unary type op operand).WellTyped)
    (otherTyped : otherOperand.WellTyped) (sameType : otherOperand.type = operand.type) :
    (Expr.unary type op otherOperand).WellTyped := by
  obtain ⟨-, output⟩ := wellTyped_unary_iff.mp typed
  rw [← sameType] at output
  exact wellTyped_unary_iff.mpr ⟨otherTyped, output⟩

/-- Of the operands of a comparison they ask that they share a domain too. -/
theorem wellTyped_binary_congr {op : BinaryOp} (typed : (Expr.binary type op left right).WellTyped)
    (otherLeftTyped : otherLeft.WellTyped) (otherRightTyped : otherRight.WellTyped)
    (sameLeft : otherLeft.type = left.type) (sameRight : otherRight.type = right.type)
    (stillShared : op.isComparison = true → (left.domain? right).isSome = true →
      (otherLeft.domain? otherRight).isSome = true) :
    (Expr.binary type op otherLeft otherRight).WellTyped := by
  cases typed with
  | arithmetic _ _ output =>
    rw [← sameLeft, ← sameRight] at output
    exact .arithmetic otherLeftTyped otherRightTyped output
  | comparison _ _ shared =>
    obtain ⟨domain, otherShared⟩ :=
      Option.isSome_iff_exists.mp (stillShared rfl (Option.isSome_of_mem shared))
    exact .comparison otherLeftTyped otherRightTyped otherShared
  | logical _ _ leftCondition rightCondition =>
    exact .logical otherLeftTyped otherRightTyped (sameLeft.trans leftCondition)
      (sameRight.trans rightCondition)

end Expr

end Columnar
