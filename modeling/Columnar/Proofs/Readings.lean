/-
This file proves that an expression that is declared rightly can be read through every view of its
type, on every row that conforms to it, and says what the views answer. The integer views answer the
word of the number that the expression means, so one induction gives both that they answer and what.
The double view of an integer expression is told apart by its last operation: everything but
arithmetic on two operands converts its own number, and arithmetic converts a result that has not
yet been compared with the reserved word, or divides the converted operands.
-/

import Columnar.Proofs.Conformance

namespace Columnar

namespace ArithmeticOp

/-- Whatever is an integer of 64 bits or a timestamp has results like one. -/
theorem exact?_of_isLongWord (op : ArithmeticOp) {type : ColumnType} (long : type.isLongWord = true)
    (left right : Int) : op.exact? type left right = op.exact? .long left right := by
  cases type <;> cases long <;> rfl

/-- The result of an operation in the range of a type. The least number of the range is a number
like the others here. -/
def wrapped (op : ArithmeticOp) (type : ColumnType) (left right : Int) : Int :=
  match op with
  | .add => (left + right).bmod type.modulus
  | .subtract => (left - right).bmod type.modulus
  | .multiply => (left * right).bmod type.modulus
  | .divide => left.tdiv right

/-- The double view of an operation on two numbers that may be missing. -/
def asDouble (op : ArithmeticOp) (type : ColumnType) : Option Int → Option Int → Float
  | some left, some right =>
    if op = .divide then Word.nearestDouble left / Word.nearestDouble right
    else Word.nearestDouble (op.wrapped type left right)
  | _, _ => Null.double

theorem asDouble_of_isLongWord (op : ArithmeticOp) {type : ColumnType}
    (long : type.isLongWord = true) (left right : Option Int) :
    op.asDouble type left right = op.asDouble .long left right := by
  cases type <;> cases long <;> rfl

end ArithmeticOp

namespace Word

/-- The double nearest to a number that may be missing. -/
def doubleOf : Option Int → Float
  | none => Null.double
  | some number => nearestDouble number

theorem intToDouble_eq (word : Int32) : intToDouble word = doubleOf (int? word) := by
  unfold intToDouble int?
  split <;> rfl

theorem longToDouble_eq (word : Int64) : longToDouble word = doubleOf (long? word) := by
  unfold longToDouble long?
  split <;> rfl

theorem combineIntsAsDouble_eq (op : ArithmeticOp) (left right : Int32) :
    combineIntsAsDouble op left right = op.asDouble .int (int? left) (int? right) := by
  unfold combineIntsAsDouble
  by_cases leftMissing : left = Null.int
  · rw [if_pos (Or.inl leftMissing), leftMissing]
    rfl
  · by_cases rightMissing : right = Null.int
    · rw [if_pos (Or.inr rightMissing), rightMissing, int?_of_ne leftMissing]
      rfl
    · rw [if_neg (not_or.mpr ⟨leftMissing, rightMissing⟩), int?_of_ne leftMissing,
        int?_of_ne rightMissing]
      cases op with
      | add => exact congrArg nearestDouble (Int32.toInt_add left right)
      | subtract => exact congrArg nearestDouble (Int32.toInt_sub left right)
      | multiply => exact congrArg nearestDouble (Int32.toInt_mul left right)
      | divide => rfl

theorem combineLongsAsDouble_eq (op : ArithmeticOp) (left right : Int64) :
    combineLongsAsDouble op left right = op.asDouble .long (long? left) (long? right) := by
  unfold combineLongsAsDouble
  by_cases leftMissing : left = Null.long
  · rw [if_pos (Or.inl leftMissing), leftMissing]
    rfl
  · by_cases rightMissing : right = Null.long
    · rw [if_pos (Or.inr rightMissing), rightMissing, long?_of_ne leftMissing]
      rfl
    · rw [if_neg (not_or.mpr ⟨leftMissing, rightMissing⟩), long?_of_ne leftMissing,
        long?_of_ne rightMissing]
      cases op with
      | add => exact congrArg nearestDouble (Int64.toInt_add left right)
      | subtract => exact congrArg nearestDouble (Int64.toInt_sub left right)
      | multiply => exact congrArg nearestDouble (Int64.toInt_mul left right)
      | divide => rfl

end Word

namespace Expr

variable {row : Row} {expression : Expr}

/-! ### Integers and timestamps -/

/-- An integer expression of 32 bits reads as the word of its number. -/
theorem exists_readInt (typed : expression.WellTyped) (conforms : expression.Conforms row)
    (isInt : expression.type = .int) :
    ∃ word, expression.readInt row = .ok word ∧ Word.int? word = expression.number? row := by
  induction typed with
  | column type source =>
    obtain rfl : type = .int := isInt
    obtain ⟨value, held, fits, _⟩ := conforms_column.mp conforms
    refine ⟨value.intWord, readInt_column held fits, ?_⟩
    rw [Value.int?_intWord fits, number?, Row.value_of_cell held]
  | @constant type value fits =>
    obtain rfl : type = .int := isInt
    exact ⟨value.intWord, readInt_constant fits, Value.int?_intWord fits⟩
  | @negate operand _ _ inductionHypothesis =>
    replace isInt : operand.type = .int := isInt
    obtain ⟨word, read, means⟩ := inductionHypothesis conforms isInt
    rw [isInt]
    refine ⟨Word.negateInt word, readInt_negate read, ?_⟩
    rw [Word.int?_negateInt, means]
    rfl
  | @arithmetic op type left right _ _ output leftHypothesis rightHypothesis =>
    obtain rfl : type = .int := isInt
    obtain ⟨leftInt, rightInt⟩ := ArithmeticOp.operands_of_int output
    obtain ⟨leftConforms, rightConforms⟩ := conforms_binary.mp conforms
    obtain ⟨leftWord, leftRead, leftMeans⟩ := leftHypothesis leftConforms leftInt
    obtain ⟨rightWord, rightRead, rightMeans⟩ := rightHypothesis rightConforms rightInt
    refine ⟨Word.combineInts op leftWord rightWord, readInt_arithmetic leftRead rightRead, ?_⟩
    rw [Word.int?_combineInts, leftMeans, rightMeans]
    rfl
  | not | isNull | isNotNull | floor | comparison | logical => cases isInt

/-- An integer expression of 32 bits reads as one of 64 with the same number. -/
theorem exists_readLong_of_int (typed : expression.WellTyped) (conforms : expression.Conforms row)
    (isInt : expression.type = .int) :
    ∃ word, expression.readLong row = .ok word ∧ Word.long? word = expression.number? row := by
  obtain ⟨word, read, means⟩ := exists_readInt typed conforms isInt
  exact ⟨Word.widen word, readLong_of_int isInt read, (Word.long?_widen word).trans means⟩

/-- Integer expressions and timestamps read as the word of 64 bits of their number. -/
theorem exists_readLong (typed : expression.WellTyped) (conforms : expression.Conforms row)
    (offered : expression.type.offers .long = true) :
    ∃ word, expression.readLong row = .ok word ∧ Word.long? word = expression.number? row := by
  induction typed with
  | column type source =>
    rcases ColumnType.offers_long_iff.mp offered with isInt | long
    · exact exists_readLong_of_int (.column type source) conforms isInt
    · obtain ⟨value, held, fits, _⟩ := conforms_column.mp conforms
      refine ⟨value.longWord, readLong_column held long fits, ?_⟩
      rw [Value.long?_longWord long fits, number?, Row.value_of_cell held]
  | @constant type value fits =>
    rcases ColumnType.offers_long_iff.mp offered with isInt | long
    · exact exists_readLong_of_int (.constant fits) conforms isInt
    · exact ⟨value.longWord, readLong_constant long fits, Value.long?_longWord long fits⟩
  | @negate operand operandTyped numeric inductionHypothesis =>
    rcases ColumnType.offers_long_iff.mp offered with isInt | long
    · exact exists_readLong_of_int (.negate operandTyped numeric) conforms isInt
    · obtain ⟨word, read, means⟩ := inductionHypothesis conforms offered
      refine ⟨Word.negateLong word, readLong_negate long read, ?_⟩
      rw [Word.long?_negateLong, means]
      rfl
  | @floor scheme operand _ timestamp inductionHypothesis =>
    have long : operand.type.isLongWord = true := by rw [timestamp]; rfl
    obtain ⟨word, read, means⟩ :=
      inductionHypothesis conforms (ColumnType.offers_long_iff.mpr (Or.inr long))
    refine ⟨scheme.floor word, readLong_floor long read, ?_⟩
    rw [Scheme.long?_floor, means]
    rfl
  | @arithmetic op type left right leftTyped rightTyped output leftHypothesis rightHypothesis =>
    rcases ColumnType.offers_long_iff.mp offered with isInt | long
    · exact exists_readLong_of_int (.arithmetic leftTyped rightTyped output) conforms isInt
    · replace long : type.isLongWord = true := long
      -- One operand may be narrower than the result, so the hypotheses ask for the view alone.
      obtain ⟨leftOffered, rightOffered⟩ := ArithmeticOp.operands_of_long output long
      obtain ⟨leftConforms, rightConforms⟩ := conforms_binary.mp conforms
      obtain ⟨leftWord, leftRead, leftMeans⟩ := leftHypothesis leftConforms leftOffered
      obtain ⟨rightWord, rightRead, rightMeans⟩ := rightHypothesis rightConforms rightOffered
      refine ⟨Word.combineLongs op leftWord rightWord,
        readLong_arithmetic long leftRead rightRead, ?_⟩
      rw [Word.long?_combineLongs, leftMeans, rightMeans, number?]
      simp only [op.exact?_of_isLongWord long]
  | not | isNull | isNotNull | comparison | logical => cases offered

/-! ### Symbols and strings -/

/-- No operation gives a symbol or a string, so these are leaves. -/
theorem leaf_of_offers_text (typed : expression.WellTyped)
    (offered : expression.type.offers .text = true) :
    (∃ source, expression = .column expression.type source) ∨
      ∃ value, expression = .constant expression.type value ∧
        value.fits expression.type = true := by
  cases typed with
  | column type source => exact Or.inl ⟨source, rfl⟩
  | @constant type value fits => exact Or.inr ⟨value, rfl, fits⟩
  | @negate operand _ numeric =>
    replace offered : operand.type.offers .text = true := offered
    cases known : operand.type <;> rw [known] at numeric offered <;> cases numeric <;> cases offered
  | @arithmetic op type left right _ _ output =>
    have asDouble := ArithmeticOp.offers_double_of_output output
    replace offered : type.offers .text = true := offered
    cases type <;> cases asDouble <;> cases offered
  | not | isNull | isNotNull | floor | comparison | logical => cases offered

/-- A symbol reads as the word of its code. -/
theorem exists_readCode (typed : expression.WellTyped) (conforms : expression.Conforms row)
    (isSymbol : expression.type = .symbol) :
    ∃ code, expression.readCode row = .ok code ∧ Word.code? code = expression.code? row := by
  rcases leaf_of_offers_text typed (ColumnType.offers_text_iff.mpr (Or.inr isSymbol)) with
    ⟨source, shape⟩ | ⟨value, shape, fits⟩
  · rw [isSymbol] at shape
    subst shape
    obtain ⟨value, held, fits, _⟩ := conforms_column.mp conforms
    refine ⟨value.codeWord, readCode_column held fits, ?_⟩
    rw [Value.code?_codeWord fits, code?, Row.value_of_cell held]
  · rw [isSymbol] at shape fits
    subst shape
    exact ⟨value.codeWord, readCode_constant fits, Value.code?_codeWord fits⟩

/-- A string reads as its text, and so does a symbol whose text can be found. -/
theorem readText_eq (typed : expression.WellTyped) (conforms : expression.Conforms row)
    (offered : expression.type.offers .text = true) (resolves : expression.resolvesText = true) :
    expression.readText row = .ok (expression.text? row) := by
  rcases leaf_of_offers_text typed offered with ⟨source, shape⟩ | ⟨value, shape, fits⟩
  · rw [shape] at conforms resolves
    obtain ⟨value, held, fits, holds⟩ := conforms_column.mp conforms
    rw [shape, text?, Row.value_of_cell held]
    rcases ColumnType.offers_text_iff.mp offered with isString | isSymbol
    · rw [isString] at fits ⊢
      exact readText_column held fits
    · rw [isSymbol] at fits resolves ⊢
      obtain ⟨table, bound⟩ := Option.isSome_iff_exists.mp resolves
      exact readText_bound held fits bound fun code => holds table code bound
  · rw [shape] at resolves ⊢
    rcases ColumnType.offers_text_iff.mp offered with isString | isSymbol
    · rw [isString] at fits ⊢
      exact readText_constant fits
    · rw [isSymbol] at resolves ⊢
      cases value <;> first | rfl | cases resolves

/-! ### Doubles -/

/-- The double view of an integer expression or a timestamp. -/
def integerAsDouble (row : Row) : Expr → Float
  | .binary type (.arithmetic op) left right =>
    op.asDouble type (left.number? row) (right.number? row)
  | expression => Word.doubleOf (expression.number? row)

/-- Away from arithmetic on two operands the double view converts the number. -/
theorem readDouble_of_isNoOperation (typed : expression.WellTyped)
    (conforms : expression.Conforms row) (offered : expression.type.offers .long = true)
    (shape : expression.IsNoOperation) :
    expression.readDouble row = .ok (Word.doubleOf (expression.number? row)) := by
  rcases ColumnType.offers_long_iff.mp offered with isInt | long
  · obtain ⟨word, read, means⟩ := exists_readInt typed conforms isInt
    rw [readDouble_of_int isInt shape read, Word.intToDouble_eq, means]
  · obtain ⟨word, read, means⟩ := exists_readLong typed conforms offered
    rw [readDouble_of_long long shape read, Word.longToDouble_eq, means]

/-- Every integer expression and every timestamp has a double view, and the meaning tells which. -/
theorem readDouble_eq_integerAsDouble (typed : expression.WellTyped)
    (conforms : expression.Conforms row) (offered : expression.type.offers .long = true) :
    expression.readDouble row = .ok (expression.integerAsDouble row) := by
  cases typed with
  | @arithmetic op type left right leftTyped rightTyped output =>
    obtain ⟨leftConforms, rightConforms⟩ := conforms_binary.mp conforms
    rcases ColumnType.offers_long_iff.mp offered with isInt | long
    · obtain rfl : type = .int := isInt
      obtain ⟨leftInt, rightInt⟩ := ArithmeticOp.operands_of_int output
      obtain ⟨leftWord, leftRead, leftMeans⟩ := exists_readInt leftTyped leftConforms leftInt
      obtain ⟨rightWord, rightRead, rightMeans⟩ := exists_readInt rightTyped rightConforms rightInt
      rw [readDouble_intArithmetic leftRead rightRead, Word.combineIntsAsDouble_eq, leftMeans,
        rightMeans]
      rfl
    · replace long : type.isLongWord = true := long
      obtain ⟨leftOffered, rightOffered⟩ := ArithmeticOp.operands_of_long output long
      obtain ⟨leftWord, leftRead, leftMeans⟩ := exists_readLong leftTyped leftConforms leftOffered
      obtain ⟨rightWord, rightRead, rightMeans⟩ :=
        exists_readLong rightTyped rightConforms rightOffered
      rw [readDouble_longArithmetic long leftRead rightRead, Word.combineLongsAsDouble_eq,
        leftMeans, rightMeans, integerAsDouble, op.asDouble_of_isLongWord long]
  | column type source =>
    exact readDouble_of_isNoOperation (.column type source) conforms offered trivial
  | constant fits => exact readDouble_of_isNoOperation (.constant fits) conforms offered trivial
  | negate operandTyped numeric =>
    exact readDouble_of_isNoOperation (.negate operandTyped numeric) conforms offered trivial
  | floor scheme operandTyped timestamp =>
    exact readDouble_of_isNoOperation (.floor scheme operandTyped timestamp) conforms offered
      trivial
  | not | isNull | isNotNull | comparison | logical => cases offered

/-- Every number and every timestamp can be read as a double. -/
theorem exists_readDouble (typed : expression.WellTyped) (conforms : expression.Conforms row)
    (offered : expression.type.offers .double = true) :
    ∃ word, expression.readDouble row = .ok word := by
  induction typed with
  | column type source =>
    rcases ColumnType.offers_double_iff.mp offered with isDouble | integer
    · obtain rfl : type = .double := isDouble
      obtain ⟨value, held, fits, _⟩ := conforms_column.mp conforms
      exact ⟨value.doubleWord, readDouble_column held fits⟩
    · exact ⟨_, readDouble_eq_integerAsDouble (.column type source) conforms integer⟩
  | @constant type value fits =>
    rcases ColumnType.offers_double_iff.mp offered with isDouble | integer
    · obtain rfl : type = .double := isDouble
      exact ⟨value.doubleWord, readDouble_constant fits⟩
    · exact ⟨_, readDouble_eq_integerAsDouble (.constant fits) conforms integer⟩
  | @negate operand operandTyped numeric inductionHypothesis =>
    rcases ColumnType.offers_double_iff.mp offered with isDouble | integer
    · replace isDouble : operand.type = .double := isDouble
      obtain ⟨word, read⟩ := inductionHypothesis conforms offered
      rw [isDouble]
      exact ⟨-word, readDouble_negate read⟩
    · exact ⟨_, readDouble_eq_integerAsDouble (.negate operandTyped numeric) conforms integer⟩
  | floor scheme operandTyped timestamp =>
    exact ⟨_, readDouble_eq_integerAsDouble (.floor scheme operandTyped timestamp) conforms rfl⟩
  | @arithmetic op type left right leftTyped rightTyped output leftHypothesis rightHypothesis =>
    rcases ColumnType.offers_double_iff.mp offered with isDouble | integer
    · obtain rfl : type = .double := isDouble
      obtain ⟨leftOffered, rightOffered⟩ := ArithmeticOp.operands_of_double output
      obtain ⟨leftConforms, rightConforms⟩ := conforms_binary.mp conforms
      obtain ⟨leftWord, leftRead⟩ := leftHypothesis leftConforms leftOffered
      obtain ⟨rightWord, rightRead⟩ := rightHypothesis rightConforms rightOffered
      exact ⟨op.onDoubles leftWord rightWord, readDouble_arithmetic leftRead rightRead⟩
    · exact ⟨_, readDouble_eq_integerAsDouble (.arithmetic leftTyped rightTyped output) conforms
        integer⟩
  | not | isNull | isNotNull | comparison | logical => cases offered

end Expr

end Columnar
