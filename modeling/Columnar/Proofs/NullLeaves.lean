/-
This file proves that a leaf that is NULL leaves no value to the arithmetic above it. An integer
operation has a number only if both of its operands have one, so a NULL below takes the number away
from every integer node up to the root; the double view of such a node reads its operands, one of
which is NULL, and so is NULL too. An operation on doubles gives NULL back by itself. What an
operation alone can lose, by wrapping or by dividing by zero, plays no part here: there the NULL
comes from the operation and not from below, and the double view may not see it.
-/

import Columnar.Proofs.NullComparison
import Columnar.Proofs.Soundness

namespace Columnar

namespace Value

/-- Whether a value stands for NULL: as such, or as the reserved word of its type. -/
def isAbsent (value : Value) : Bool :=
  value.isNull || value.isReserved

theorem number?_of_isAbsent {value : Value} (absent : value.isAbsent = true) :
    value.number? = none := by
  cases value with
  | null | boolean | double | symbol | string => rfl
  | int word => exact Word.int?_eq_none_iff.mpr (beq_iff_eq.mp absent)
  | long word => exact Word.long?_eq_none_iff.mpr (beq_iff_eq.mp absent)
  | date micros => exact Word.long?_eq_none_iff.mpr (beq_iff_eq.mp absent)

theorem doubleWord_of_isAbsent {value : Value} (absent : value.isAbsent = true) :
    value.doubleWord = Null.double := by
  cases value with
  | double word => exact Double.isNaN_iff.mp absent
  | null | boolean | int | long | date | symbol | string => rfl

/-- A proper value without a number is NULL, where its type has numbers. -/
theorem eq_null_of_number? {value : Value} {type : ColumnType} (proper : value.Proper type)
    (offered : type.offers .long = true) (missing : value.number? = none) : value = .null := by
  obtain ⟨fits, unreserved⟩ := proper
  cases value with
  | null => rfl
  | int word =>
    rw [isReserved, Word.int?_eq_none_iff.mp missing] at unreserved
    cases unreserved
  | long word =>
    rw [isReserved, Word.long?_eq_none_iff.mp missing] at unreserved
    cases unreserved
  | date micros =>
    rw [isReserved, Word.long?_eq_none_iff.mp missing] at unreserved
    cases unreserved
  | boolean | double | symbol | string => cases type <;> cases offered <;> cases fits

end Value

namespace Expr

variable {row : Row} {expression other : Expr} {type : ColumnType} {op : ComparisonOp}

/-! ### Arithmetic over leaves -/

/-- The expression is built from the columns and constants of numbers and timestamps by arithmetic,
by taking negatives and by flooring. -/
def IsArithmetic : Expr → Prop
  | .column type _ => type.offers .double = true
  | .constant type _ => type.offers .double = true
  | .unary _ .negate operand => operand.IsArithmetic
  | .unary _ (.floor _) operand => operand.IsArithmetic
  | .binary _ (.arithmetic _) left right => left.IsArithmetic ∧ right.IsArithmetic
  | _ => False

/-- A leaf of the expression is NULL on the row. -/
def HasNullLeaf (row : Row) : Expr → Prop
  | .column _ source => (row.value source.position).isAbsent = true
  | .constant _ value => value.isAbsent = true
  | .unary _ _ operand => operand.HasNullLeaf row
  | .binary _ _ left right => left.HasNullLeaf row ∨ right.HasNullLeaf row

/-- What arithmetic gives can be read as a double. -/
theorem IsArithmetic.offers_double (arithmetic : expression.IsArithmetic)
    (typed : expression.WellTyped) : expression.type.offers .double = true := by
  induction typed with
  | column | constant => exact arithmetic
  | negate _ _ inductionHypothesis => exact inductionHypothesis arithmetic
  | floor => rfl
  | arithmetic _ _ output => exact ArithmeticOp.offers_double_of_output output
  | not | isNull | isNotNull | comparison | logical => exact arithmetic.elim

/-- The columns of arithmetic are numbers and timestamps. -/
theorem IsArithmetic.columns (arithmetic : expression.IsArithmetic) :
    ∀ leaf ∈ expression.columns, leaf.1.offers .double = true := by
  induction expression with
  | column type source => exact List.forall_mem_singleton.mpr arithmetic
  | constant type value => exact List.forall_mem_nil _
  | unary type op operand inductionHypothesis =>
    cases op with
    | negate | floor => exact inductionHypothesis arithmetic
    | not | isNull | isNotNull => exact arithmetic.elim
  | binary type op left right leftHypothesis rightHypothesis =>
    cases op with
    | arithmetic op =>
      exact List.forall_mem_append.mpr
        ⟨leftHypothesis arithmetic.1, rightHypothesis arithmetic.2⟩
    | comparison | logical => exact arithmetic.elim

/-- No column of arithmetic has codes, so a row conforms if its cells have the right types. -/
theorem IsArithmetic.conforms (arithmetic : expression.IsArithmetic)
    (cells : ∀ leaf ∈ expression.columns, ∃ value, row.cell leaf.2.position = .ok value ∧
      value.fits leaf.1 = true) : expression.Conforms row := by
  refine conforms_of_cells (fun leaf member isSymbol => ?_) cells
  have offered := arithmetic.columns leaf member
  rw [isSymbol] at offered
  cases offered

/-! ### What a NULL leaf leaves -/

/-- An integer expression with a NULL leaf has no number. -/
theorem number?_of_hasNullLeaf (typed : expression.WellTyped)
    (offered : expression.type.offers .long = true) (nullLeaf : expression.HasNullLeaf row) :
    expression.number? row = none := by
  induction typed with
  | column type source => exact Value.number?_of_isAbsent nullLeaf
  | constant fits => exact Value.number?_of_isAbsent nullLeaf
  | negate _ _ inductionHypothesis =>
    rw [number?, inductionHypothesis offered nullLeaf]
    rfl
  | floor scheme _ timestamp inductionHypothesis =>
    rw [number?, inductionHypothesis (by rw [timestamp]; rfl) nullLeaf]
    rfl
  | @arithmetic op type left right _ _ output leftHypothesis rightHypothesis =>
    obtain ⟨leftOffered, rightOffered⟩ := op.operands_of_offers_long output offered
    rw [number?]
    rcases nullLeaf with leftNull | rightNull
    · rw [leftHypothesis leftOffered leftNull]
      rfl
    · rw [rightHypothesis rightOffered rightNull]
      cases left.number? row <;> rfl
  | not | isNull | isNotNull | comparison | logical => cases offered

/-- Below an integer operation with a NULL leaf an operand has no number already, so it is not the
operation that loses the value. -/
theorem not_losesValue_of_hasNullLeaf (typed : expression.WellTyped)
    (offered : expression.type.offers .long = true) (nullLeaf : expression.HasNullLeaf row) :
    ¬ expression.LosesValue row := by
  cases typed with
  | @arithmetic op type left right leftTyped rightTyped output =>
    obtain ⟨leftOffered, rightOffered⟩ := op.operands_of_offers_long output offered
    rintro ⟨-, leftNumber, rightNumber, leftKnown, rightKnown, -⟩
    rcases nullLeaf with leftNull | rightNull
    · rw [number?_of_hasNullLeaf leftTyped leftOffered leftNull] at leftKnown
      cases leftKnown
    · rw [number?_of_hasNullLeaf rightTyped rightOffered rightNull] at rightKnown
      cases rightKnown
  | column | constant | negate | not | isNull | isNotNull | floor | comparison | logical => exact id

/-- The double view of an integer expression with a NULL leaf is NULL. -/
theorem readDouble_of_integer_hasNullLeaf (typed : expression.WellTyped)
    (conforms : expression.Conforms row) (offered : expression.type.offers .long = true)
    (nullLeaf : expression.HasNullLeaf row) : expression.readDouble row = .ok Null.double := by
  rw [readDouble_eq_integerAsDouble typed conforms offered, integerAsDouble_of_missing offered
    (number?_of_hasNullLeaf typed offered nullLeaf)
    (not_losesValue_of_hasNullLeaf typed offered nullLeaf)]

/-- An expression of doubles with a NULL leaf reads as NULL, whether its operands are doubles or
integers. -/
theorem readDouble_of_double_hasNullLeaf (typed : expression.WellTyped)
    (conforms : expression.Conforms row) (isDouble : expression.type = .double)
    (nullLeaf : expression.HasNullLeaf row) : expression.readDouble row = .ok Null.double := by
  induction typed with
  | column type source =>
    obtain rfl : type = .double := isDouble
    obtain ⟨value, held, fits, -⟩ := conforms_column.mp conforms
    rw [HasNullLeaf, Row.value_of_cell held] at nullLeaf
    rw [readDouble_column held fits, Value.doubleWord_of_isAbsent nullLeaf]
  | @constant type value fits =>
    obtain rfl : type = .double := isDouble
    rw [readDouble_constant fits, Value.doubleWord_of_isAbsent nullLeaf]
  | @negate operand operandTyped numeric inductionHypothesis =>
    replace isDouble : operand.type = .double := isDouble
    rw [isDouble, readDouble_negate (inductionHypothesis conforms isDouble nullLeaf),
      Double.neg_null]
  | @arithmetic op type left right leftTyped rightTyped output leftHypothesis rightHypothesis =>
    obtain rfl : type = .double := isDouble
    obtain ⟨leftOffered, rightOffered⟩ := ArithmeticOp.operands_of_double output
    obtain ⟨leftConforms, rightConforms⟩ := conforms_binary.mp conforms
    rcases nullLeaf with leftNull | rightNull
    · have leftRead : left.readDouble row = .ok Null.double := by
        rcases ColumnType.offers_double_iff.mp leftOffered with leftDouble | integer
        · exact leftHypothesis leftConforms leftDouble leftNull
        · exact readDouble_of_integer_hasNullLeaf leftTyped leftConforms integer leftNull
      obtain ⟨rightWord, rightRead⟩ := exists_readDouble rightTyped rightConforms rightOffered
      rw [readDouble_arithmetic leftRead rightRead, Double.onDoubles_null_left]
    · have rightRead : right.readDouble row = .ok Null.double := by
        rcases ColumnType.offers_double_iff.mp rightOffered with rightDouble | integer
        · exact rightHypothesis rightConforms rightDouble rightNull
        · exact readDouble_of_integer_hasNullLeaf rightTyped rightConforms integer rightNull
      obtain ⟨leftWord, leftRead⟩ := exists_readDouble leftTyped leftConforms leftOffered
      rw [readDouble_arithmetic leftRead rightRead, Double.onDoubles_null_right]
  | not | isNull | isNotNull | floor | comparison | logical => cases isDouble

/-- The double view of every expression with a NULL leaf is NULL. -/
theorem readDouble_of_hasNullLeaf (typed : expression.WellTyped)
    (conforms : expression.Conforms row) (offered : expression.type.offers .double = true)
    (nullLeaf : expression.HasNullLeaf row) : expression.readDouble row = .ok Null.double := by
  rcases ColumnType.offers_double_iff.mp offered with isDouble | integer
  · exact readDouble_of_double_hasNullLeaf typed conforms isDouble nullLeaf
  · exact readDouble_of_integer_hasNullLeaf typed conforms integer nullLeaf

/-- An expression with a NULL leaf evaluates to NULL, where its type is that of a number or a
timestamp. -/
theorem evaluate_of_hasNullLeaf (typed : expression.WellTyped) (conforms : expression.Conforms row)
    (offered : expression.type.offers .double = true) (nullLeaf : expression.HasNullLeaf row) :
    expression.evaluate row = .ok .null := by
  rcases ColumnType.offers_double_iff.mp offered with isDouble | integer
  · exact evaluate_of_double isDouble (readDouble_of_hasNullLeaf typed conforms offered nullLeaf)
  · obtain ⟨value, evaluates, proper⟩ := exists_evaluate typed conforms
    have missing := number?_of_evaluate typed conforms integer evaluates
    rw [number?_of_hasNullLeaf typed integer nullLeaf] at missing
    rw [evaluates, Value.eq_null_of_number? proper integer missing]

/-- An expression with a NULL leaf is NULL in its own view. -/
theorem readNull_of_hasNullLeaf (typed : expression.WellTyped) (conforms : expression.Conforms row)
    (offered : expression.type.offers .double = true) (nullLeaf : expression.HasNullLeaf row) :
    expression.readNull row = .ok true := by
  rcases ColumnType.offers_double_iff.mp offered with isDouble | integer
  · have read := readDouble_of_hasNullLeaf typed conforms offered nullLeaf
    rw [readNull_of_double isDouble read, Double.isNaN_iff.mpr rfl]
  · have missing := number?_of_hasNullLeaf typed integer nullLeaf
    rcases ColumnType.offers_long_iff.mp integer with isInt | long
    · obtain ⟨word, read, means⟩ := exists_readInt typed conforms isInt
      obtain rfl := Word.int?_eq_none_iff.mp (means.trans missing)
      exact readNull_of_int isInt read
    · obtain ⟨word, read, means⟩ := exists_readLong typed conforms integer
      obtain rfl := Word.long?_eq_none_iff.mp (means.trans missing)
      exact readNull_of_long long read

/-! ### Comparisons with a NULL leaf -/

/-- No comparison of doubles holds of an operand whose double view is NULL. -/
theorem readBoolean_of_null_doubles {left right : Expr} (leftTyped : left.WellTyped)
    (rightTyped : right.WellTyped) (leftConforms : left.Conforms row)
    (rightConforms : right.Conforms row) (shared : left.domain? right = some .double)
    (missing : left.readDouble row = .ok Null.double ∨ right.readDouble row = .ok Null.double) :
    (Expr.binary .boolean (.comparison op) left right).readBoolean row = .ok false := by
  obtain ⟨leftOffered, rightOffered, -⟩ := offers_double_of_double shared
  rcases missing with leftRead | rightRead
  · obtain ⟨rightWord, rightRead⟩ := exists_readDouble rightTyped rightConforms rightOffered
    rw [readBoolean_compareDoubles shared leftRead rightRead, Double.compareDoubles_null_left,
      op.holds_none]
  · obtain ⟨leftWord, leftRead⟩ := exists_readDouble leftTyped leftConforms leftOffered
    rw [readBoolean_compareDoubles shared leftRead rightRead, Double.compareDoubles_null_right,
      op.holds_none]

/-- A comparison is false if an operand is NULL in its own view and in the double view. -/
theorem evaluate_comparison_of_null {declared : ColumnType} {left right : Expr}
    (checked : (Expr.binary declared (.comparison op) left right).check none = .ok type)
    (leftConforms : left.Conforms row) (rightConforms : right.Conforms row)
    (missing : left.readNull row = .ok true ∧ left.readDouble row = .ok Null.double ∨
      right.readNull row = .ok true ∧ right.readDouble row = .ok Null.double) :
    (Expr.binary declared (.comparison op) left right).evaluate row = .ok (.boolean false) := by
  obtain ⟨typed, -⟩ := check_none_iff.mp checked
  cases typed with
  | @comparison _ domain _ _ leftTyped rightTyped shared =>
    refine evaluate_of_boolean rfl ?_
    by_cases asDoubles : domain = .double
    · subst asDoubles
      exact readBoolean_of_null_doubles leftTyped rightTyped leftConforms rightConforms shared
        (missing.imp And.right And.right)
    · exact readBoolean_of_null leftTyped rightTyped leftConforms rightConforms shared asDoubles
        (missing.imp And.left And.left)

/-- Arithmetic over a NULL leaf is NULL, and so is its double view; a comparison with such an
operand on either side is false. -/
theorem evaluate_of_null_leaf (checked : expression.check none = .ok type)
    (arithmetic : expression.IsArithmetic)
    (cells : ∀ leaf ∈ expression.columns, ∃ value, row.cell leaf.2.position = .ok value ∧
      value.fits leaf.1 = true)
    (nullLeaf : expression.HasNullLeaf row) :
    expression.evaluate row = .ok .null ∧
      (∃ word, expression.readDouble row = .ok word ∧ word.isNaN = true) ∧
      ∀ (declared answer : ColumnType) (op : ComparisonOp) (other : Expr), other.Conforms row →
        ((Expr.binary declared (.comparison op) expression other).check none = .ok answer →
          (Expr.binary declared (.comparison op) expression other).evaluate row =
            .ok (.boolean false)) ∧
        ((Expr.binary declared (.comparison op) other expression).check none = .ok answer →
          (Expr.binary declared (.comparison op) other expression).evaluate row =
            .ok (.boolean false)) := by
  obtain ⟨typed, -⟩ := check_none_iff.mp checked
  have conforms := arithmetic.conforms cells
  have offered := arithmetic.offers_double typed
  have read := readDouble_of_hasNullLeaf typed conforms offered nullLeaf
  have missing := readNull_of_hasNullLeaf typed conforms offered nullLeaf
  refine ⟨evaluate_of_hasNullLeaf typed conforms offered nullLeaf,
    ⟨Null.double, read, Double.isNaN_iff.mpr rfl⟩, ?_⟩
  intro declared answer op other otherConforms
  refine ⟨fun accepted => ?_, fun accepted => ?_⟩
  · exact evaluate_comparison_of_null accepted conforms otherConforms (Or.inl ⟨missing, read⟩)
  · exact evaluate_comparison_of_null accepted otherConforms conforms (Or.inr ⟨missing, read⟩)

/-- A half divided by the negative of a missing integer plus one is NULL, and not less than
five. -/
theorem evaluate_of_null_divisor :
    (Expr.binary .double (.arithmetic .divide)
        (.constant .double (.double (Float.ofBits 0x3FE0000000000000)))
        (.unary .int .negate
          (.binary .int (.arithmetic .add) (.atPosition 0 .int) (.ofInt 1)))).evaluate
      (.cells [.null]) = .ok .null ∧
    (Expr.binary .boolean (.comparison .less)
        (.binary .double (.arithmetic .divide)
          (.constant .double (.double (Float.ofBits 0x3FE0000000000000)))
          (.unary .int .negate
            (.binary .int (.arithmetic .add) (.atPosition 0 .int) (.ofInt 1))))
        (.ofInt 5)).evaluate (.cells [.null]) = .ok (.boolean false) := by
  have checked : (Expr.binary .double (.arithmetic .divide)
      (.constant .double (.double (Float.ofBits 0x3FE0000000000000)))
      (.unary .int .negate
        (.binary .int (.arithmetic .add) (.atPosition 0 .int) (.ofInt 1)))).check none =
          .ok .double := rfl
  have nullLeaf : (Expr.binary .double (.arithmetic .divide)
      (.constant .double (.double (Float.ofBits 0x3FE0000000000000)))
      (.unary .int .negate
        (.binary .int (.arithmetic .add) (.atPosition 0 .int) (.ofInt 1)))).HasNullLeaf
          (.cells [.null]) := Or.inr (Or.inl rfl)
  obtain ⟨value, -, comparisons⟩ := evaluate_of_null_leaf checked ⟨rfl, rfl, rfl⟩
    (List.forall_mem_singleton.mpr ⟨.null, rfl, rfl⟩) nullLeaf
  exact ⟨value, (comparisons .boolean .boolean .less (.ofInt 5) nofun).1 rfl⟩

end Expr

end Columnar
