/-
This file proves that an expression sees nothing of a row but the cells of its columns. On two rows
with the same cells there, every view of the expression answers the same or raises the same fault,
however the expression is declared. An expression that reads no column therefore answers alike on
every row, and on the row without cells, which is what constants are evaluated against.
-/

import Columnar.Proofs.Meaning

namespace Columnar

namespace Expr

variable {row other : Row} {expression operand left right : Expr} {type : ColumnType}

/-- The rows hold the same cells at every column of the expression. -/
def SameCells (row other : Row) (expression : Expr) : Prop :=
  ∀ leaf ∈ expression.columns, row.cell leaf.2.position = other.cell leaf.2.position

theorem SameCells.cell {source : Column} (same : (Expr.column type source).SameCells row other) :
    row.cell source.position = other.cell source.position :=
  same (type, source) (List.mem_singleton.mpr rfl)

theorem SameCells.operands {op : BinaryOp}
    (same : (Expr.binary type op left right).SameCells row other) :
    left.SameCells row other ∧ right.SameCells row other :=
  ⟨fun leaf member => same leaf (List.mem_append_left _ member),
    fun leaf member => same leaf (List.mem_append_right _ member)⟩

/-- All rows are the same to an expression that reads no column. -/
theorem sameCells_of_isConstant (constant : expression.isConstant = true) (row other : Row) :
    expression.SameCells row other := by
  intro leaf member
  rw [columns_of_isConstant constant] at member
  cases member

/-- The number that an expression means depends on its cells alone. -/
theorem number?_congr (same : expression.SameCells row other) :
    expression.number? row = expression.number? other := by
  induction expression with
  | column type source => simp only [number?, Row.value, same.cell]
  | constant type value => rfl
  | unary type op operand inductionHypothesis =>
    replace inductionHypothesis := inductionHypothesis same
    cases op <;> simp only [number?, inductionHypothesis]
  | binary type op left right leftHypothesis rightHypothesis =>
    cases op <;> simp only [number?, leftHypothesis same.operands.1,
      rightHypothesis same.operands.2]

/-! ### The views -/

theorem readInt_congr (same : expression.SameCells row other) :
    expression.readInt row = expression.readInt other := by
  induction expression with
  | column type source => simp only [readInt, Row.readInt, same.cell]
  | constant type value => cases value <;> rfl
  | unary type op operand inductionHypothesis =>
    replace inductionHypothesis := inductionHypothesis same
    cases op <;> simp only [readInt, inductionHypothesis]
  | binary type op left right leftHypothesis rightHypothesis =>
    simp only [readInt, leftHypothesis same.operands.1, rightHypothesis same.operands.2]

theorem readLong_congr (same : expression.SameCells row other) :
    expression.readLong row = expression.readLong other := by
  induction expression with
  | column type source =>
    have ints := readInt_congr same
    cases type <;> simp only [readLong, ints, Row.readLong, Row.readDate, same.cell]
  | constant type value =>
    have ints : (Expr.constant type value).readInt row = (Expr.constant type value).readInt other :=
      readInt_congr same
    cases value <;> simp only [readLong, ints]
  | unary type op operand inductionHypothesis =>
    have ints := readInt_congr same
    replace inductionHypothesis := inductionHypothesis same
    cases op <;> simp only [readLong, ints, inductionHypothesis]
  | binary type op left right leftHypothesis rightHypothesis =>
    have ints := readInt_congr same
    simp only [readLong, ints, leftHypothesis same.operands.1, rightHypothesis same.operands.2]

theorem readDate_congr (same : expression.SameCells row other) :
    expression.readDate row = expression.readDate other := by
  unfold readDate
  rw [readLong_congr same]

theorem readDouble_congr (same : expression.SameCells row other) :
    expression.readDouble row = expression.readDouble other := by
  -- Stated before the induction, the integer views become part of its hypotheses.
  have ints := readInt_congr same
  have longs := readLong_congr same
  induction expression with
  | column type source => simp only [readDouble, ints, longs, Row.readDouble, same.cell]
  | constant type value => cases value <;> simp only [readDouble, ints, longs]
  | unary type op operand inductionHypothesis =>
    have operandDoubles : operand.readDouble row = operand.readDouble other :=
      inductionHypothesis same (readInt_congr same) (readLong_congr same)
    cases op <;> simp only [readDouble, ints, longs, operandDoubles]
  | binary type op left right leftHypothesis rightHypothesis =>
    obtain ⟨leftSame, rightSame⟩ := same.operands
    have leftInts := readInt_congr leftSame
    have rightInts := readInt_congr rightSame
    have leftLongs := readLong_congr leftSame
    have rightLongs := readLong_congr rightSame
    simp only [readDouble, leftInts, rightInts, leftLongs, rightLongs,
      leftHypothesis leftSame leftInts leftLongs, rightHypothesis rightSame rightInts rightLongs]

theorem readCode_congr (same : expression.SameCells row other) :
    expression.readCode row = expression.readCode other := by
  cases expression with
  | column type source =>
    cases type with
    | symbol =>
      show row.readCode source.position = other.readCode source.position
      rw [Row.readCode, Row.readCode, same.cell]
    | boolean | int | long | double | date | string => rfl
  | constant type value => cases type <;> cases value <;> rfl
  | unary | binary => rfl

theorem readText_congr (same : expression.SameCells row other) :
    expression.readText row = expression.readText other := by
  cases expression with
  | column type source =>
    cases type with
    | string => simp only [readText, Row.readText, same.cell]
    | symbol => simp only [readText, Row.readCode, same.cell]
    | boolean | int | long | double | date => rfl
  | constant type value => cases type <;> cases value <;> rfl
  | unary | binary => rfl

theorem readNull_congr (same : expression.SameCells row other) :
    expression.readNull row = expression.readNull other := by
  unfold readNull
  rw [readInt_congr same, readLong_congr same, readDate_congr same, readDouble_congr same,
    readCode_congr same, readText_congr same]

theorem readBoolean_congr (same : expression.SameCells row other) :
    expression.readBoolean row = expression.readBoolean other := by
  induction expression with
  | column type source => simp only [readBoolean, Row.readBoolean, same.cell]
  | constant type value => cases value <;> rfl
  | unary type op operand inductionHypothesis =>
    have nulls : operand.readNull row = operand.readNull other := readNull_congr same
    replace inductionHypothesis := inductionHypothesis same
    cases op <;> simp only [readBoolean, nulls, inductionHypothesis]
  | binary type op left right leftHypothesis rightHypothesis =>
    obtain ⟨leftSame, rightSame⟩ := same.operands
    replace leftHypothesis := leftHypothesis leftSame
    replace rightHypothesis := rightHypothesis rightSame
    cases op with
    | arithmetic op => simp only [readBoolean]
    | logical op => cases op <;> simp only [readBoolean, leftHypothesis, rightHypothesis]
    | comparison op =>
      simp only [readBoolean, leftHypothesis, rightHypothesis, readLong_congr leftSame,
        readLong_congr rightSame, readDouble_congr leftSame, readDouble_congr rightSame,
        readText_congr leftSame, readText_congr rightSame, readCode_congr leftSame,
        readCode_congr rightSame]

/-- An expression evaluates alike on rows with the same cells at its columns. -/
theorem evaluate_congr (same : expression.SameCells row other) :
    expression.evaluate row = expression.evaluate other := by
  unfold evaluate
  rw [readBoolean_congr same, readInt_congr same, readLong_congr same, readDouble_congr same,
    readDate_congr same, readCode_congr same, readText_congr same]

end Expr

end Columnar
