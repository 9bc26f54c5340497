/-
This file puts the cells of a row into an expression. Each column gives way to a constant of its own
type that holds the cell, and what comes out reads no column any more. It follows the same rules,
and without any row it answers what the expression answers on that row. Columns of symbols stay out
of this: such a column may have a table for its codes, and a constant has none.
-/

import Columnar.Proofs.Replacement

namespace Columnar

namespace Expr

variable {row otherRow : Row} {expression left right : Expr} {type : ColumnType} {source : Column}
  {value : Value}

/-- The expression with constants for its columns, each with the cell that the row has for it. -/
def fill (row : Row) : Expr → Expr
  | .column type source => .constant type (row.value source.position)
  | .constant type value => .constant type value
  | .unary type op operand => .unary type op (operand.fill row)
  | .binary type op left right => .binary type op (left.fill row) (right.fill row)

theorem fill_type (row : Row) (expression : Expr) :
    (expression.fill row).type = expression.type := by
  cases expression <;> rfl

theorem isConstant_fill (row : Row) (expression : Expr) :
    (expression.fill row).isConstant = true := by
  induction expression with
  | column type source => rfl
  | constant type value => rfl
  | unary type op operand inductionHypothesis => exact inductionHypothesis
  | binary type op left right leftHypothesis rightHypothesis =>
    exact Bool.and_eq_true_iff.mpr ⟨leftHypothesis, rightHypothesis⟩

/-! ### What filling keeps -/

/-- Filling keeps whether a text can be found: the symbols that are left are constants already. -/
theorem resolvesText_fill (typed : expression.WellTyped) (noCodes : expression.ReadsNoCodes)
    (row : Row) (offered : expression.type.offers .text = true) :
    (expression.fill row).resolvesText = expression.resolvesText := by
  rcases ColumnType.offers_text_iff.mp offered with isString | isSymbol
  · rw [resolvesText_of_string isString,
      resolvesText_of_string ((fill_type row expression).trans isString)]
  · rcases leaf_of_offers_text typed offered with ⟨source, shape⟩ | ⟨value, shape, -⟩
    · rw [shape] at noCodes
      exact absurd isSymbol (noCodes _ (List.mem_singleton_self _))
    · rw [shape, fill]

theorem domain?_fill (leftTyped : left.WellTyped) (rightTyped : right.WellTyped)
    (leftNoCodes : left.ReadsNoCodes) (rightNoCodes : right.ReadsNoCodes) (row : Row) :
    (left.fill row).domain? (right.fill row) = left.domain? right :=
  domain?_congr (fill_type row left) (fill_type row right)
    (resolvesText_fill leftTyped leftNoCodes row) (resolvesText_fill rightTyped rightNoCodes row)

/-- A column that is no column of symbols answers like a constant with its cell. -/
theorem column_matches_constant (held : row.cell source.position = .ok value)
    (fits : value.fits type = true) (noCode : type ≠ .symbol) (otherRow : Row) :
    (Expr.column type source).Matches row otherRow (.constant type value) :=
  matches_of_shows (.column held) fits .constant fits ⟨rfl, rfl, rfl, rfl, rfl, rfl⟩
    fun isSymbol => absurd isSymbol noCode

/-! ### Filled expressions -/

theorem wellTyped_fill (typed : expression.WellTyped) (noCodes : expression.ReadsNoCodes)
    (conforms : expression.Conforms row) : (expression.fill row).WellTyped := by
  induction expression with
  | column type source =>
    obtain ⟨value, held, fits, -⟩ := conforms_column.mp conforms
    rw [fill, Row.value_of_cell held]
    exact .constant fits
  | constant type value => exact typed
  | unary type op operand inductionHypothesis =>
    obtain ⟨operandTyped, -⟩ := wellTyped_unary_iff.mp typed
    exact wellTyped_unary_congr typed (inductionHypothesis operandTyped noCodes conforms)
      (fill_type row operand)
  | binary type op left right leftHypothesis rightHypothesis =>
    obtain ⟨leftTyped, rightTyped, -⟩ := wellTyped_binary_iff.mp typed
    obtain ⟨leftNoCodes, rightNoCodes⟩ := readsNoCodes_binary.mp noCodes
    obtain ⟨leftConforms, rightConforms⟩ := conforms_binary.mp conforms
    refine wellTyped_binary_congr typed (leftHypothesis leftTyped leftNoCodes leftConforms)
      (rightHypothesis rightTyped rightNoCodes rightConforms) (fill_type row left)
      (fill_type row right) fun _ shared => ?_
    rw [domain?_fill leftTyped rightTyped leftNoCodes rightNoCodes]
    exact shared

/-- A filled expression answers on any row what the expression answers on the row of its cells. -/
theorem matches_fill (typed : expression.WellTyped) (noCodes : expression.ReadsNoCodes)
    (conforms : expression.Conforms row) (otherRow : Row) :
    expression.Matches row otherRow (expression.fill row) := by
  induction expression with
  | column type source =>
    obtain ⟨value, held, fits, -⟩ := conforms_column.mp conforms
    rw [fill, Row.value_of_cell held]
    exact column_matches_constant held fits (noCodes _ (List.mem_singleton_self _)) otherRow
  | constant type value =>
    exact ⟨rfl, fun view _ _ => read_congr (sameCells_of_isConstant rfl _ _) view⟩
  | unary type op operand inductionHypothesis =>
    obtain ⟨operandTyped, -⟩ := wellTyped_unary_iff.mp typed
    exact matches_unary typed (inductionHypothesis operandTyped noCodes conforms)
  | binary type op left right leftHypothesis rightHypothesis =>
    obtain ⟨leftTyped, rightTyped, -⟩ := wellTyped_binary_iff.mp typed
    obtain ⟨leftNoCodes, rightNoCodes⟩ := readsNoCodes_binary.mp noCodes
    obtain ⟨leftConforms, rightConforms⟩ := conforms_binary.mp conforms
    exact matches_binary typed (leftHypothesis leftTyped leftNoCodes leftConforms)
      (rightHypothesis rightTyped rightNoCodes rightConforms)
      fun _ => domain?_fill leftTyped rightTyped leftNoCodes rightNoCodes row

/-- Take an expression that the check accepts, without columns of symbols, and a row that has for
each column a cell that is NULL or of the column's type. With its columns replaced by these cells
the expression is accepted with the same type, reads no column, and has without any row the value
that the expression has on the row. So it does through every view that the type offers, of which the
text is to be had from strings only. -/
theorem fill_answers_alike (checked : expression.check none = .ok type)
    (noCodes : ∀ leaf ∈ expression.columns, leaf.1 ≠ .symbol)
    (cells : ∀ leaf ∈ expression.columns, ∃ value, row.cell leaf.2.position = .ok value ∧
      value.fits leaf.1 = true) :
    (expression.fill row).check none = .ok type ∧
      (expression.fill row).isConstant = true ∧
      (∃ value, (expression.fill row).evaluate .empty = .ok value ∧
        expression.evaluate row = .ok value) ∧
      ∀ view, type.offers view = true → (view = .text → type = .string) →
        ∃ answer, (expression.fill row).read .empty view = .ok answer ∧
          expression.read row view = .ok answer := by
  obtain ⟨typed, rfl⟩ := check_none_iff.mp checked
  have conforms := conforms_of_cells noCodes cells
  have alike := matches_fill typed noCodes conforms .empty
  have filledTyped := wellTyped_fill typed noCodes conforms
  refine ⟨check_none_iff.mpr ⟨filledTyped, fill_type row expression⟩,
    isConstant_fill row expression, ?_, fun view offered string => ?_⟩
  · obtain ⟨value, evaluates, -⟩ := exists_evaluate typed conforms
    exact ⟨value, alike.evaluate_eq.trans evaluates, evaluates⟩
  · obtain ⟨answer, answers⟩ := exists_read typed conforms offered string
    have same := alike.views view offered fun isText => resolvesText_of_string (string isText)
    exact ⟨answer, same.trans answers, answers⟩

/-- A sum of a long integer and an integer, filled with the cells of a row. -/
theorem fill_answers_alike_mixed_sum :
    ∃ value, ((Expr.binary .long (.arithmetic .add) (.atPosition 0 .long)
        (.atPosition 1 .int)).fill (.cells [.long 40, .int 2])).evaluate .empty = .ok value ∧
      (Expr.binary .long (.arithmetic .add) (.atPosition 0 .long) (.atPosition 1 .int)).evaluate
        (.cells [.long 40, .int 2]) = .ok value :=
  have cells : ∀ leaf ∈ (Expr.binary .long (.arithmetic .add) (.atPosition 0 .long)
      (.atPosition 1 .int)).columns, ∃ value,
        (Row.cells [.long 40, .int 2]).cell leaf.2.position = .ok value ∧
          value.fits leaf.1 = true := by
    exact List.forall_mem_cons.mpr
      ⟨⟨_, rfl, rfl⟩, List.forall_mem_singleton.mpr ⟨_, rfl, rfl⟩⟩
  (fill_answers_alike rfl (by decide) cells).2.2.1

end Expr

end Columnar
