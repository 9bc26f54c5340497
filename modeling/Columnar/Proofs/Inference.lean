/-
This file proves that inference and the check agree, although each asks for the types in a way of
its own. Inference looks at the declarations of the operands of one node, and the check goes through
the whole expression; so they can only agree where the operands have been confirmed. There the check
does to a node what inference does, and then compares the declaration with the type that inference
found. An expression is therefore declared rightly if and only if building it again from its leaves,
with every type inferred, gives the same expression.
-/

import Columnar.Proofs.Typing

namespace Columnar

/-- What the report of operands that an operation is not defined on is made of: the word for the
operation, the type of the first operand, and that of the second one where there is one. -/
def TypingError.undefined? : TypingError → Option (String × ColumnType × Option ColumnType)
  | .invalidOperand op operand => some (op.symbol, operand, none)
  | .invalidOperands op left right => some (op.symbol, left, some right)
  | .misdeclared _ _ | .notCondition _ | .unfitConstant _ _ => none
  | .missingColumn _ _ | .missingTable _ => none

namespace Expr

variable {expression operand left right : Expr} {declared : ColumnType}

/-- The expression built again from its leaves, with the type of every operation inferred. -/
def rebuild : Expr → Except TypingError Expr
  | .column type source => .ok (.column type source)
  | .constant type value => inferConstant type value
  | .unary _ op operand => do inferUnary op (← operand.rebuild)
  | .binary _ op left right => do inferBinary op (← left.rebuild) (← right.rebuild)

/-! ### What inference builds -/

theorem inferConstant_eq_ok_iff {type : ColumnType} {value : Value} {built : Expr} :
    inferConstant type value = .ok built ↔
      value.fits type = true ∧ built = .constant type value := by
  unfold inferConstant
  split
  · next fits => simp [fits, eq_comm]
  · next unfit => simp [unfit]

theorem inferUnary_eq_ok_iff {op : UnaryOp} {built : Expr} :
    inferUnary op operand = .ok built ↔
      ∃ type, op.outputType? operand.type = some type ∧ built = .unary type op operand := by
  unfold inferUnary
  split
  · next type output => simp [output, eq_comm]
  · next undefined => simp [undefined]

theorem inferBinary_eq_ok_iff {op : BinaryOp} {built : Expr} :
    inferBinary op left right = .ok built ↔
      ∃ type, resultType? op left right left.type right.type = some type ∧
        built = .binary type op left right := by
  unfold inferBinary
  split
  · next type output => simp [output, eq_comm]
  · next undefined => simp [undefined]

/-- Building an expression again gives the same expression if and only if the rules derive it. -/
theorem rebuild_eq_ok_iff : expression.rebuild = .ok expression ↔ expression.WellTyped := by
  induction expression with
  | column type source => exact ⟨fun _ => .column type source, fun _ => rfl⟩
  | constant type value =>
    rw [rebuild, inferConstant_eq_ok_iff]
    constructor
    · rintro ⟨fits, -⟩
      exact .constant fits
    · intro typed
      cases typed with
      | constant fits => exact ⟨fits, rfl⟩
  | unary type op operand inductionHypothesis =>
    rw [wellTyped_unary_iff, ← inductionHypothesis, rebuild]
    cases rebuilt : operand.rebuild with
    | error error => exact ⟨nofun, fun ⟨impossible, _⟩ => nomatch impossible⟩
    | ok built =>
      show inferUnary op built = _ ↔ _
      rw [inferUnary_eq_ok_iff]
      constructor
      · rintro ⟨inferred, output, same⟩
        cases same
        exact ⟨rfl, output⟩
      · rintro ⟨same, output⟩
        cases same
        exact ⟨type, output, rfl⟩
  | binary type op left right leftHypothesis rightHypothesis =>
    rw [wellTyped_binary_iff, ← leftHypothesis, ← rightHypothesis, rebuild]
    cases leftRebuilt : left.rebuild with
    | error error => exact ⟨nofun, fun ⟨impossible, _⟩ => nomatch impossible⟩
    | ok builtLeft =>
      cases rightRebuilt : right.rebuild with
      | error error => exact ⟨nofun, fun ⟨_, impossible, _⟩ => nomatch impossible⟩
      | ok builtRight =>
        show inferBinary op builtLeft builtRight = _ ↔ _
        rw [inferBinary_eq_ok_iff]
        constructor
        · rintro ⟨inferred, output, same⟩
          cases same
          exact ⟨rfl, rfl, output⟩
        · rintro ⟨leftSame, rightSame, output⟩
          cases leftSame
          cases rightSame
          exact ⟨type, output, rfl⟩

/-! ### One node over confirmed operands -/

/-- Over a confirmed operand the check of a node is inference and a comparison of the types. -/
theorem check_unary {op : UnaryOp} {operandType : ColumnType}
    (checked : operand.check none = .ok operandType) :
    (Expr.unary declared op operand).check none =
      (inferUnary op operand).bind fun built =>
        (Expr.unary declared op operand).expectType built.type := by
  obtain ⟨-, rfl⟩ := check_none_iff.mp checked
  rw [check, checked, inferUnary]
  simp only [bind, Except.bind]
  cases op.outputType? operand.type <;> rfl

/-- Over confirmed operands the check of a node is inference and a comparison of the types. -/
theorem check_binary {op : BinaryOp} {leftType rightType : ColumnType}
    (leftChecked : left.check none = .ok leftType)
    (rightChecked : right.check none = .ok rightType) :
    (Expr.binary declared op left right).check none =
      (inferBinary op left right).bind fun built =>
        (Expr.binary declared op left right).expectType built.type := by
  obtain ⟨-, rfl⟩ := check_none_iff.mp leftChecked
  obtain ⟨-, rfl⟩ := check_none_iff.mp rightChecked
  rw [check, leftChecked, rightChecked, inferBinary]
  simp only [bind, Except.bind]
  cases resultType? op left right left.type right.type <;> rfl

/-- The check reports of a node what inference finds: it refuses the operands where inference does,
with the same report, and otherwise reports the inferred type wherever it is not the declared
one. -/
structure ReportsInference (node : Expr) (inferred : Except TypingError Expr)
    (fields : String × ColumnType × Option ColumnType) : Prop where
  undefined (error : TypingError) : inferred = .error error ↔
    node.check none = .error error ∧ error.undefined?.isSome = true
  fields (error : TypingError) : inferred = .error error → error.undefined? = some fields
  misdeclared (built : Expr) : inferred = .ok built → built.type ≠ node.type →
    node.check none = .error (.misdeclared node built.type)

/-- A check that is inference and a comparison of the types reports what inference finds. -/
theorem reportsInference_of_check {node : Expr} {inferred : Except TypingError Expr}
    {fields : String × ColumnType × Option ColumnType}
    (checks : node.check none = inferred.bind fun built => node.expectType built.type)
    (refusal : ∀ error, inferred = .error error → error.undefined? = some fields) :
    node.ReportsInference inferred fields := by
  refine ⟨fun error => ?_, refusal, fun built isBuilt differs => ?_⟩
  · rw [checks]
    cases inferred with
    | error found =>
      have isUndefined := refusal found rfl
      constructor
      · rintro ⟨⟩
        exact ⟨rfl, by rw [isUndefined]; rfl⟩
      · rintro ⟨⟨⟩, -⟩
        rfl
    | ok built =>
      -- The comparison of the types reports no operands.
      refine ⟨nofun, fun ⟨reported, isUndefined⟩ => ?_⟩
      replace reported : node.expectType built.type = .error error := reported
      unfold expectType at reported
      split at reported
      · cases reported
      · cases reported
        cases isUndefined
  · rw [checks, isBuilt]
    exact if_neg differs

theorem reportsInference_unary {op : UnaryOp} {operandType : ColumnType}
    (checked : operand.check none = .ok operandType) :
    (Expr.unary declared op operand).ReportsInference (inferUnary op operand)
      (op.symbol, operandType, none) := by
  refine reportsInference_of_check (check_unary checked) fun error refused => ?_
  obtain ⟨-, rfl⟩ := check_none_iff.mp checked
  unfold inferUnary at refused
  split at refused <;> cases refused
  rfl

theorem reportsInference_binary {op : BinaryOp} {leftType rightType : ColumnType}
    (leftChecked : left.check none = .ok leftType)
    (rightChecked : right.check none = .ok rightType) :
    (Expr.binary declared op left right).ReportsInference (inferBinary op left right)
      (op.symbol, leftType, some rightType) := by
  refine reportsInference_of_check (check_binary leftChecked rightChecked) fun error refused => ?_
  obtain ⟨-, rfl⟩ := check_none_iff.mp leftChecked
  obtain ⟨-, rfl⟩ := check_none_iff.mp rightChecked
  unfold inferBinary at refused
  split at refused <;> cases refused
  rfl

/-- The check accepts an expression if and only if building it again from its leaves, with the type
of every operation inferred, gives the same expression. Of a node whose operands it accepts, it
reports what inference finds. -/
theorem check_iff_rebuild :
    (∀ (expression : Expr) (type : ColumnType), expression.check none = .ok type ↔
      expression.rebuild = .ok expression ∧ expression.type = type) ∧
    (∀ (declared operandType : ColumnType) (op : UnaryOp) (operand : Expr),
      operand.check none = .ok operandType →
        (Expr.unary declared op operand).ReportsInference (inferUnary op operand)
          (op.symbol, operandType, none)) ∧
    (∀ (declared leftType rightType : ColumnType) (op : BinaryOp) (left right : Expr),
      left.check none = .ok leftType → right.check none = .ok rightType →
        (Expr.binary declared op left right).ReportsInference (inferBinary op left right)
          (op.symbol, leftType, some rightType)) := by
  refine ⟨fun expression type => ?_, ?_, ?_⟩
  · rw [check_none_iff, rebuild_eq_ok_iff]
  · intro declared operandType op operand checked
    exact reportsInference_unary checked
  · intro declared leftType rightType op left right leftChecked rightChecked
    exact reportsInference_binary leftChecked rightChecked

/-- A sum of two small integers that is declared as a long one is reported with the type that
inference finds, and a sum of an integer and a string with both of their types. -/
theorem check_iff_rebuild_sum :
    (Expr.binary .long (.arithmetic .add) (.ofInt 1) (.ofInt 2)).check none =
        .error (.misdeclared (.binary .long (.arithmetic .add) (.ofInt 1) (.ofInt 2)) .int) ∧
      (Expr.binary .long (.arithmetic .add) (.ofInt 1) (.ofString "2")).check none =
        .error (.invalidOperands (.arithmetic .add) .int .string) := by
  obtain ⟨-, -, reports⟩ := check_iff_rebuild
  have narrow := reports .long .int .int (.arithmetic .add) (.ofInt 1) (.ofInt 2) rfl rfl
  have mixed := reports .long .int .string (.arithmetic .add) (.ofInt 1) (.ofString "2") rfl rfl
  exact ⟨narrow.misdeclared _ rfl (by decide), ((mixed.undefined _).mp rfl).1⟩

end Expr

end Columnar
