/-
This file says by rules which expressions are declared rightly, and proves that the check accepts
exactly those. The rules give one case for each operation, with the types of its operands spelled
out, where the check asks one table for all of them. Every later file argues by induction on the
rules and never opens the check again. Against the types of a row's cells the check asks one thing
more: each column has the type of the cell that it reads.
-/

import Columnar.Expr.Typing

namespace Columnar

namespace ColumnType

/-- The views that each type offers. A symbol offers its text only where the text can be found. -/
def offers : ColumnType → View → Bool
  | .boolean, .boolean => true
  | .int, .int | .int, .long | .int, .double => true
  | .long, .long | .long, .date | .long, .double => true
  | .date, .date | .date, .long | .date, .double => true
  | .double, .double => true
  | .symbol, .code | .symbol, .text => true
  | .string, .text => true
  | _, _ => false

theorem offers_int_iff {type : ColumnType} : type.offers .int = true ↔ type = .int := by
  cases type <;> decide

theorem offers_long_iff {type : ColumnType} :
    type.offers .long = true ↔ type = .int ∨ type.isLongWord = true := by
  cases type <;> decide

theorem offers_long_iff_mem {type : ColumnType} :
    type.offers .long = true ↔ type ∈ [.int, .long, .date] := by
  cases type <;> decide

theorem offers_date_iff {type : ColumnType} :
    type.offers .date = true ↔ type.isLongWord = true := by
  cases type <;> decide

theorem offers_double_iff {type : ColumnType} :
    type.offers .double = true ↔ type = .double ∨ type.offers .long = true := by
  cases type <;> decide

theorem offers_boolean_iff {type : ColumnType} :
    type.offers .boolean = true ↔ type = .boolean := by
  cases type <;> decide

theorem offers_code_iff {type : ColumnType} : type.offers .code = true ↔ type = .symbol := by
  cases type <;> decide

theorem offers_text_iff {type : ColumnType} :
    type.offers .text = true ↔ type = .string ∨ type = .symbol := by
  cases type <;> decide

end ColumnType

namespace ArithmeticOp

/-! ### The operands of arithmetic -/

variable {op : ArithmeticOp} {left right type : ColumnType}

/-- Integers of 32 bits come from integers of 32 bits alone. -/
theorem operands_of_int (output : op.outputType? left right = some .int) :
    left = .int ∧ right = .int := by
  cases op <;> cases left <;> cases right <;> first | exact ⟨rfl, rfl⟩ | cases output

/-- Whatever gives an integer of 64 bits can be read as one on both sides. -/
theorem operands_of_long (output : op.outputType? left right = some type)
    (long : type.isLongWord = true) :
    left.offers .long = true ∧ right.offers .long = true := by
  cases op <;> cases left <;> cases right <;>
    first | exact ⟨rfl, rfl⟩ | (cases output <;> cases long)

/-- Whatever gives an integer or a timestamp can be read as an integer of 64 bits on both sides. -/
theorem operands_of_offers_long (op : ArithmeticOp)
    (output : op.outputType? left right = some type)
    (offered : type.offers .long = true) :
    left.offers .long = true ∧ right.offers .long = true := by
  rcases ColumnType.offers_long_iff.mp offered with isInt | long
  · rw [isInt] at output
    obtain ⟨leftInt, rightInt⟩ := operands_of_int output
    rw [leftInt, rightInt]
    exact ⟨rfl, rfl⟩
  · exact operands_of_long output long

/-- Whatever gives a double can be read as one on both sides. -/
theorem operands_of_double (output : op.outputType? left right = some .double) :
    left.offers .double = true ∧ right.offers .double = true := by
  cases op <;> cases left <;> cases right <;> first | exact ⟨rfl, rfl⟩ | cases output

/-- The result of arithmetic is a number or a timestamp. -/
theorem offers_double_of_output (output : op.outputType? left right = some type) :
    type.offers .double = true := by
  cases op <;> cases left <;> cases right <;> cases output <;> rfl

end ArithmeticOp

namespace Expr

/-! ### The columns of an expression -/

/-- The column leaves of an expression from left to right, each with its declared type. -/
def columns : Expr → List (ColumnType × Column)
  | .column type source => [(type, source)]
  | .constant _ _ => []
  | .unary _ _ operand => operand.columns
  | .binary _ _ left right => left.columns ++ right.columns

/-- A constant expression has no column. -/
theorem columns_of_isConstant {expression : Expr} (constant : expression.isConstant = true) :
    expression.columns = [] := by
  induction expression with
  | column type source => cases constant
  | constant type value => rfl
  | unary type op operand inductionHypothesis => exact inductionHypothesis constant
  | binary type op left right leftHypothesis rightHypothesis =>
    obtain ⟨leftConstant, rightConstant⟩ := Bool.and_eq_true_iff.mp constant
    rw [columns, leftHypothesis leftConstant, rightHypothesis rightConstant, List.append_nil]

/-- Each column has the type of the cell that it reads. -/
def Declares (schema : Schema) (expression : Expr) : Prop :=
  ∀ leaf ∈ expression.columns, schema[leaf.2.position]? = some leaf.1

theorem declares_column {schema : Schema} {type : ColumnType} {source : Column} :
    (Expr.column type source).Declares schema ↔ schema[source.position]? = some type := by
  simp only [Declares, columns, List.forall_mem_singleton]

theorem declares_binary {schema : Schema} {type : ColumnType} {op : BinaryOp}
    {left right : Expr} :
    (Expr.binary type op left right).Declares schema ↔
      left.Declares schema ∧ right.Declares schema := by
  simp only [Declares, columns, List.forall_mem_append]

/-! ### The rules -/

/-- The expressions that are declared rightly. -/
inductive WellTyped : Expr → Prop
  | column (type : ColumnType) (source : Column) : WellTyped (.column type source)
  | constant {type : ColumnType} {value : Value} (fits : value.fits type = true) :
    WellTyped (.constant type value)
  | negate {operand : Expr} (operandTyped : WellTyped operand)
    (numeric : operand.type.isNumeric = true) : WellTyped (.unary operand.type .negate operand)
  | not {operand : Expr} (operandTyped : WellTyped operand) (condition : operand.type = .boolean) :
    WellTyped (.unary .boolean .not operand)
  | isNull {operand : Expr} (operandTyped : WellTyped operand) :
    WellTyped (.unary .boolean .isNull operand)
  | isNotNull {operand : Expr} (operandTyped : WellTyped operand) :
    WellTyped (.unary .boolean .isNotNull operand)
  | floor (scheme : Scheme) {operand : Expr} (operandTyped : WellTyped operand)
    (timestamp : operand.type = .date) : WellTyped (.unary .date (.floor scheme) operand)
  | arithmetic {op : ArithmeticOp} {type : ColumnType} {left right : Expr}
    (leftTyped : WellTyped left) (rightTyped : WellTyped right)
    (output : op.outputType? left.type right.type = some type) :
    WellTyped (.binary type (.arithmetic op) left right)
  | comparison {op : ComparisonOp} {domain : Domain} {left right : Expr}
    (leftTyped : WellTyped left) (rightTyped : WellTyped right)
    (shared : left.domain? right = some domain) :
    WellTyped (.binary .boolean (.comparison op) left right)
  | logical {op : LogicalOp} {left right : Expr}
    (leftTyped : WellTyped left) (rightTyped : WellTyped right)
    (leftCondition : left.type = .boolean) (rightCondition : right.type = .boolean) :
    WellTyped (.binary .boolean (.logical op) left right)

/-- Expressions that share a domain have types that share one. -/
theorem ofTypes?_of_domain? {left right : Expr} {domain : Domain}
    (shared : left.domain? right = some domain) :
    ∃ broad, Domain.ofTypes? left.type right.type = some broad := by
  unfold domain? at shared
  cases known : Domain.ofTypes? left.type right.type with
  | none =>
    rw [known] at shared
    cases shared
  | some broad => exact ⟨broad, rfl⟩

/-- A comparison is a condition, and it is defined where the operands share a domain. -/
theorem resultType?_comparison {op : ComparisonOp} {left right : Expr} {type : ColumnType} :
    resultType? (.comparison op) left right left.type right.type = some type ↔
      (∃ domain, left.domain? right = some domain) ∧ type = .boolean := by
  unfold resultType?
  cases shared : left.domain? right with
  | none => simp [BinaryOp.isComparison]
  | some domain =>
    obtain ⟨broad, known⟩ := ofTypes?_of_domain? shared
    simp [BinaryOp.isComparison, BinaryOp.outputType?, known, eq_comm]

/-- A logical operation joins two conditions to one. -/
theorem resultType?_logical {op : LogicalOp} {left right : Expr} {type : ColumnType} :
    resultType? (.logical op) left right left.type right.type = some type ↔
      left.type = .boolean ∧ right.type = .boolean ∧ type = .boolean := by
  unfold resultType?
  cases left.type <;> cases right.type <;>
    simp [BinaryOp.isComparison, BinaryOp.outputType?, eq_comm]

/-- The rules for an operation on one operand are those of the table of its results. -/
theorem wellTyped_unary_iff {type : ColumnType} {op : UnaryOp} {operand : Expr} :
    (Expr.unary type op operand).WellTyped ↔
      operand.WellTyped ∧ op.outputType? operand.type = some type := by
  constructor
  · intro typed
    cases typed with
    | negate operandTyped numeric => exact ⟨operandTyped, if_pos numeric⟩
    | not operandTyped condition => exact ⟨operandTyped, by rw [condition]; rfl⟩
    | isNull operandTyped => exact ⟨operandTyped, rfl⟩
    | isNotNull operandTyped => exact ⟨operandTyped, rfl⟩
    | floor scheme operandTyped timestamp => exact ⟨operandTyped, by rw [timestamp]; rfl⟩
  · rintro ⟨operandTyped, output⟩
    cases op with
    | negate =>
      obtain ⟨numeric, same⟩ := Option.ite_none_right_eq_some.mp output
      cases same
      exact .negate operandTyped numeric
    | not =>
      cases known : operand.type <;> rw [known] at output <;> cases output
      exact .not operandTyped known
    | isNull =>
      cases output
      exact .isNull operandTyped
    | isNotNull =>
      cases output
      exact .isNotNull operandTyped
    | floor scheme =>
      cases known : operand.type <;> rw [known] at output <;> cases output
      exact .floor scheme operandTyped known

/-- The rules for an operation on two operands are those of the table of its results. -/
theorem wellTyped_binary_iff {type : ColumnType} {op : BinaryOp} {left right : Expr} :
    (Expr.binary type op left right).WellTyped ↔
      left.WellTyped ∧ right.WellTyped ∧
        resultType? op left right left.type right.type = some type := by
  constructor
  · intro typed
    cases typed with
    | arithmetic leftTyped rightTyped output => exact ⟨leftTyped, rightTyped, output⟩
    | comparison leftTyped rightTyped shared =>
      exact ⟨leftTyped, rightTyped, resultType?_comparison.mpr ⟨⟨_, shared⟩, rfl⟩⟩
    | logical leftTyped rightTyped leftCondition rightCondition =>
      exact ⟨leftTyped, rightTyped,
        resultType?_logical.mpr ⟨leftCondition, rightCondition, rfl⟩⟩
  · rintro ⟨leftTyped, rightTyped, output⟩
    cases op with
    | arithmetic op => exact .arithmetic leftTyped rightTyped output
    | comparison op =>
      obtain ⟨⟨domain, shared⟩, rfl⟩ := resultType?_comparison.mp output
      exact .comparison leftTyped rightTyped shared
    | logical op =>
      obtain ⟨leftCondition, rightCondition, rfl⟩ := resultType?_logical.mp output
      exact .logical leftTyped rightTyped leftCondition rightCondition

/-! ### The check follows the rules -/

theorem expectType_eq_ok_iff {node : Expr} {computed type : ColumnType} :
    node.expectType computed = .ok type ↔ computed = node.type ∧ node.type = type := by
  unfold expectType
  split
  · next same => simp [same]
  · next differs => simp [differs]

/-- The check accepts an expression if and only if the rules derive it and its columns have the
types of their cells, where these are known. The type that it answers is the declared one. -/
theorem check_eq_ok_iff {schema : Option Schema} {expression : Expr} {type : ColumnType} :
    expression.check schema = .ok type ↔
      expression.WellTyped ∧ expression.type = type ∧
        ∀ types, schema = some types → expression.Declares types := by
  induction expression generalizing type with
  | column declared source =>
    cases schema with
    | none =>
      rw [check, expectType_eq_ok_iff]
      exact ⟨fun ⟨_, same⟩ => ⟨.column _ _, same, nofun⟩, fun ⟨_, same, _⟩ => ⟨rfl, same⟩⟩
    | some types =>
      rw [check]
      cases known : types[source.position]? with
      | none => simp [declares_column, known]
      | some computed =>
        simp only [expectType_eq_ok_iff, Option.some.injEq, forall_eq', declares_column, known]
        exact ⟨fun ⟨same, answer⟩ => ⟨.column _ _, answer, same⟩,
          fun ⟨_, answer, same⟩ => ⟨same, answer⟩⟩
  | constant declared value =>
    have noColumns (types : Schema) : (Expr.constant declared value).Declares types :=
      List.forall_mem_nil _
    rw [check]
    split
    · next fits =>
      rw [expectType_eq_ok_iff]
      exact ⟨fun ⟨_, same⟩ => ⟨.constant fits, same, fun types _ => noColumns types⟩,
        fun ⟨_, same, _⟩ => ⟨rfl, same⟩⟩
    · next unfit =>
      refine ⟨nofun, fun ⟨typed, _⟩ => ?_⟩
      cases typed with
      | constant fits => exact absurd fits unfit
  | unary declared op operand inductionHypothesis =>
    rw [check, wellTyped_unary_iff]
    cases checked : operand.check schema with
    | error error =>
      refine ⟨nofun, fun ⟨⟨operandTyped, _⟩, _, declares⟩ => ?_⟩
      rw [inductionHypothesis.mpr ⟨operandTyped, rfl, declares⟩] at checked
      cases checked
    | ok operandType =>
      obtain ⟨operandTyped, rfl, declares⟩ := inductionHypothesis.mp checked
      simp only [bind, Except.bind]
      cases output : op.outputType? operand.type with
      | none => simp [throw, throwThe, MonadExceptOf.throw]
      | some computed =>
        simp only [expectType_eq_ok_iff, Option.some.injEq]
        exact ⟨fun ⟨same, answer⟩ => ⟨⟨operandTyped, same⟩, answer, declares⟩,
          fun ⟨⟨_, same⟩, answer, _⟩ => ⟨same, answer⟩⟩
  | binary declared op left right leftHypothesis rightHypothesis =>
    rw [check, wellTyped_binary_iff]
    cases leftChecked : left.check schema with
    | error error =>
      refine ⟨nofun, fun ⟨⟨leftTyped, _⟩, _, declares⟩ => ?_⟩
      rw [leftHypothesis.mpr ⟨leftTyped, rfl,
        fun types known => (declares_binary.mp (declares types known)).1⟩] at leftChecked
      cases leftChecked
    | ok leftType =>
      obtain ⟨leftTyped, rfl, leftDeclares⟩ := leftHypothesis.mp leftChecked
      cases rightChecked : right.check schema with
      | error error =>
        refine ⟨nofun, fun ⟨⟨_, rightTyped, _⟩, _, declares⟩ => ?_⟩
        rw [rightHypothesis.mpr ⟨rightTyped, rfl,
          fun types known => (declares_binary.mp (declares types known)).2⟩] at rightChecked
        cases rightChecked
      | ok rightType =>
        obtain ⟨rightTyped, rfl, rightDeclares⟩ := rightHypothesis.mp rightChecked
        have declares (types : Schema) (known : schema = some types) :
            (Expr.binary declared op left right).Declares types :=
          declares_binary.mpr ⟨leftDeclares types known, rightDeclares types known⟩
        simp only [bind, Except.bind]
        cases output : resultType? op left right left.type right.type with
        | none => simp [throw, throwThe, MonadExceptOf.throw]
        | some computed =>
          simp only [expectType_eq_ok_iff, Option.some.injEq]
          exact ⟨fun ⟨same, answer⟩ => ⟨⟨leftTyped, rightTyped, same⟩, answer, declares⟩,
            fun ⟨⟨_, _, same⟩, answer, _⟩ => ⟨same, answer⟩⟩

/-- Without a schema the check decides the rules. -/
theorem check_none_iff {expression : Expr} {type : ColumnType} :
    expression.check none = .ok type ↔ expression.WellTyped ∧ expression.type = type := by
  rw [check_eq_ok_iff]
  exact ⟨fun ⟨typed, same, _⟩ => ⟨typed, same⟩, fun ⟨typed, same⟩ => ⟨typed, same, nofun⟩⟩

end Expr

end Columnar
