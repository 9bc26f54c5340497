/-
This file proves which node of an expression the check reports. A node offends by itself, whatever
is below it: its operands are taken at the types that they declare. The check visits the nodes in
one order, operands before their node and the left one first, and the report is that of the first
node in this order that offends. The declarations of the operands can be trusted there, for by then
they have been confirmed. With the types of a row's cells the check asks nothing more than without,
but that each column has the type of the cell that it reads.
-/

import Columnar.Proofs.Typing

namespace Columnar.Expr

variable {schema : Option Schema} {expression operand left right node : Expr} {type : ColumnType}
  {error : TypingError}

/-! ### Offences -/

/-- What is wrong with a node that declares another type than it computes. -/
def misdeclaration? (node : Expr) (computed : ColumnType) : Option TypingError :=
  if computed = node.type then none else some (.misdeclared node computed)

/-- What is wrong with a node by itself, if its operands have the types that they declare. -/
def offence? (schema : Option Schema) (node : Expr) : Option TypingError :=
  match node with
  | .column _ source =>
    match schema with
    | none => none
    | some types =>
      match types[source.position]? with
      | some computed => node.misdeclaration? computed
      | none => some (.missingColumn source.position types.length)
  | .constant type value => if value.fits type then none else some (.unfitConstant value type)
  | .unary _ op operand =>
    match op.outputType? operand.type with
    | some computed => node.misdeclaration? computed
    | none => some (.invalidOperand op operand.type)
  | .binary _ op left right =>
    match resultType? op left right left.type right.type with
    | some computed => node.misdeclaration? computed
    | none => some (.invalidOperands op left.type right.type)

/-- The nodes of an expression, each as the expression that it is the root of, in the order in which
the check comes to its verdicts. -/
def postorder : Expr → List Expr
  | .column type source => [.column type source]
  | .constant type value => [.constant type value]
  | .unary type op operand => operand.postorder ++ [.unary type op operand]
  | .binary type op left right => left.postorder ++ right.postorder ++ [.binary type op left right]

/-- The verdict on a node with a declared type. -/
def verdict (type : ColumnType) : Option TypingError → Except TypingError ColumnType
  | none => .ok type
  | some error => .error error

theorem verdict_eq_ok_iff {answer : ColumnType} {offence : Option TypingError} :
    verdict type offence = .ok answer ↔ offence = none ∧ type = answer := by
  cases offence with
  | none => exact ⟨fun accepted => ⟨rfl, Except.ok.inj accepted⟩, fun ⟨_, same⟩ => same ▸ rfl⟩
  | some error => exact ⟨nofun, fun ⟨impossible, _⟩ => nomatch impossible⟩

theorem verdict_eq_error_iff {offence : Option TypingError} :
    verdict type offence = .error error ↔ offence = some error := by
  cases offence with
  | none => exact ⟨nofun, nofun⟩
  | some found =>
    exact ⟨fun refused => congrArg some (Except.error.inj refused),
      fun same => congrArg Except.error (Option.some.inj same)⟩

/-! ### The check of one node -/

theorem expectType_eq_verdict (node : Expr) (computed : ColumnType) :
    node.expectType computed = verdict node.type (node.misdeclaration? computed) := by
  unfold expectType misdeclaration?
  split <;> rfl

theorem check_column {source : Column} :
    (Expr.column type source).check schema =
      verdict type ((Expr.column type source).offence? schema) := by
  cases schema with
  | none => exact if_pos rfl
  | some types =>
    rw [check, offence?]
    cases types[source.position]? with
    | none => rfl
    | some computed => exact expectType_eq_verdict _ computed

theorem check_constant {value : Value} :
    (Expr.constant type value).check schema =
      verdict type ((Expr.constant type value).offence? schema) := by
  rw [check, offence?]
  split
  · exact if_pos rfl
  · rfl

/-- A node whose operand is accepted is judged by itself. -/
theorem check_unary_of_ok {op : UnaryOp} (checked : operand.check schema = .ok operand.type) :
    (Expr.unary type op operand).check schema =
      verdict type ((Expr.unary type op operand).offence? schema) := by
  rw [check, checked, offence?]
  simp only [bind, Except.bind]
  cases op.outputType? operand.type with
  | none => rfl
  | some computed => exact expectType_eq_verdict _ computed

/-- A node whose operands are accepted is judged by itself. -/
theorem check_binary_of_ok {op : BinaryOp} (leftChecked : left.check schema = .ok left.type)
    (rightChecked : right.check schema = .ok right.type) :
    (Expr.binary type op left right).check schema =
      verdict type ((Expr.binary type op left right).offence? schema) := by
  rw [check, leftChecked, rightChecked, offence?]
  simp only [bind, Except.bind]
  cases resultType? op left right left.type right.type with
  | none => rfl
  | some computed => exact expectType_eq_verdict _ computed

theorem check_unary_of_error {op : UnaryOp} (refused : operand.check schema = .error error) :
    (Expr.unary type op operand).check schema = .error error := by
  rw [check, refused]
  rfl

theorem check_binary_of_left_error {op : BinaryOp} (refused : left.check schema = .error error) :
    (Expr.binary type op left right).check schema = .error error := by
  rw [check, refused]
  rfl

theorem check_binary_of_right_error {op : BinaryOp} {answer : ColumnType}
    (leftChecked : left.check schema = .ok answer) (refused : right.check schema = .error error) :
    (Expr.binary type op left right).check schema = .error error := by
  rw [check, leftChecked, refused]
  rfl

/-! ### The check of all nodes -/

/-- The check reports the first offence that there is, and accepts where there is none. -/
theorem check_eq_verdict (schema : Option Schema) (expression : Expr) :
    expression.check schema =
      verdict expression.type (expression.postorder.findSome? (offence? schema)) := by
  induction expression with
  | column type source => rw [check_column, postorder, List.findSome?_singleton, Expr.type]
  | constant type value => rw [check_constant, postorder, List.findSome?_singleton, Expr.type]
  | unary type op operand inductionHypothesis =>
    rw [postorder, List.findSome?_append, List.findSome?_singleton]
    cases below : operand.postorder.findSome? (offence? schema) with
    | none =>
      rw [below] at inductionHypothesis
      exact check_unary_of_ok inductionHypothesis
    | some error =>
      rw [below] at inductionHypothesis
      exact check_unary_of_error inductionHypothesis
  | binary type op left right leftHypothesis rightHypothesis =>
    rw [postorder, List.findSome?_append, List.findSome?_append, List.findSome?_singleton]
    cases leftBelow : left.postorder.findSome? (offence? schema) with
    | some error =>
      rw [leftBelow] at leftHypothesis
      exact check_binary_of_left_error leftHypothesis
    | none =>
      rw [leftBelow] at leftHypothesis
      cases rightBelow : right.postorder.findSome? (offence? schema) with
      | some error =>
        rw [rightBelow] at rightHypothesis
        exact check_binary_of_right_error leftHypothesis rightHypothesis
      | none =>
        rw [rightBelow] at rightHypothesis
        exact check_binary_of_ok leftHypothesis rightHypothesis

/-- Nothing in an accepted expression offends. -/
theorem offence?_of_check_eq_ok {answer : ColumnType}
    (checked : expression.check schema = .ok answer) (member : node ∈ expression.postorder) :
    node.offence? schema = none := by
  rw [check_eq_verdict, verdict_eq_ok_iff, List.findSome?_eq_none_iff] at checked
  exact checked.1 node member

/-! ### The first offender -/

/-- The node is the first one of the expression that offends, and the error is what the check gives
for it. -/
structure IsFirstOffender (schema : Option Schema) (error : TypingError)
    (expression offender : Expr) : Prop where
  first : ∃ earlier later, expression.postorder = earlier ++ offender :: later ∧
    ∀ node ∈ earlier, node.offence? schema = none
  offends : offender.offence? schema = some error
  refused : offender.check schema = .error error

variable {part offender : Expr}

/-- The first offender of a part is the first of the whole if nothing before the part offends. -/
theorem IsFirstOffender.of_part (isFirst : IsFirstOffender schema error part offender)
    (before after : List Expr) (clean : ∀ node ∈ before, node.offence? schema = none)
    (around : expression.postorder = before ++ part.postorder ++ after) :
    IsFirstOffender schema error expression offender := by
  obtain ⟨⟨earlier, later, split, fine⟩, offends, refused⟩ := isFirst
  refine ⟨⟨before ++ earlier, later ++ after, ?_, ?_⟩, offends, refused⟩
  · rw [around, split]
    simp only [List.append_assoc, List.cons_append]
  · exact List.forall_mem_append.mpr ⟨clean, fine⟩

/-- A node that is refused over operands in which nothing offends is the first offender itself. -/
theorem isFirstOffender_self (below : List Expr)
    (clean : ∀ node ∈ below, node.offence? schema = none) (last : node.postorder = below ++ [node])
    (refused : node.check schema = .error error) : IsFirstOffender schema error node node := by
  refine ⟨⟨below, [], last, clean⟩, ?_, refused⟩
  rw [check_eq_verdict, verdict_eq_error_iff, last, List.findSome?_append,
    List.findSome?_eq_none_iff.mpr clean, List.findSome?_singleton] at refused
  exact refused

/-- Where the check fails, there is a first offender with its error. -/
theorem exists_isFirstOffender (refused : expression.check schema = .error error) :
    ∃ offender, IsFirstOffender schema error expression offender := by
  induction expression with
  | column | constant =>
    exact ⟨_, isFirstOffender_self [] (List.forall_mem_nil _) rfl refused⟩
  | unary type op operand inductionHypothesis =>
    cases checked : operand.check schema with
    | error found =>
      obtain rfl := Except.error.inj ((check_unary_of_error checked).symm.trans refused)
      obtain ⟨offender, isFirst⟩ := inductionHypothesis checked
      exact ⟨offender, isFirst.of_part [] _ (List.forall_mem_nil _) rfl⟩
    | ok answer =>
      have clean : ∀ node ∈ operand.postorder, node.offence? schema = none :=
        fun _ => offence?_of_check_eq_ok checked
      exact ⟨_, isFirstOffender_self operand.postorder clean rfl refused⟩
  | binary type op left right leftHypothesis rightHypothesis =>
    cases leftChecked : left.check schema with
    | error found =>
      obtain rfl := Except.error.inj ((check_binary_of_left_error leftChecked).symm.trans refused)
      obtain ⟨offender, isFirst⟩ := leftHypothesis leftChecked
      exact ⟨offender, isFirst.of_part [] _ (List.forall_mem_nil _) (List.append_assoc ..)⟩
    | ok leftAnswer =>
      have leftClean : ∀ node ∈ left.postorder, node.offence? schema = none :=
        fun _ => offence?_of_check_eq_ok leftChecked
      cases rightChecked : right.check schema with
      | error found =>
        obtain rfl := Except.error.inj
          ((check_binary_of_right_error leftChecked rightChecked).symm.trans refused)
        obtain ⟨offender, isFirst⟩ := rightHypothesis rightChecked
        exact ⟨offender, isFirst.of_part left.postorder _ leftClean rfl⟩
      | ok rightAnswer =>
        have clean : ∀ node ∈ left.postorder ++ right.postorder, node.offence? schema = none :=
          List.forall_mem_append.mpr
            ⟨leftClean, fun _ => offence?_of_check_eq_ok rightChecked⟩
        exact ⟨_, isFirstOffender_self _ clean rfl refused⟩

/-- Where there is a first offender with an error, the check fails with this error. -/
theorem IsFirstOffender.check_eq_error
    (isFirst : IsFirstOffender schema error expression offender) :
    expression.check schema = .error error := by
  obtain ⟨earlier, later, split, clean⟩ := isFirst.first
  rw [check_eq_verdict, verdict_eq_error_iff]
  exact List.findSome?_eq_some_iff.mpr ⟨earlier, offender, later, split, isFirst.offends, clean⟩

/-- The check against the types of a row's cells accepts what it accepts without them, if each
column has the type of its cell. It fails exactly with the error that it gives for the first node,
operands before their node and the left one first, that offends by itself. -/
theorem check_first_offender :
    (∀ (types : Schema) (expression : Expr) (type : ColumnType),
      expression.check (some types) = .ok type ↔
        expression.check none = .ok type ∧ expression.Declares types) ∧
    (∀ (schema : Option Schema) (expression : Expr) (error : TypingError),
      expression.check schema = .error error ↔
        ∃ offender, IsFirstOffender schema error expression offender) := by
  refine ⟨fun types expression type => ?_, fun schema expression error => ?_⟩
  · rw [check_eq_ok_iff, check_none_iff]
    constructor
    · rintro ⟨typed, same, declares⟩
      exact ⟨⟨typed, same⟩, declares types rfl⟩
    · rintro ⟨⟨typed, same⟩, declares⟩
      refine ⟨typed, same, ?_⟩
      rintro _ ⟨⟩
      exact declares
  · exact ⟨exists_isFirstOffender, fun ⟨_, isFirst⟩ => isFirst.check_eq_error⟩

/-- Of a column beyond the row, a constant of the wrong type and an undefined sum, it is the
constant that is reported where it comes first. -/
theorem check_first_offender_of_three :
    (Expr.binary .long (.arithmetic .add)
        (.unary .long .negate (.constant .long (.boolean true)))
        (.binary .long (.arithmetic .add) (.atPosition 3 .long) (.ofString "2"))).check
      (some [.long]) = .error (.unfitConstant (.boolean true) .long) := by
  refine (check_first_offender.2 _ _ _).mpr ⟨.constant .long (.boolean true), ?_, rfl, rfl⟩
  exact ⟨[], _, rfl, List.forall_mem_nil _⟩

end Columnar.Expr
