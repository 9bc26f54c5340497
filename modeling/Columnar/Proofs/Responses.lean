/-
This file proves that every evaluation is answered (`evaluation_cases`), whatever the four texts are
that it is given. Literals of one type make constants of it, and an operation that is defined on the
type builds an expression over them that the rules derive; such an expression reads no column, so it
has a value, and the double view where its type has one. An evaluation therefore fails only where
one of five tests does, and with the causes of the first one in their order. The tests are stated
here each for itself, where the program makes one only after the other ones have passed. What the
program as a whole leaves behind follows for every command line that is accepted as an evaluation.
-/

import Columnar.Command.Report
import Columnar.Proofs.Arguments
import Columnar.Proofs.Soundness

namespace Columnar

namespace Value

variable {type : ColumnType} {text : String} {value : Value}

/-! ### Literals -/

theorem fits_readTyped (read : readTyped type text = .ok value) : value.fits type = true := by
  cases type with
  | boolean =>
    replace read : readBoolean text = .ok value := read
    unfold readBoolean at read
    split at read
    · cases read
      rfl
    · split at read <;> cases read
      rfl
  | int =>
    replace read : readInt text = .ok value := read
    unfold readInt at read
    split at read <;> cases read
    exact (proper_ofInt _).1
  | long =>
    replace read : readLong text = .ok value := read
    unfold readLong at read
    split at read <;> cases read
    exact (proper_ofLong _).1
  | double =>
    replace read : readDouble text = .ok value := read
    unfold readDouble at read
    split at read <;> cases read
    exact (proper_ofDouble _).1
  | date =>
    replace read : readDate text = .ok value := read
    unfold readDate at read
    split at read <;> cases read
    exact (proper_ofDate _).1
  | symbol =>
    replace read : readSymbol text = .ok value := read
    unfold readSymbol at read
    split at read
    · split at read <;> cases read
      rfl
    · cases read
  | string =>
    cases read
    rfl

/-- A literal of a type fits the type. -/
theorem fits_read (read : Value.read type text = .ok value) : value.fits type = true := by
  unfold Value.read at read
  dsimp only at read
  split at read
  · cases read
    rfl
  · exact fits_readTyped read

end Value

namespace Expr

variable {op : BinaryOp} {left right : Expr}

/-! ### Operands of one type -/

/-- On expressions of one type an operation is defined as on the type. -/
theorem resultType?_of_same_type (same : left.type = right.type) :
    resultType? op left right left.type right.type = op.outputType? left.type right.type := by
  unfold resultType?
  split
  · next refused =>
    obtain ⟨compares, apart⟩ := Bool.and_eq_true_iff.mp refused
    have undefined := domain?_eq_none_of_same_type same (Option.isNone_iff_eq_none.mp apart)
    cases op with
    | comparison op => rw [BinaryOp.outputType?, undefined, Option.map_none]
    | arithmetic | logical => cases compares
  · rfl

end Expr

namespace Command

variable {op type left right : String}

/-! ### The tests of an evaluation -/

/-- The name is that of a type. A test that fails gives the causes that are reported. -/
def typeTest (type : String) : Option (List String) :=
  match ColumnType.ofName? type with
  | some _ => none
  | none => some ["Unknown physical type: " ++ type]

/-- The name is that of an operation. -/
def operationTest (op : String) : Option (List String) :=
  match BinaryOp.ofName? op with
  | some _ => none
  | none => some ["Unknown operator: " ++ op]

/-- The text is a literal of the type. -/
def literalTest (side : Side) (type text : String) : Option (List String) :=
  match ColumnType.ofName? type with
  | some type =>
    match Value.read type text with
    | .ok _ => none
    | .error cause => some (("Failed to parse " ++ side.name ++ " operand") :: cause.chain)
  | none => none

/-- The operation has a result on two values of the type. -/
def resultTest (op type : String) : Option (List String) :=
  match BinaryOp.ofName? op, ColumnType.ofName? type with
  | some op, some type =>
    match op.outputType? type type with
    | some _ => none
    | none => some [TypingError.undefinedOn op.symbol type (some type)]
  | _, _ => none

/-- The tests of an evaluation in their order. -/
def tests (op type left right : String) : List (Option (List String)) :=
  [typeTest type, operationTest op, literalTest .left type left, literalTest .right type right,
    resultTest op type]

/-- The expression that an evaluation asks for. -/
def Denotes (op type left right : String) (expression : Expr) : Prop :=
  ∃ columnType operation leftValue rightValue result,
    ColumnType.ofName? type = some columnType ∧ BinaryOp.ofName? op = some operation ∧
      Value.read columnType left = .ok leftValue ∧ Value.read columnType right = .ok rightValue ∧
      operation.outputType? columnType columnType = some result ∧
      expression = .binary result operation (.constant columnType leftValue)
        (.constant columnType rightValue)

/-- What is shown of an expression: the expression with its type, then its value, and a third line
with its double view if and only if the type is that of integers or timestamps. -/
def Shows (expression : Expr) (output : String) : Prop :=
  ∃ value lines, expression.evaluate .empty = .ok value ∧
    lines = expression.render ++ " :: " ++ expression.type.name ++ "\n= " ++ value.render ++ "\n" ∧
    (expression.type ∈ [.int, .long, .date] ∧ (∃ double,
        expression.readDouble .empty = .ok double ∧
          output = lines ++ "= " ++ Value.doubleStyle.render double ++ " (as DOUBLE)\n") ∨
      expression.type ∉ [.int, .long, .date] ∧ output = lines)

/-! ### What is shown -/

theorem showsDouble_iff {type : ColumnType} :
    showsDouble type = true ↔ type ∈ [.int, .long, .date] := by
  cases type <;> decide

theorem offers_double_of_showsDouble {type : ColumnType} (shown : showsDouble type = true) :
    type.offers .double = true := by
  cases type <;> first | rfl | cases shown

/-- A constant expression that the rules derive is shown. -/
theorem exists_results {expression : Expr} (typed : expression.WellTyped)
    (constant : expression.isConstant = true) :
    ∃ output, results expression = .ok output ∧ Shows expression output := by
  have conforms := Expr.conforms_of_isConstant constant .empty
  obtain ⟨value, evaluates, -⟩ := Expr.exists_evaluate typed conforms
  by_cases shown : showsDouble expression.type = true
  · obtain ⟨double, read⟩ :=
      Expr.exists_readDouble typed conforms (offers_double_of_showsDouble shown)
    refine ⟨_, ?_, value, _, evaluates, rfl,
      Or.inl ⟨showsDouble_iff.mp shown, double, read, rfl⟩⟩
    simp only [results, evaluates, read, shown, bind, Except.bind, if_true]
    rfl
  · refine ⟨_, ?_, value, _, evaluates, rfl, Or.inr ⟨mt showsDouble_iff.mpr shown, rfl⟩⟩
    simp only [results, evaluates, if_neg shown, bind, Except.bind]
    rfl

/-- Where an operation has a result on two values of a type, it is shown of any two literals. -/
theorem exists_results_of_literals {type result : ColumnType} {operation : BinaryOp}
    {leftValue rightValue : Value} (leftFits : leftValue.fits type = true)
    (rightFits : rightValue.fits type = true)
    (output : operation.outputType? type type = some result) :
    ∃ text, results (.binary result operation (.constant type leftValue)
        (.constant type rightValue)) = .ok text ∧
      Shows (.binary result operation (.constant type leftValue)
        (.constant type rightValue)) text := by
  have typed : (Expr.binary result operation (.constant type leftValue)
      (.constant type rightValue)).WellTyped := by
    refine Expr.wellTyped_binary_iff.mpr ⟨.constant leftFits, .constant rightFits, ?_⟩
    exact (Expr.resultType?_of_same_type (by rfl)).trans output
  exact exists_results typed rfl

/-! ### Each test in its turn -/

theorem mapError_ok {Error Other Result : Type} {report : Error → Other} {result : Result} :
    (Except.ok result).mapError report = .ok result := rfl

theorem mapError_error {Error Other Result : Type} {report : Error → Other} {error : Error} :
    (Except.error error : Except Error Result).mapError report = .error (report error) := rfl

/-- A test fails, and so does the evaluation: with the causes of the first test to fail, and with
exit code 1. -/
def FailsAsTested (op type left right : String) : Prop :=
  ∃ error, evaluation op type left right = .error error ∧ error.exitCode = 1 ∧
    (tests op type left right).findSome? id = some error.chain

/-- No test fails, and the evaluation shows the expression that it asks for. -/
def ShowsAsTested (op type left right : String) : Prop :=
  ∃ expression output, evaluation op type left right = .ok output ∧
    Denotes op type left right expression ∧ Shows expression output ∧
    (tests op type left right).findSome? id = none

theorem fails_of_unknown_type (unknown : ColumnType.ofName? type = none) :
    FailsAsTested op type left right := by
  refine ⟨.unknownType ⟨type⟩, ?_, rfl, ?_⟩
  · simp only [evaluation, expression, ColumnType.ofName, unknown, mapError_error, bind,
      Except.bind]
  · simp only [tests, typeTest, unknown, List.findSome?_cons, id]
    rfl

section KnownType

variable {columnType : ColumnType} {operation : BinaryOp} {leftValue rightValue : Value}
  {cause : LiteralError} (typeKnown : ColumnType.ofName? type = some columnType)

include typeKnown

theorem fails_of_unknown_operation (unknown : BinaryOp.ofName? op = none) :
    FailsAsTested op type left right := by
  refine ⟨.unknownOperation op, ?_, rfl, ?_⟩
  · simp only [evaluation, expression, ColumnType.ofName, typeKnown, unknown, mapError_ok, bind,
      Except.bind, throw, throwThe, MonadExceptOf.throw]
  · simp only [tests, typeTest, operationTest, typeKnown, unknown, List.findSome?_cons, id]
    rfl

variable (opKnown : BinaryOp.ofName? op = some operation)

include opKnown

theorem fails_of_left_literal (leftFails : Value.read columnType left = .error cause) :
    FailsAsTested op type left right := by
  refine ⟨.literal .left cause, ?_, rfl, ?_⟩
  · simp only [evaluation, expression, ColumnType.ofName, typeKnown, opKnown, leftFails,
      mapError_ok, mapError_error, bind, Except.bind]
  · simp only [tests, typeTest, operationTest, literalTest, typeKnown, opKnown, leftFails,
      List.findSome?_cons, id]
    rfl

variable (leftRead : Value.read columnType left = .ok leftValue)

include leftRead

theorem fails_of_right_literal (rightFails : Value.read columnType right = .error cause) :
    FailsAsTested op type left right := by
  refine ⟨.literal .right cause, ?_, rfl, ?_⟩
  · simp only [evaluation, expression, ColumnType.ofName, typeKnown, opKnown, leftRead,
      rightFails, mapError_ok, mapError_error, bind, Except.bind]
  · simp only [tests, typeTest, operationTest, literalTest, typeKnown, opKnown, leftRead,
      rightFails, List.findSome?_cons, id]
    rfl

variable (rightRead : Value.read columnType right = .ok rightValue)

include rightRead

/-- Over two literals only the test of the operation is left. -/
theorem findSome?_tests_of_literals :
    (tests op type left right).findSome? id = resultTest op type := by
  simp only [tests, typeTest, operationTest, literalTest, typeKnown, opKnown, leftRead, rightRead,
    List.findSome?_cons, List.findSome?_nil, id]
  cases resultTest op type <;> rfl

/-- Two literals of a type are combined as inference combines constants of the type. -/
theorem expression_of_literals :
    expression op type left right =
      (Expr.inferBinary operation (.constant columnType leftValue)
        (.constant columnType rightValue)).mapError .typing := by
  have leftFits := Value.fits_read leftRead
  have rightFits := Value.fits_read rightRead
  simp only [expression, ColumnType.ofName, typeKnown, opKnown, leftRead, rightRead,
    Expr.inferConstant, leftFits, rightFits, mapError_ok, bind, Except.bind, if_true]

/-- Two literals are refused where the operation has no result on their type, and shown where it
has one. -/
theorem cases_of_literals :
    FailsAsTested op type left right ∨ ShowsAsTested op type left right := by
  have tested := findSome?_tests_of_literals typeKnown opKnown leftRead rightRead
  have combines := expression_of_literals typeKnown opKnown leftRead rightRead
  have sameType : (Expr.constant columnType leftValue).type =
      (Expr.constant columnType rightValue).type := rfl
  rw [Expr.inferBinary, Expr.resultType?_of_same_type sameType] at combines
  simp only [Expr.type] at combines
  simp only [resultTest, opKnown, typeKnown] at tested
  cases defined : operation.outputType? columnType columnType with
  | none =>
    rw [defined] at combines tested
    refine Or.inl ⟨.typing (.invalidOperands operation columnType columnType), ?_, rfl, tested⟩
    rw [evaluation, combines]
    rfl
  | some result =>
    rw [defined] at combines tested
    obtain ⟨output, shown, shows⟩ := exists_results_of_literals (Value.fits_read leftRead)
      (Value.fits_read rightRead) defined
    refine Or.inr ⟨_, output, ?_, ?_, shows, tested⟩
    · rw [evaluation, combines]
      simp only [mapError_ok, bind, Except.bind, shown]
    · exact ⟨columnType, operation, leftValue, rightValue, result, typeKnown, opKnown, leftRead,
        rightRead, defined, rfl⟩

end KnownType

/-! ### Every evaluation is answered -/

/-- Whatever its four texts are, an evaluation fails as the first of its tests to fail, or none of
them fails and it shows the expression that it asks for. -/
theorem evaluation_cases (op type left right : String) :
    FailsAsTested op type left right ∨ ShowsAsTested op type left right := by
  cases typeKnown : ColumnType.ofName? type with
  | none => exact Or.inl (fails_of_unknown_type typeKnown)
  | some columnType =>
    cases opKnown : BinaryOp.ofName? op with
    | none => exact Or.inl (fails_of_unknown_operation typeKnown opKnown)
    | some operation =>
      cases leftRead : Value.read columnType left with
      | error cause => exact Or.inl (fails_of_left_literal typeKnown opKnown leftRead)
      | ok leftValue =>
        cases rightRead : Value.read columnType right with
        | error cause => exact Or.inl (fails_of_right_literal typeKnown opKnown leftRead rightRead)
        | ok rightValue => exact cases_of_literals typeKnown opKnown leftRead rightRead

/-! ### Accepted command lines -/

/-- An accepted evaluation is answered with the text that it shows, or with the report of its
failure. -/
theorem respond_of_accepted {command : Command}
    (accepted : ofArguments (evaluationArguments op type left right) = .ok command) :
    respond (evaluationArguments op type left right) =
      match evaluation op type left right with
      | .ok output => ⟨output, "", 0⟩
      | .error error => ⟨"", error.report, error.exitCode⟩ := by
  obtain rfl := eq_evaluate_of_accepted accepted
  rw [respond, accepted]
  rfl

/-- So every evaluation that is accepted is answered with exit code 0 or 1, and raises no fault. It
fails if and only if one of its tests does: it then shows nothing, and its report is that of the
first test to fail in their order. Otherwise it shows the expression that it asks for. -/
theorem respond_evaluation {command : Command}
    (accepted : ofArguments (evaluationArguments op type left right) = .ok command) :
    ((respond (evaluationArguments op type left right)).exitCode = 0 ∨
        (respond (evaluationArguments op type left right)).exitCode = 1) ∧
      ((respond (evaluationArguments op type left right)).exitCode = 1 ↔
        ∃ test ∈ tests op type left right, test.isSome = true) ∧
      (∀ causes, (tests op type left right).findSome? id = some causes →
        respond (evaluationArguments op type left right) =
          ⟨"", CommandError.layout causes, 1⟩) ∧
      ((∀ test ∈ tests op type left right, test = none) →
        ∃ expression output, Denotes op type left right expression ∧ Shows expression output ∧
          respond (evaluationArguments op type left right) = ⟨output, "", 0⟩) := by
  have answer := respond_of_accepted accepted
  rcases evaluation_cases op type left right with
    ⟨error, fails, exitCode, first⟩ | ⟨expression, output, shown, denotes, shows, noneFails⟩
  · have failing : ∃ test ∈ tests op type left right, test.isSome = true := by
      obtain ⟨test, member, failed⟩ := List.exists_of_findSome?_eq_some first
      exact ⟨test, member, Option.isSome_of_mem failed⟩
    replace answer : respond (evaluationArguments op type left right) =
        ⟨"", CommandError.layout error.chain, 1⟩ := by
      rw [answer, fails, ← exitCode]
      rfl
    rw [answer]
    refine ⟨Or.inr rfl, iff_of_true rfl failing, ?_, ?_⟩
    · intro causes found
      rw [Option.some.inj (first.symm.trans found)]
    · intro allPass
      obtain ⟨test, member, failed⟩ := failing
      rw [allPass test member] at failed
      cases failed
  · have passing := List.findSome?_eq_none_iff.mp noneFails
    replace answer : respond (evaluationArguments op type left right) = ⟨output, "", 0⟩ := by
      rw [answer, shown]
    rw [answer]
    refine ⟨Or.inl rfl, iff_of_false (by simp) ?_, ?_, ?_⟩
    · rintro ⟨test, member, failed⟩
      rw [show test = none from passing test member] at failed
      cases failed
    · intro causes found
      rw [noneFails] at found
      cases found
    · exact fun _ => ⟨expression, output, denotes, shows, rfl⟩

/-- Two integers are divided. Of two texts that are no booleans the left one is reported. -/
theorem respond_evaluation_shown_and_refused :
    (∃ expression output, Denotes "div" "int" "7" "2" expression ∧ Shows expression output ∧
        respond (evaluationArguments "div" "int" "7" "2") = ⟨output, "", 0⟩) ∧
      respond (evaluationArguments "lt" "boolean" "yes" "2") =
        ⟨"", "Error: Failed to parse left operand\n\nCaused by:\n" ++
          "    Invalid boolean literal: yes\n", 1⟩ := by
  have divides : ofArguments (evaluationArguments "div" "int" "7" "2") =
      .ok (.evaluate "div" "int" "7" "2") := ofArguments_eval _
  have compares : ofArguments (evaluationArguments "lt" "boolean" "yes" "2") =
      .ok (.evaluate "lt" "boolean" "yes" "2") := ofArguments_eval _
  have passes : ∀ test ∈ tests "div" "int" "7" "2", test = none := by decide +kernel
  have fails : (tests "lt" "boolean" "yes" "2").findSome? id =
      some ["Failed to parse left operand", "Invalid boolean literal: yes"] := by decide +kernel
  have refused := (respond_evaluation compares).2.2.1 _ fails
  refine ⟨(respond_evaluation divides).2.2.2 passes, refused.trans ?_⟩
  decide +kernel

example : respond (evaluationArguments "div" "int" "7" "2") =
    ⟨"(7 / 2) :: INT\n= 3\n= 3.5 (as DOUBLE)\n", "", 0⟩ := by decide +kernel

end Command

end Columnar
