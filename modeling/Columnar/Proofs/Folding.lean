/-
This file says when folding keeps the values of an expression. Whatever the rules derive folds to an
expression of the same type with the same columns, so folding raises no fault. By induction on the
rules every node keeps the views of its own type, as long as its operands keep the views that it
reads. Only operations and comparisons of doubles read an operand through another view than its own,
and only constants are replaced, so one condition is left: every constant integer expression that is
read as a double widens exactly. It cannot be done without, for a constant that fails it is changed
by folding as soon as it is added to a double.
-/

import Columnar.Proofs.FoldedViews

namespace Columnar

namespace Expr

variable {row : Row} {folded operand foldedLeft foldedRight left right : Expr} {type : ColumnType}

/-! ### Nodes over folded operands -/

/-- Integer nodes with the same number have the same double view, away from arithmetic on two
operands. -/
theorem readDouble_eq_of_number {node other : Expr} (typed : node.WellTyped)
    (otherTyped : other.WellTyped) (conforms : node.Conforms row)
    (otherConforms : other.Conforms row) (sameType : node.type = other.type)
    (offered : other.type.offers .long = true) (shape : node.IsNoOperation)
    (otherShape : other.IsNoOperation) (same : node.number? row = other.number? row) :
    node.readDouble row = other.readDouble row := by
  rw [readDouble_of_isNoOperation typed conforms (sameType ▸ offered) shape,
    readDouble_of_isNoOperation otherTyped otherConforms offered otherShape, same]

theorem agrees_negate (stands : folded.StandsFor row operand)
    (numeric : operand.type.isNumeric = true) :
    (Expr.unary operand.type .negate folded).Agrees row (.unary operand.type .negate operand) := by
  have foldedTyped : (Expr.unary operand.type .negate folded).WellTyped := by
    rw [← stands.keeps.type]
    exact .negate stands.keeps.typed (stands.keeps.type ▸ numeric)
  have number (offered : operand.type.offers .long = true) :
      (Expr.unary operand.type .negate folded).number? row =
        (Expr.unary operand.type .negate operand).number? row := by
    rw [number?, number?, stands.agrees.number offered]
  refine ⟨number, ?_, ?_, ?_⟩
  · intro isDouble
    replace isDouble : operand.type = .double := isDouble
    obtain ⟨word, read⟩ := exists_readDouble stands.typed stands.conforms (by rw [isDouble]; rfl)
    have foldedRead := (stands.agrees.double isDouble).trans read
    rw [isDouble, readDouble_negate read, readDouble_negate foldedRead]
  · intro isBoolean
    replace isBoolean : operand.type = .boolean := isBoolean
    rw [isBoolean] at numeric
    cases numeric
  · intro offered _
    exact readDouble_eq_of_number foldedTyped (.negate stands.typed numeric)
      stands.foldedConforms stands.conforms rfl offered trivial trivial (number offered)

theorem agrees_not (stands : folded.StandsFor row operand) (condition : operand.type = .boolean) :
    (Expr.unary .boolean .not folded).Agrees row (.unary .boolean .not operand) := by
  obtain ⟨word, read, -⟩ := exists_readBoolean stands.typed stands.conforms condition
  have foldedRead := (stands.agrees.boolean condition).trans read
  refine agrees_of_boolean rfl ?_
  rw [readBoolean_not read, readBoolean_not foldedRead]

theorem agrees_isNull (stands : folded.StandsFor row operand) :
    (Expr.unary .boolean .isNull folded).Agrees row (.unary .boolean .isNull operand) := by
  refine agrees_of_boolean rfl ?_
  rw [readBoolean_isNull, readBoolean_isNull, stands.readNull_eq]

theorem agrees_isNotNull (stands : folded.StandsFor row operand) :
    (Expr.unary .boolean .isNotNull folded).Agrees row (.unary .boolean .isNotNull operand) := by
  obtain ⟨missing, read, -⟩ := exists_readNull stands.typed stands.conforms
  have foldedRead := stands.readNull_eq.trans read
  refine agrees_of_boolean rfl ?_
  rw [readBoolean_isNotNull read, readBoolean_isNotNull foldedRead]

theorem agrees_floor (scheme : Scheme) (stands : folded.StandsFor row operand)
    (timestamp : operand.type = .date) :
    (Expr.unary .date (.floor scheme) folded).Agrees row
      (.unary .date (.floor scheme) operand) := by
  have number : (Expr.unary .date (.floor scheme) folded).number? row =
      (Expr.unary .date (.floor scheme) operand).number? row := by
    rw [number?, number?, stands.agrees.number (by rw [timestamp]; rfl)]
  have foldedTyped : (Expr.unary .date (.floor scheme) folded).WellTyped :=
    .floor scheme stands.keeps.typed (stands.keeps.type.trans timestamp)
  refine ⟨fun _ => number, ?_, ?_, ?_⟩
  · intro isDouble
    cases isDouble
  · intro isBoolean
    cases isBoolean
  · intro _ _
    exact readDouble_eq_of_number foldedTyped (.floor scheme stands.typed timestamp)
      stands.foldedConforms stands.conforms rfl rfl trivial trivial number

/-- Folded operands meet in the domain of the originals. -/
theorem domain?_eq_of_keeps (leftKeeps : foldedLeft.Keeps left)
    (rightKeeps : foldedRight.Keeps right) :
    foldedLeft.domain? foldedRight = left.domain? right :=
  domain?_congr leftKeeps.type rightKeeps.type
    (fun offered => congrArg resolvesText (leftKeeps.leaf offered))
    fun offered => congrArg resolvesText (rightKeeps.leaf offered)

section Binary

variable (leftStands : foldedLeft.StandsFor row left)
  (rightStands : foldedRight.StandsFor row right)

include leftStands rightStands

theorem agrees_arithmetic {op : ArithmeticOp}
    (output : op.outputType? left.type right.type = some type)
    (exact : (Expr.binary type (.arithmetic op) left right).FoldsExactly) :
    (Expr.binary type (.arithmetic op) foldedLeft foldedRight).Agrees row
      (.binary type (.arithmetic op) left right) := by
  have foldedTyped : (Expr.binary type (.arithmetic op) foldedLeft foldedRight).WellTyped := by
    refine .arithmetic leftStands.keeps.typed rightStands.keeps.typed ?_
    rw [leftStands.keeps.type, rightStands.keeps.type]
    exact output
  have operandNumbers (offered : type.offers .long = true) :
      foldedLeft.number? row = left.number? row ∧
        foldedRight.number? row = right.number? row := by
    obtain ⟨leftOffered, rightOffered⟩ := op.operands_of_offers_long output offered
    exact ⟨leftStands.agrees.number leftOffered, rightStands.agrees.number rightOffered⟩
  refine ⟨?_, ?_, ?_, ?_⟩
  · intro offered
    obtain ⟨leftNumber, rightNumber⟩ := operandNumbers offered
    rw [number?, number?, leftNumber, rightNumber]
  · intro isDouble
    obtain rfl : type = .double := isDouble
    obtain ⟨leftOffered, rightOffered⟩ := ArithmeticOp.operands_of_double output
    obtain ⟨leftExact, rightExact⟩ := exact.doubles (Or.inl rfl)
    obtain ⟨leftWord, leftRead⟩ :=
      exists_readDouble leftStands.typed leftStands.conforms leftOffered
    obtain ⟨rightWord, rightRead⟩ :=
      exists_readDouble rightStands.typed rightStands.conforms rightOffered
    rw [readDouble_arithmetic leftRead rightRead, readDouble_arithmetic
      ((leftStands.readDouble_eq leftOffered leftExact).trans leftRead)
      ((rightStands.readDouble_eq rightOffered rightExact).trans rightRead)]
  · intro isBoolean
    obtain rfl : type = .boolean := isBoolean
    cases ArithmeticOp.offers_double_of_output output
  · intro offered _
    -- The node stays an operation, and its double view is that of the numbers of its operands.
    obtain ⟨leftNumber, rightNumber⟩ := operandNumbers offered
    rw [readDouble_eq_integerAsDouble foldedTyped
        (conforms_binary.mpr ⟨leftStands.foldedConforms, rightStands.foldedConforms⟩) offered,
      readDouble_eq_integerAsDouble (.arithmetic leftStands.typed rightStands.typed output)
        (conforms_binary.mpr ⟨leftStands.conforms, rightStands.conforms⟩) offered,
      integerAsDouble, integerAsDouble, leftNumber, rightNumber]

theorem agrees_comparison {op : ComparisonOp} {domain : Domain}
    (shared : left.domain? right = some domain)
    (exact : (Expr.binary .boolean (.comparison op) left right).FoldsExactly) :
    (Expr.binary .boolean (.comparison op) foldedLeft foldedRight).Agrees row
      (.binary .boolean (.comparison op) left right) := by
  have foldedShared : foldedLeft.domain? foldedRight = some domain :=
    (domain?_eq_of_keeps leftStands.keeps rightStands.keeps).trans shared
  refine agrees_of_boolean rfl ?_
  cases domain with
  | integer =>
    obtain ⟨leftOffered, rightOffered⟩ := offers_long_of_integer shared
    rw [readBoolean_of_integer leftStands.keeps.typed rightStands.keeps.typed
        leftStands.foldedConforms rightStands.foldedConforms foldedShared,
      readBoolean_of_integer leftStands.typed rightStands.typed leftStands.conforms
        rightStands.conforms shared,
      leftStands.agrees.number leftOffered, rightStands.agrees.number rightOffered]
  | double =>
    obtain ⟨leftOffered, rightOffered, someDouble⟩ := offers_double_of_double shared
    obtain ⟨leftExact, rightExact⟩ := exact.doubles (Or.inr ⟨rfl, someDouble⟩)
    obtain ⟨leftWord, leftRead⟩ :=
      exists_readDouble leftStands.typed leftStands.conforms leftOffered
    obtain ⟨rightWord, rightRead⟩ :=
      exists_readDouble rightStands.typed rightStands.conforms rightOffered
    rw [readBoolean_compareDoubles shared leftRead rightRead,
      readBoolean_compareDoubles foldedShared
        ((leftStands.readDouble_eq leftOffered leftExact).trans leftRead)
        ((rightStands.readDouble_eq rightOffered rightExact).trans rightRead)]
  | boolean =>
    obtain ⟨leftCondition, rightCondition⟩ := type_of_boolean shared
    obtain ⟨leftWord, leftRead, -⟩ :=
      exists_readBoolean leftStands.typed leftStands.conforms leftCondition
    obtain ⟨rightWord, rightRead, -⟩ :=
      exists_readBoolean rightStands.typed rightStands.conforms rightCondition
    rw [readBoolean_compareBooleans shared leftRead rightRead,
      readBoolean_compareBooleans foldedShared
        ((leftStands.agrees.boolean leftCondition).trans leftRead)
        ((rightStands.agrees.boolean rightCondition).trans rightRead)]
  | text =>
    obtain ⟨⟨leftOffered, -⟩, rightOffered, -⟩ := offers_text_of_text shared
    rw [leftStands.keeps.leaf leftOffered, rightStands.keeps.leaf rightOffered]
  | code =>
    obtain ⟨leftSymbol, rightSymbol⟩ := type_of_code shared
    rw [leftStands.keeps.leaf (ColumnType.offers_text_iff.mpr (Or.inr leftSymbol)),
      rightStands.keeps.leaf (ColumnType.offers_text_iff.mpr (Or.inr rightSymbol))]

theorem agrees_logical {op : LogicalOp} (leftCondition : left.type = .boolean)
    (rightCondition : right.type = .boolean) :
    (Expr.binary .boolean (.logical op) foldedLeft foldedRight).Agrees row
      (.binary .boolean (.logical op) left right) := by
  obtain ⟨leftWord, leftRead, -⟩ :=
    exists_readBoolean leftStands.typed leftStands.conforms leftCondition
  obtain ⟨rightWord, rightRead, -⟩ :=
    exists_readBoolean rightStands.typed rightStands.conforms rightCondition
  have foldedLeftRead := (leftStands.agrees.boolean leftCondition).trans leftRead
  have foldedRightRead := (rightStands.agrees.boolean rightCondition).trans rightRead
  refine agrees_of_boolean rfl ?_
  cases op with
  | and =>
    rw [readBoolean_and leftRead rightRead, readBoolean_and foldedLeftRead foldedRightRead]
  | or => rw [readBoolean_or leftRead rightRead, readBoolean_or foldedLeftRead foldedRightRead]

end Binary

/-! ### Folding -/

/-- An expression folds to another one, which stands for it on every row, provided that constants
which are read as doubles widen exactly. -/
structure FoldsTo (original folded : Expr) : Prop where
  folds : original.fold = .ok folded
  keeps : folded.Keeps original
  agrees : ∀ row, original.Conforms row → original.FoldsExactly → folded.Agrees row original

theorem FoldsTo.stands {original : Expr} (foldsTo : original.FoldsTo folded)
    (typed : original.WellTyped) (conforms : original.Conforms row)
    (exact : original.FoldsExactly) : folded.StandsFor row original :=
  ⟨foldsTo.keeps, foldsTo.agrees row conforms exact, typed, conforms⟩

/-- A node on one operand folds if its operand does. -/
theorem exists_foldsTo_unary {op : UnaryOp} (foldsTo : operand.FoldsTo folded)
    (operandTyped : operand.WellTyped) (typed : (Expr.unary type op folded).WellTyped)
    (noText : type.offers .text = false)
    (agrees : ∀ row, folded.StandsFor row operand →
      (Expr.unary type op folded).Agrees row (.unary type op operand)) :
    ∃ whole, (Expr.unary type op operand).FoldsTo whole := by
  have sameType : (Expr.unary type op folded).type = (Expr.unary type op operand).type := rfl
  obtain ⟨whole, collapses, wholeKeeps, wholeAgrees⟩ :=
    exists_collapse typed sameType foldsTo.keeps.columns foldsTo.keeps.isConstant noText
  refine ⟨whole, ?_, wholeKeeps, fun row conforms exact => wholeAgrees row ?_⟩
  · rw [fold, foldsTo.folds]
    exact collapses
  · exact agrees row (foldsTo.stands operandTyped conforms exact)

/-- A node on two operands folds if its operands do. -/
theorem exists_foldsTo_binary {op : BinaryOp} (leftFoldsTo : left.FoldsTo foldedLeft)
    (rightFoldsTo : right.FoldsTo foldedRight) (leftTyped : left.WellTyped)
    (rightTyped : right.WellTyped) (typed : (Expr.binary type op foldedLeft foldedRight).WellTyped)
    (noText : type.offers .text = false)
    (agrees : ∀ row, foldedLeft.StandsFor row left → foldedRight.StandsFor row right →
      (Expr.binary type op left right).FoldsExactly →
        (Expr.binary type op foldedLeft foldedRight).Agrees row (.binary type op left right)) :
    ∃ whole, (Expr.binary type op left right).FoldsTo whole := by
  have sameType : (Expr.binary type op foldedLeft foldedRight).type =
      (Expr.binary type op left right).type := rfl
  have sameColumns : (Expr.binary type op foldedLeft foldedRight).columns =
      (Expr.binary type op left right).columns := by
    rw [columns, columns, leftFoldsTo.keeps.columns, rightFoldsTo.keeps.columns]
  have sameConstant : (Expr.binary type op foldedLeft foldedRight).isConstant =
      (Expr.binary type op left right).isConstant := by
    rw [isConstant, isConstant, leftFoldsTo.keeps.isConstant, rightFoldsTo.keeps.isConstant]
  obtain ⟨whole, collapses, wholeKeeps, wholeAgrees⟩ :=
    exists_collapse typed sameType sameColumns sameConstant noText
  refine ⟨whole, ?_, wholeKeeps, fun row conforms exact => wholeAgrees row ?_⟩
  · rw [fold, leftFoldsTo.folds, rightFoldsTo.folds]
    exact collapses
  · obtain ⟨leftConforms, rightConforms⟩ := conforms_binary.mp conforms
    exact agrees row (leftFoldsTo.stands leftTyped leftConforms exact.operands.1)
      (rightFoldsTo.stands rightTyped rightConforms exact.operands.2) exact

/-- Whatever the rules derive folds. -/
theorem exists_foldsTo {expression : Expr} (typed : expression.WellTyped) :
    ∃ folded, expression.FoldsTo folded := by
  induction typed with
  | column type source =>
    exact ⟨_, rfl, ⟨.column type source, rfl, rfl, rfl, nofun, fun _ => rfl⟩,
      fun row _ _ => .refl row _⟩
  | @constant type value fits =>
    exact ⟨_, rfl, ⟨.constant fits, rfl, rfl, rfl, fun _ => ⟨value, rfl⟩, fun _ => rfl⟩,
      fun row _ _ => .refl row _⟩
  | @negate operand operandTyped numeric inductionHypothesis =>
    obtain ⟨folded, foldsTo⟩ := inductionHypothesis
    have typed : (Expr.unary operand.type .negate folded).WellTyped := by
      rw [← foldsTo.keeps.type]
      exact .negate foldsTo.keeps.typed (foldsTo.keeps.type ▸ numeric)
    have noText : operand.type.offers .text = false := by
      cases known : operand.type <;> rw [known] at numeric <;> first | rfl | cases numeric
    exact exists_foldsTo_unary foldsTo operandTyped typed noText
      fun row stands => agrees_negate stands numeric
  | not operandTyped condition inductionHypothesis =>
    obtain ⟨folded, foldsTo⟩ := inductionHypothesis
    have typed := WellTyped.not foldsTo.keeps.typed (foldsTo.keeps.type.trans condition)
    exact exists_foldsTo_unary foldsTo operandTyped typed rfl
      fun row stands => agrees_not stands condition
  | isNull operandTyped inductionHypothesis =>
    obtain ⟨folded, foldsTo⟩ := inductionHypothesis
    exact exists_foldsTo_unary foldsTo operandTyped (.isNull foldsTo.keeps.typed) rfl
      fun row stands => agrees_isNull stands
  | isNotNull operandTyped inductionHypothesis =>
    obtain ⟨folded, foldsTo⟩ := inductionHypothesis
    exact exists_foldsTo_unary foldsTo operandTyped (.isNotNull foldsTo.keeps.typed) rfl
      fun row stands => agrees_isNotNull stands
  | floor scheme operandTyped timestamp inductionHypothesis =>
    obtain ⟨folded, foldsTo⟩ := inductionHypothesis
    have typed := WellTyped.floor scheme foldsTo.keeps.typed (foldsTo.keeps.type.trans timestamp)
    exact exists_foldsTo_unary foldsTo operandTyped typed rfl
      fun row stands => agrees_floor scheme stands timestamp
  | @arithmetic op type left right leftTyped rightTyped output leftHypothesis rightHypothesis =>
    obtain ⟨foldedLeft, leftFoldsTo⟩ := leftHypothesis
    obtain ⟨foldedRight, rightFoldsTo⟩ := rightHypothesis
    have typed : (Expr.binary type (.arithmetic op) foldedLeft foldedRight).WellTyped := by
      refine .arithmetic leftFoldsTo.keeps.typed rightFoldsTo.keeps.typed ?_
      rw [leftFoldsTo.keeps.type, rightFoldsTo.keeps.type]
      exact output
    have noText : type.offers .text = false := by
      have asDouble := ArithmeticOp.offers_double_of_output output
      cases type <;> first | rfl | cases asDouble
    exact exists_foldsTo_binary leftFoldsTo rightFoldsTo leftTyped rightTyped typed noText
      fun row leftStands rightStands exact => agrees_arithmetic leftStands rightStands output exact
  | @comparison op domain left right leftTyped rightTyped shared leftHypothesis rightHypothesis =>
    obtain ⟨foldedLeft, leftFoldsTo⟩ := leftHypothesis
    obtain ⟨foldedRight, rightFoldsTo⟩ := rightHypothesis
    have typed : (Expr.binary .boolean (.comparison op) foldedLeft foldedRight).WellTyped :=
      .comparison leftFoldsTo.keeps.typed rightFoldsTo.keeps.typed
        ((domain?_eq_of_keeps leftFoldsTo.keeps rightFoldsTo.keeps).trans shared)
    exact exists_foldsTo_binary leftFoldsTo rightFoldsTo leftTyped rightTyped typed rfl
      fun row leftStands rightStands exact => agrees_comparison leftStands rightStands shared exact
  | @logical op left right leftTyped rightTyped leftCondition rightCondition leftHypothesis
      rightHypothesis =>
    obtain ⟨foldedLeft, leftFoldsTo⟩ := leftHypothesis
    obtain ⟨foldedRight, rightFoldsTo⟩ := rightHypothesis
    have typed : (Expr.binary .boolean (.logical op) foldedLeft foldedRight).WellTyped :=
      .logical leftFoldsTo.keeps.typed rightFoldsTo.keeps.typed
        (leftFoldsTo.keeps.type.trans leftCondition) (rightFoldsTo.keeps.type.trans rightCondition)
    exact exists_foldsTo_binary leftFoldsTo rightFoldsTo leftTyped rightTyped typed rfl
      fun row leftStands rightStands _ =>
        agrees_logical leftStands rightStands leftCondition rightCondition

/-- What an expression keeps when it is folded is all that a checker looks at. -/
theorem Keeps.check_eq_ok {schema : Option Schema} {original : Expr} (keeps : folded.Keeps original)
    (checked : original.check schema = .ok type) : folded.check schema = .ok type := by
  obtain ⟨-, sameType, declares⟩ := check_eq_ok_iff.mp checked
  refine check_eq_ok_iff.mpr ⟨keeps.typed, keeps.type.trans sameType, fun types known => ?_⟩
  rw [Declares, keeps.columns]
  exact declares types known

/-- Folding an accepted expression raises no fault, though it evaluates parts that evaluation would
skip. The checker, with its schema or without one, accepts the outcome at the same type, and it is
constant if and only if the expression is. -/
theorem check_fold {schema : Option Schema} {expression : Expr}
    (checked : expression.check schema = .ok type) :
    ∃ folded, expression.fold = .ok folded ∧ folded.check schema = .ok type ∧
      folded.isConstant = expression.isConstant := by
  obtain ⟨folded, foldsTo⟩ := exists_foldsTo (check_eq_ok_iff.mp checked).1
  exact ⟨folded, foldsTo.folds, foldsTo.keeps.check_eq_ok checked, foldsTo.keeps.isConstant⟩

/-- A division by zero that the disjunction skips is folded, next to a column that stays. -/
theorem check_fold_skipped_division :
    ∃ folded, (Expr.binary .boolean (.logical .and)
        (.unary .boolean .isNull (.column .long ⟨0, none, none⟩))
        (.binary .boolean (.logical .or)
          (.binary .boolean (.comparison .equal) (.ofInt 1) (.ofInt 1))
          (.binary .boolean (.comparison .greater)
            (.binary .int (.arithmetic .divide) (.ofInt 5) (.ofInt 0)) (.ofInt 2)))).fold =
          .ok folded ∧
      folded.check (some [.long]) = .ok .boolean ∧ folded.isConstant = false :=
  check_fold rfl

/-! ### Adding a constant to a double -/

/-- No integer expression reads an operand as a double, at any depth. -/
theorem doubleOperands_of_offers_long {expression : Expr} (typed : expression.WellTyped)
    (offered : expression.type.offers .long = true) : expression.doubleOperands = [] := by
  induction typed with
  | column | constant => rfl
  | negate operandTyped numeric inductionHypothesis => exact inductionHypothesis offered
  | floor scheme operandTyped timestamp inductionHypothesis =>
    exact inductionHypothesis (by rw [timestamp]; rfl)
  | @arithmetic op type left right leftTyped rightTyped output leftHypothesis rightHypothesis =>
    replace offered : type.offers .long = true := offered
    obtain ⟨leftOffered, rightOffered⟩ := op.operands_of_offers_long output offered
    have notDouble : type ≠ .double := by
      rintro rfl
      cases offered
    rw [doubleOperands, leftHypothesis leftOffered, rightHypothesis rightOffered, if_neg]
    · rfl
    · exact not_or.mpr ⟨notDouble, nofun⟩
  | not | isNull | isNotNull | comparison | logical => cases offered

/-- The sum of an expression and the negative zero, which changes no double. -/
def plusNegativeZero (expression : Expr) : Expr :=
  .binary .double (.arithmetic .add) expression (.constant .double (.double Double.negativeZero))

/-- The sum is accepted for every integer expression that is. -/
theorem check_plusNegativeZero {expression : Expr} (checked : expression.check none = .ok type)
    (integer : type.isInteger = true) : expression.plusNegativeZero.check none = .ok .double := by
  obtain ⟨typed, rfl⟩ := check_none_iff.mp checked
  have output : ArithmeticOp.add.outputType? expression.type .double = some .double := by
    cases known : expression.type <;> rw [known] at integer <;> first | rfl | cases integer
  exact check_none_iff.mpr ⟨.arithmetic typed (.constant rfl) output, rfl⟩

/-- The value of the sum is the double view of the expression. -/
theorem evaluate_plusNegativeZero {expression : Expr} {word : Float}
    (read : expression.readDouble row = .ok word) :
    expression.plusNegativeZero.evaluate row = .ok (.ofDouble word) := by
  have zero : (Expr.constant .double (.double Double.negativeZero)).readDouble row =
      .ok Double.negativeZero := readDouble_constant rfl
  have sum : expression.plusNegativeZero.readDouble row =
      .ok (ArithmeticOp.add.onDoubles word Double.negativeZero) := readDouble_arithmetic read zero
  rw [evaluate_of_double rfl sum]
  exact congrArg (fun word => Except.ok (Value.ofDouble word)) (Double.add_negativeZero word)

/-- The sum folds to the double of the number of the expression, whatever its double view is. -/
theorem fold_plusNegativeZero {expression : Expr} (typed : expression.WellTyped)
    (constant : expression.isConstant = true) (offered : expression.type.offers .long = true) :
    expression.plusNegativeZero.fold =
      .ok (.constant .double (.ofDouble (Word.doubleOf (expression.number? .empty)))) := by
  obtain ⟨folded, foldsTo⟩ := exists_foldsTo typed
  -- Below the sum nothing is read as a double, so there folding is exact in any case.
  have exact : expression.FoldsExactly := by
    intro operand member
    rw [doubleOperands_of_offers_long typed offered] at member
    cases member
  have stands := foldsTo.stands typed (conforms_of_isConstant constant .empty) exact
  obtain ⟨value, shape⟩ := foldsTo.keeps.collapsed constant
  have noOperation : folded.IsNoOperation := by
    rw [shape]
    trivial
  have read : folded.readDouble .empty = .ok (Word.doubleOf (expression.number? .empty)) := by
    rw [readDouble_of_isNoOperation foldsTo.keeps.typed stands.foldedConforms
      (foldsTo.keeps.type ▸ offered) noOperation, stands.agrees.number offered]
  have foldedConstant : folded.plusNegativeZero.isConstant = true := by
    rw [plusNegativeZero, isConstant, foldsTo.keeps.isConstant, constant]
    rfl
  have collapses : folded.plusNegativeZero.collapse = .ok (.constant .double
      (.ofDouble (Word.doubleOf (expression.number? .empty)))) := by
    rw [collapse, if_pos foldedConstant, evaluate_plusNegativeZero read]
    rfl
  rw [plusNegativeZero, fold, foldsTo.folds]
  exact collapses

/-- Folding keeps the value of the sum of a constant integer expression and the negative zero if and
only if the expression widens exactly. -/
theorem widensExactly_iff {expression : Expr} (typed : expression.WellTyped)
    (constant : expression.isConstant = true) (offered : expression.type.offers .long = true) :
    expression.WidensExactly ↔ ∀ row, ∃ folded, expression.plusNegativeZero.fold = .ok folded ∧
      folded.evaluate row = expression.plusNegativeZero.evaluate row := by
  obtain ⟨word, read⟩ := exists_readDouble typed (conforms_of_isConstant constant .empty)
    (ColumnType.offers_double_iff.mpr (Or.inr offered))
  have folds := fold_plusNegativeZero typed constant offered
  have evaluates (row : Row) : expression.plusNegativeZero.evaluate row = .ok (.ofDouble word) :=
    evaluate_plusNegativeZero
      ((readDouble_congr (sameCells_of_isConstant constant row .empty)).trans read)
  have foldedEvaluates (row : Row) :
      (Expr.constant .double (.ofDouble (Word.doubleOf (expression.number? .empty)))).evaluate row =
        .ok (.ofDouble (Word.doubleOf (expression.number? .empty))) := by
    rw [evaluate_of_double rfl (readDouble_constant (Value.proper_ofDouble _).1),
      Value.doubleWord_ofDouble]
  constructor
  · intro exact row
    have same : word = Word.doubleOf (expression.number? .empty) :=
      Except.ok.inj (read.symm.trans exact)
    exact ⟨_, folds, by rw [foldedEvaluates, evaluates, same]⟩
  · intro keeps
    obtain ⟨folded, foldsToo, same⟩ := keeps .empty
    obtain rfl := Except.ok.inj (folds.symm.trans foldsToo)
    rw [foldedEvaluates, evaluates] at same
    rw [WidensExactly, read, Value.ofDouble_inj.mp (Except.ok.inj same).symm]

/-- Folding an accepted expression raises no fault and keeps its value on every row that conforms to
it, if every constant integer expression that it reads as a double widens exactly. Nothing less will
do: a constant integer expression widens exactly if and only if folding keeps the value of its sum
with the negative zero. -/
theorem fold_evaluate {expression : Expr} (checked : expression.check none = .ok type) :
    (expression.FoldsExactly → ∀ row, expression.Conforms row →
      ∃ folded, expression.fold = .ok folded ∧ folded.evaluate row = expression.evaluate row) ∧
    (expression.isConstant = true → type.isInteger = true →
      expression.plusNegativeZero.check none = .ok .double ∧
      (expression.WidensExactly ↔ ∀ row, ∃ folded, expression.plusNegativeZero.fold = .ok folded ∧
        folded.evaluate row = expression.plusNegativeZero.evaluate row)) := by
  obtain ⟨typed, sameType⟩ := check_none_iff.mp checked
  refine ⟨?_, ?_⟩
  · intro exact row conforms
    obtain ⟨folded, foldsTo⟩ := exists_foldsTo typed
    exact ⟨folded, foldsTo.folds, (foldsTo.stands typed conforms exact).evaluate_eq⟩
  · intro constant integer
    have offered : expression.type.offers .long = true := by
      rw [sameType]
      cases type <;> first | rfl | cases integer
    exact ⟨check_plusNegativeZero checked integer, widensExactly_iff typed constant offered⟩

/-- A quotient without a remainder widens exactly, and its sum with a half keeps its value. -/
theorem fold_evaluate_exact_quotient :
    ∃ folded, (Expr.binary .double (.arithmetic .add)
        (.binary .int (.arithmetic .divide) (.ofInt 6) (.ofInt 2))
        (.constant .double (.double (Float.ofBits 0x3FE0000000000000)))).fold = .ok folded ∧
      folded.evaluate (.cells []) = .ok (.double (Float.ofBits 0x400C000000000000)) := by
  have checked : (Expr.binary .double (.arithmetic .add)
      (.binary .int (.arithmetic .divide) (.ofInt 6) (.ofInt 2))
      (.constant .double (.double (Float.ofBits 0x3FE0000000000000)))).check none =
        .ok .double := rfl
  have exact : (Expr.binary .double (.arithmetic .add)
      (.binary .int (.arithmetic .divide) (.ofInt 6) (.ofInt 2))
      (.constant .double (.double (Float.ofBits 0x3FE0000000000000)))).FoldsExactly := by
    intro operand member
    cases member with
    | head => exact fun _ _ => rfl
    | tail _ rest =>
      cases List.mem_singleton.mp rest
      exact nofun
  exact (fold_evaluate checked).1 exact (.cells []) (conforms_of_isConstant rfl _)

/-- Seven halves are four with a half added, and folding makes them three and a half. -/
theorem fold_evaluate_inexact_quotient :
    (Expr.binary .double (.arithmetic .add)
        (.binary .int (.arithmetic .divide) (.ofInt 7) (.ofInt 2))
        (.constant .double (.double (Float.ofBits 0x3FE0000000000000)))).check none =
          .ok .double ∧
      (Expr.binary .double (.arithmetic .add)
        (.binary .int (.arithmetic .divide) (.ofInt 7) (.ofInt 2))
        (.constant .double (.double (Float.ofBits 0x3FE0000000000000)))).evaluate (.cells []) =
          .ok (.double (Float.ofBits 0x4010000000000000)) ∧
      ∃ folded, (Expr.binary .double (.arithmetic .add)
          (.binary .int (.arithmetic .divide) (.ofInt 7) (.ofInt 2))
          (.constant .double (.double (Float.ofBits 0x3FE0000000000000)))).fold = .ok folded ∧
        folded.evaluate (.cells []) = .ok (.double (Float.ofBits 0x400C000000000000)) :=
  ⟨rfl, rfl, _, rfl, rfl⟩

end Expr

end Columnar
