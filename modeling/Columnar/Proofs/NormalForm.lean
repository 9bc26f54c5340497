/-
This file proves that folding ends in a normal form and touches nothing but the constant parts of an
expression. No type is asked for: whatever an expression is declared as, folding it either raises a
fault or ends here. What folding does to the shape is said by a relation that knows nothing of
evaluation: a constant operation becomes a leaf, and every other node stays what it is, over folded
operands. From the relation follows, place by place, what is left of an expression: the nodes that
read a column, the constants that no constant operation covers, and the order of the columns. An
expression without constant operations folds to itself, so folding twice is folding once.
-/

import Columnar.Expr.Folding
import Columnar.Proofs.Typing

namespace Columnar.Expr

variable {expression folded operand left right node : Expr} {type : ColumnType}

/-! ### Places -/

/-- The ways down from a node to an operand. -/
inductive Turn
  | operand
  | left
  | right
deriving DecidableEq, Repr

variable {place : List Turn}

/-- The part of an expression that stands at a place, which is given by the turns from the root. -/
def part? : Expr → List Turn → Option Expr
  | expression, [] => some expression
  | .unary _ _ operand, .operand :: place => operand.part? place
  | .binary _ _ left _, .left :: place => left.part? place
  | .binary _ _ _ right, .right :: place => right.part? place
  | _, _ => none

/-- A node apart from its operands. -/
inductive Head
  | column (type : ColumnType) (source : Column)
  | constant (type : ColumnType) (value : Value)
  | unary (type : ColumnType) (op : UnaryOp)
  | binary (type : ColumnType) (op : BinaryOp)
deriving DecidableEq

/-- The root of an expression apart from its operands. -/
def head : Expr → Head
  | .column type source => .column type source
  | .constant type value => .constant type value
  | .unary type op _ => .unary type op
  | .binary type op _ _ => .binary type op

/-- Whether an expression has no operands. -/
def isLeaf : Expr → Bool
  | .column _ _ | .constant _ _ => true
  | .unary _ _ _ | .binary _ _ _ _ => false

theorem part?_root (expression : Expr) : expression.part? [] = some expression := by
  cases expression <;> rfl

/-- A leaf has no part but itself. -/
theorem part?_of_isLeaf (leaf : expression.isLeaf = true)
    (found : expression.part? place = some node) : place = [] ∧ node = expression := by
  cases place with
  | nil =>
    rw [part?_root] at found
    exact ⟨rfl, (Option.some.inj found).symm⟩
  | cons turn place =>
    cases expression with
    | column | constant => cases turn <;> cases found
    | unary | binary => cases leaf

theorem part?_unary {op : UnaryOp} (found : (Expr.unary type op operand).part? place = some node) :
    place = [] ∧ node = .unary type op operand ∨
      ∃ below, place = .operand :: below ∧ operand.part? below = some node := by
  cases place with
  | nil => exact Or.inl ⟨rfl, (Option.some.inj found).symm⟩
  | cons turn below =>
    cases turn with
    | operand => exact Or.inr ⟨below, rfl, found⟩
    | left | right => cases found

theorem part?_binary {op : BinaryOp}
    (found : (Expr.binary type op left right).part? place = some node) :
    place = [] ∧ node = .binary type op left right ∨
      (∃ below, place = .left :: below ∧ left.part? below = some node) ∨
      ∃ below, place = .right :: below ∧ right.part? below = some node := by
  cases place with
  | nil => exact Or.inl ⟨rfl, (Option.some.inj found).symm⟩
  | cons turn below =>
    cases turn with
    | operand => cases found
    | left => exact Or.inr (Or.inl ⟨below, rfl, found⟩)
    | right => exact Or.inr (Or.inr ⟨below, rfl, found⟩)

/-- Every part of a constant expression is constant. -/
theorem isConstant_of_part? (constant : expression.isConstant = true)
    (found : expression.part? place = some node) : node.isConstant = true := by
  induction expression generalizing place with
  | column type source => cases constant
  | constant type value =>
    obtain ⟨-, rfl⟩ := part?_of_isLeaf rfl found
    exact constant
  | unary type op operand inductionHypothesis =>
    obtain ⟨-, rfl⟩ | ⟨below, -, found⟩ := part?_unary found
    · exact constant
    · exact inductionHypothesis constant found
  | binary type op left right leftHypothesis rightHypothesis =>
    obtain ⟨leftConstant, rightConstant⟩ := Bool.and_eq_true_iff.mp constant
    obtain ⟨-, rfl⟩ | ⟨below, -, found⟩ | ⟨below, -, found⟩ := part?_binary found
    · exact constant
    · exact leftHypothesis leftConstant found
    · exact rightHypothesis rightConstant found

/-! ### Normal forms -/

/-- No operation of the expression is constant. -/
def IsNormal (expression : Expr) : Prop :=
  ∀ place node, expression.part? place = some node → node.isConstant = true → node.isLeaf = true

theorem isNormal_of_isLeaf (leaf : expression.isLeaf = true) : expression.IsNormal := by
  intro place node found _
  obtain ⟨-, rfl⟩ := part?_of_isLeaf leaf found
  exact leaf

theorem isNormal_unary {op : UnaryOp} :
    (Expr.unary type op operand).IsNormal ↔ operand.isConstant = false ∧ operand.IsNormal := by
  constructor
  · intro normal
    refine ⟨Bool.eq_false_iff.mpr fun constant => ?_,
      fun place node found => normal (.operand :: place) node found⟩
    cases normal [] _ rfl constant
  · rintro ⟨varies, normal⟩ place node found constant
    obtain ⟨-, rfl⟩ | ⟨below, -, found⟩ := part?_unary found
    · exact absurd constant (Bool.eq_false_iff.mp varies)
    · exact normal below node found constant

theorem isNormal_binary {op : BinaryOp} :
    (Expr.binary type op left right).IsNormal ↔
      (left.isConstant && right.isConstant) = false ∧ left.IsNormal ∧ right.IsNormal := by
  constructor
  · intro normal
    refine ⟨Bool.eq_false_iff.mpr fun constant => ?_,
      fun place node found => normal (.left :: place) node found,
      fun place node found => normal (.right :: place) node found⟩
    cases normal [] _ rfl constant
  · rintro ⟨varies, leftNormal, rightNormal⟩ place node found constant
    obtain ⟨-, rfl⟩ | ⟨below, -, found⟩ | ⟨below, -, found⟩ := part?_binary found
    · exact absurd constant (Bool.eq_false_iff.mp varies)
    · exact leftNormal below node found constant
    · exact rightNormal below node found constant

/-- Folding changes nothing in a normal form, and raises no fault. -/
theorem fold_of_isNormal (normal : expression.IsNormal) : expression.fold = .ok expression := by
  induction expression with
  | column | constant => rfl
  | unary type op operand inductionHypothesis =>
    obtain ⟨varies, operandNormal⟩ := isNormal_unary.mp normal
    rw [fold, inductionHypothesis operandNormal]
    exact if_neg (Bool.eq_false_iff.mp varies)
  | binary type op left right leftHypothesis rightHypothesis =>
    obtain ⟨varies, leftNormal, rightNormal⟩ := isNormal_binary.mp normal
    rw [fold, leftHypothesis leftNormal, rightHypothesis rightNormal]
    exact if_neg (Bool.eq_false_iff.mp varies)

/-! ### The shape that folding leaves -/

/-- The second expression has the shape that folding leaves of the first. -/
inductive ShrinksTo : Expr → Expr → Prop
  | leaf {leaf : Expr} (isLeaf : leaf.isLeaf = true) : ShrinksTo leaf leaf
  | collapsed (node : Expr) (constant : node.isConstant = true) (operation : node.isLeaf = false)
    (value : Value) : ShrinksTo node (.constant node.type value)
  | unary (type : ColumnType) (op : UnaryOp) {operand folded : Expr}
    (varies : operand.isConstant = false) (shrinks : ShrinksTo operand folded) :
    ShrinksTo (.unary type op operand) (.unary type op folded)
  | binary (type : ColumnType) (op : BinaryOp) {left right foldedLeft foldedRight : Expr}
    (varies : (left.isConstant && right.isConstant) = false)
    (leftShrinks : ShrinksTo left foldedLeft) (rightShrinks : ShrinksTo right foldedRight) :
    ShrinksTo (.binary type op left right) (.binary type op foldedLeft foldedRight)

/-- No node on the way down to a place is constant. -/
def VariesAbove (expression : Expr) (place : List Turn) : Prop :=
  ∀ above below node, place = above ++ below → below ≠ [] →
    expression.part? above = some node → node.isConstant = false

namespace ShrinksTo

theorem type_eq (shrinks : expression.ShrinksTo folded) : folded.type = expression.type := by
  cases shrinks <;> rfl

theorem isConstant_eq (shrinks : expression.ShrinksTo folded) :
    folded.isConstant = expression.isConstant := by
  induction shrinks with
  | leaf => rfl
  | collapsed node constant operation value => exact constant.symm
  | unary type op varies shrinks inductionHypothesis => exact inductionHypothesis
  | binary type op varies leftShrinks rightShrinks leftHypothesis rightHypothesis =>
    rw [isConstant, isConstant, leftHypothesis, rightHypothesis]

theorem columns_eq (shrinks : expression.ShrinksTo folded) :
    folded.columns = expression.columns := by
  induction shrinks with
  | leaf => rfl
  | collapsed node constant operation value => exact (columns_of_isConstant constant).symm
  | unary type op varies shrinks inductionHypothesis => exact inductionHypothesis
  | binary type op varies leftShrinks rightShrinks leftHypothesis rightHypothesis =>
    rw [columns, columns, leftHypothesis, rightHypothesis]

theorem isNormal (shrinks : expression.ShrinksTo folded) : folded.IsNormal := by
  induction shrinks with
  | leaf isLeaf => exact isNormal_of_isLeaf isLeaf
  | collapsed node constant operation value => exact isNormal_of_isLeaf rfl
  | unary type op varies shrinks inductionHypothesis =>
    exact isNormal_unary.mpr ⟨shrinks.isConstant_eq.trans varies, inductionHypothesis⟩
  | binary type op varies leftShrinks rightShrinks leftHypothesis rightHypothesis =>
    refine isNormal_binary.mpr ⟨?_, leftHypothesis, rightHypothesis⟩
    rw [leftShrinks.isConstant_eq, rightShrinks.isConstant_eq, varies]

/-- A node that reads a column is still in its place. -/
theorem exists_kept (shrinks : expression.ShrinksTo folded)
    (found : expression.part? place = some node) (varies : node.isConstant = false) :
    ∃ kept, folded.part? place = some kept ∧ kept.head = node.head := by
  induction shrinks generalizing place with
  | leaf => exact ⟨node, found, rfl⟩
  | collapsed node constant operation value =>
    rw [isConstant_of_part? constant found] at varies
    cases varies
  | unary type op _ shrinks inductionHypothesis =>
    obtain ⟨rfl, rfl⟩ | ⟨below, rfl, found⟩ := part?_unary found
    · exact ⟨_, part?_root _, rfl⟩
    · exact inductionHypothesis found
  | binary type op _ leftShrinks rightShrinks leftHypothesis rightHypothesis =>
    obtain ⟨rfl, rfl⟩ | ⟨below, rfl, found⟩ | ⟨below, rfl, found⟩ := part?_binary found
    · exact ⟨_, part?_root _, rfl⟩
    · exact leftHypothesis found
    · exact rightHypothesis found

/-- A constant that no constant operation covers is still in its place. -/
theorem part?_constant {value : Value} (shrinks : expression.ShrinksTo folded)
    (found : expression.part? place = some (.constant type value))
    (uncovered : expression.VariesAbove place) :
    folded.part? place = some (.constant type value) := by
  induction shrinks generalizing place with
  | leaf => exact found
  | collapsed node constant operation =>
    cases place with
    | nil =>
      rw [part?_root] at found
      cases found
      cases operation
    | cons turn below =>
      have varies := uncovered [] (turn :: below) node rfl (List.cons_ne_nil _ _) (part?_root node)
      rw [constant] at varies
      cases varies
  | unary _ op _ shrinks inductionHypothesis =>
    obtain ⟨-, impossible⟩ | ⟨rest, rfl, found⟩ := part?_unary found
    · cases impossible
    · exact inductionHypothesis found fun above below node split =>
        uncovered (.operand :: above) below node (congrArg _ split)
  | binary _ op _ leftShrinks rightShrinks leftHypothesis rightHypothesis =>
    obtain ⟨-, impossible⟩ | ⟨rest, rfl, found⟩ | ⟨rest, rfl, found⟩ := part?_binary found
    · cases impossible
    · exact leftHypothesis found fun above below node split =>
        uncovered (.left :: above) below node (congrArg _ split)
    · exact rightHypothesis found fun above below node split =>
        uncovered (.right :: above) below node (congrArg _ split)

/-- Where the folded expression has a node, the original has one of the same type. -/
theorem exists_origin (shrinks : expression.ShrinksTo folded)
    (found : folded.part? place = some node) :
    ∃ origin, expression.part? place = some origin ∧ node.type = origin.type := by
  induction shrinks generalizing place with
  | leaf => exact ⟨node, found, rfl⟩
  | collapsed node constant operation value =>
    obtain ⟨rfl, rfl⟩ := part?_of_isLeaf rfl found
    exact ⟨_, part?_root _, rfl⟩
  | unary type op varies shrinks inductionHypothesis =>
    obtain ⟨rfl, rfl⟩ | ⟨below, rfl, found⟩ := part?_unary found
    · exact ⟨_, part?_root _, rfl⟩
    · exact inductionHypothesis found
  | binary type op varies leftShrinks rightShrinks leftHypothesis rightHypothesis =>
    obtain ⟨rfl, rfl⟩ | ⟨below, rfl, found⟩ | ⟨below, rfl, found⟩ := part?_binary found
    · exact ⟨_, part?_root _, rfl⟩
    · exact leftHypothesis found
    · exact rightHypothesis found

end ShrinksTo

/-! ### Folding -/

/-- A node is replaced by a leaf of its type if it is constant, and otherwise kept. -/
theorem collapse_eq_ok (collapses : node.collapse = .ok folded) :
    node.isConstant = true ∧ (∃ value, folded = .constant node.type value) ∨
      node.isConstant = false ∧ folded = node := by
  unfold collapse at collapses
  split at collapses
  · next constant =>
    refine Or.inl ⟨constant, ?_⟩
    cases evaluates : node.evaluate .empty with
    | error fault =>
      rw [evaluates] at collapses
      cases collapses
    | ok value =>
      rw [evaluates] at collapses
      exact ⟨value, (Except.ok.inj collapses).symm⟩
  · next varies => exact Or.inr ⟨Bool.eq_false_iff.mpr varies, (Except.ok.inj collapses).symm⟩

/-- Whatever an expression folds to has the shape that folding leaves. -/
theorem shrinksTo_of_fold (folds : expression.fold = .ok folded) : expression.ShrinksTo folded := by
  induction expression generalizing folded with
  | column | constant =>
    cases folds
    exact .leaf rfl
  | unary type op operand inductionHypothesis =>
    rw [fold] at folds
    cases operandFolds : operand.fold with
    | error fault =>
      rw [operandFolds] at folds
      cases folds
    | ok foldedOperand =>
      rw [operandFolds] at folds
      have shrinks := inductionHypothesis operandFolds
      -- The node is collapsed over its folded operand, which is constant if the operand is.
      obtain ⟨constant, value, rfl⟩ | ⟨varies, rfl⟩ := collapse_eq_ok folds
      · exact .collapsed (.unary type op operand)
          (shrinks.isConstant_eq.symm.trans constant) rfl value
      · exact .unary type op (shrinks.isConstant_eq.symm.trans varies) shrinks
  | binary type op left right leftHypothesis rightHypothesis =>
    rw [fold] at folds
    cases leftFolds : left.fold with
    | error fault =>
      rw [leftFolds] at folds
      cases folds
    | ok foldedLeft =>
      cases rightFolds : right.fold with
      | error fault =>
        rw [leftFolds, rightFolds] at folds
        cases folds
      | ok foldedRight =>
        rw [leftFolds, rightFolds] at folds
        have leftShrinks := leftHypothesis leftFolds
        have rightShrinks := rightHypothesis rightFolds
        have sameConstant : (left.isConstant && right.isConstant) =
            (foldedLeft.isConstant && foldedRight.isConstant) := by
          rw [leftShrinks.isConstant_eq, rightShrinks.isConstant_eq]
        obtain ⟨constant, value, rfl⟩ | ⟨varies, rfl⟩ := collapse_eq_ok folds
        · exact .collapsed (.binary type op left right) (sameConstant.trans constant) rfl value
        · exact .binary type op (sameConstant.trans varies) leftShrinks rightShrinks

/-- Folding ends in an expression without constant operations, which folds to itself. Its columns
are those of the original in their order, every node that reads a column is in its place with its
kind, operation and type, and so is every constant that no constant operation covers, a tagged
reserved word too. Nothing is anywhere but where the original has a node of the same type, which
is the type of the whole at the root. -/
theorem fold_normalizes (folds : expression.fold = .ok folded) :
    folded.IsNormal ∧ folded.fold = .ok folded ∧ folded.columns = expression.columns ∧
      (∀ place node, expression.part? place = some node → node.isConstant = false →
        ∃ kept, folded.part? place = some kept ∧ kept.head = node.head) ∧
      (∀ place type value, expression.part? place = some (.constant type value) →
        expression.VariesAbove place → folded.part? place = some (.constant type value)) ∧
      (∀ place node, folded.part? place = some node →
        ∃ origin, expression.part? place = some origin ∧ node.type = origin.type) ∧
      folded.type = expression.type := by
  have shrinks := shrinksTo_of_fold folds
  exact ⟨shrinks.isNormal, fold_of_isNormal shrinks.isNormal, shrinks.columns_eq,
    fun _ _ => shrinks.exists_kept, fun _ _ _ => shrinks.part?_constant,
    fun _ _ => shrinks.exists_origin, shrinks.type_eq⟩

/-- A sum that is declared as a string keeps the reserved word beside its column, while the constant
sum of the other side becomes a leaf. -/
theorem fold_normalizes_mixed_sum :
    ∃ folded, (Expr.binary .string (.arithmetic .add)
        (.binary .long (.arithmetic .add) (.atPosition 0 .date)
          (.constant .int (.int Null.int)))
        (.binary .int (.arithmetic .add) (.ofInt 1) (.ofInt 2))).fold = .ok folded ∧
      folded.fold = .ok folded ∧ folded.columns = [(.date, ⟨0, none, none⟩)] ∧
      folded.part? [.left, .right] = some (.constant .int (.int Null.int)) := by
  have folds : (Expr.binary .string (.arithmetic .add)
      (.binary .long (.arithmetic .add) (.atPosition 0 .date) (.constant .int (.int Null.int)))
      (.binary .int (.arithmetic .add) (.ofInt 1) (.ofInt 2))).fold =
        .ok (.binary .string (.arithmetic .add)
          (.binary .long (.arithmetic .add) (.atPosition 0 .date) (.constant .int (.int Null.int)))
          (.constant .int (.int 3))) := rfl
  obtain ⟨-, again, columns, -, constants, -⟩ := fold_normalizes folds
  refine ⟨_, folds, again, columns, constants [.left, .right] _ _ rfl ?_⟩
  intro above below node split strict found
  match above, split with
  | [], _ =>
    cases found
    rfl
  | [turn], split =>
    obtain ⟨rfl, -⟩ := List.cons_eq_cons.mp split
    cases found
    rfl
  | first :: second :: rest, split =>
    obtain ⟨-, -, nothing⟩ : _ ∧ _ ∧ [] = rest ++ below := by simpa using split
    exact absurd (List.append_eq_nil_iff.mp nothing.symm).2 strict

end Columnar.Expr
