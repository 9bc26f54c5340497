/-
This file says what it takes for an expression to stand for another one that it is folded from. The
two have the same type and the same columns, a constant has become a leaf, and on a row the views of
the declared type answer alike. Nothing more is needed for the value and for the question whether it
is NULL, and a constant that is replaced by its value provides it. What such a leaf does not keep is
the double view of the operation that it replaces, for that view reads the operands again. It is
kept where the double view of the constant is that of its own number.
-/

import Columnar.Expr.Folding
import Columnar.Proofs.Doubles
import Columnar.Proofs.Locality
import Columnar.Proofs.Soundness

namespace Columnar

namespace Value

/-! ### The words of a value that comes from a word -/

theorem doubleWord_ofDouble (word : Float) : (ofDouble word).doubleWord = word := by
  unfold ofDouble
  split
  · next missing => exact (Double.isNaN_iff.mp missing).symm
  · rfl

theorem ofDouble_inj {word other : Float} : ofDouble word = ofDouble other ↔ word = other := by
  refine ⟨fun same => ?_, congrArg ofDouble⟩
  rw [← doubleWord_ofDouble word, same, doubleWord_ofDouble]

end Value

namespace Expr

variable {row : Row} {folded original : Expr}

/-! ### What folding keeps -/

/-- What an expression keeps when it is folded. A constant becomes a leaf. -/
structure Keeps (folded original : Expr) : Prop where
  typed : folded.WellTyped
  type : folded.type = original.type
  columns : folded.columns = original.columns
  isConstant : folded.isConstant = original.isConstant
  collapsed : original.isConstant = true → ∃ value, folded = .constant original.type value
  leaf : original.type.offers .text = true → folded = original

theorem Keeps.conforms (keeps : folded.Keeps original) :
    folded.Conforms row ↔ original.Conforms row := by
  unfold Conforms
  rw [keeps.columns]

/-- What the views of a folded expression keep on a row. The double view of an integer expression
is kept where the expression is not constant. -/
structure Agrees (row : Row) (folded original : Expr) : Prop where
  number : original.type.offers .long = true → folded.number? row = original.number? row
  double : original.type = .double → folded.readDouble row = original.readDouble row
  boolean : original.type = .boolean → folded.readBoolean row = original.readBoolean row
  widened : original.type.offers .long = true → original.isConstant = false →
    folded.readDouble row = original.readDouble row

theorem Agrees.refl (row : Row) (expression : Expr) : expression.Agrees row expression :=
  ⟨fun _ => rfl, fun _ => rfl, fun _ => rfl, fun _ _ => rfl⟩

theorem Agrees.trans {node : Expr} (replaced : folded.Agrees row node)
    (type : node.type = original.type) (isConstant : node.isConstant = original.isConstant)
    (agrees : node.Agrees row original) : folded.Agrees row original := by
  rcases replaced with ⟨number, double, boolean, widened⟩
  rw [type] at number double boolean widened
  rw [isConstant] at widened
  exact ⟨fun offered => (number offered).trans (agrees.number offered),
    fun isDouble => (double isDouble).trans (agrees.double isDouble),
    fun isBoolean => (boolean isBoolean).trans (agrees.boolean isBoolean),
    fun offered varies => (widened offered varies).trans (agrees.widened offered varies)⟩

/-- Of a condition nothing but its truth has to be kept. -/
theorem agrees_of_boolean (isBoolean : original.type = .boolean)
    (same : folded.readBoolean row = original.readBoolean row) : folded.Agrees row original := by
  refine ⟨?_, ?_, fun _ => same, ?_⟩
  · intro offered
    rw [isBoolean] at offered
    cases offered
  · intro isDouble
    rw [isBoolean] at isDouble
    cases isDouble
  · intro offered
    rw [isBoolean] at offered
    cases offered

/-- The folded expression can stand for the original on a row that conforms to it. -/
structure StandsFor (row : Row) (folded original : Expr) : Prop where
  keeps : folded.Keeps original
  agrees : folded.Agrees row original
  typed : original.WellTyped
  conforms : original.Conforms row

namespace StandsFor

variable (stands : folded.StandsFor row original)

include stands

theorem foldedConforms : folded.Conforms row :=
  stands.keeps.conforms.mpr stands.conforms

theorem readInt_eq (isInt : original.type = .int) : folded.readInt row = original.readInt row := by
  obtain ⟨word, read, means⟩ := exists_readInt stands.typed stands.conforms isInt
  obtain ⟨foldedWord, foldedRead, foldedMeans⟩ :=
    exists_readInt stands.keeps.typed stands.foldedConforms (stands.keeps.type.trans isInt)
  have same : Word.int? foldedWord = Word.int? word := by
    rw [foldedMeans, means, stands.agrees.number (ColumnType.offers_long_iff.mpr (Or.inl isInt))]
  rw [foldedRead, read, Word.int?_inj.mp same]

theorem readLong_eq (offered : original.type.offers .long = true) :
    folded.readLong row = original.readLong row := by
  obtain ⟨word, read, means⟩ := exists_readLong stands.typed stands.conforms offered
  obtain ⟨foldedWord, foldedRead, foldedMeans⟩ :=
    exists_readLong stands.keeps.typed stands.foldedConforms (stands.keeps.type ▸ offered)
  have same : Word.long? foldedWord = Word.long? word := by
    rw [foldedMeans, means, stands.agrees.number offered]
  rw [foldedRead, read, Word.long?_inj.mp same]

theorem readDate_eq (long : original.type.isLongWord = true) :
    folded.readDate row = original.readDate row := by
  rw [readDate_of_isLongWord long, readDate_of_isLongWord (stands.keeps.type ▸ long)]
  exact stands.readLong_eq (ColumnType.offers_long_iff.mpr (Or.inr long))

/-- A folded expression is NULL on a row if the original is. -/
theorem readNull_eq : folded.readNull row = original.readNull row := by
  by_cases text : original.type.offers .text = true
  · rw [stands.keeps.leaf text]
  · unfold readNull
    rw [stands.keeps.type]
    cases known : original.type with
    | boolean => rfl
    | int =>
      have ints := stands.readInt_eq known
      simp only [ints]
    | long =>
      have longs := stands.readLong_eq (by rw [known]; rfl)
      simp only [longs]
    | date =>
      have dates := stands.readDate_eq (by rw [known]; rfl)
      simp only [dates]
    | double => simp only [stands.agrees.double known]
    | symbol | string =>
      rw [known] at text
      exact absurd rfl text

/-- A folded expression has the value of the original on a row. -/
theorem evaluate_eq : folded.evaluate row = original.evaluate row := by
  by_cases text : original.type.offers .text = true
  · rw [stands.keeps.leaf text]
  · unfold evaluate
    rw [stands.keeps.type]
    cases known : original.type with
    | boolean => simp only [stands.agrees.boolean known]
    | int =>
      have ints := stands.readInt_eq known
      simp only [ints]
    | long =>
      have longs := stands.readLong_eq (by rw [known]; rfl)
      simp only [longs]
    | date =>
      have dates := stands.readDate_eq (by rw [known]; rfl)
      simp only [dates]
    | double => simp only [stands.agrees.double known]
    | symbol | string =>
      rw [known] at text
      exact absurd rfl text

end StandsFor

/-! ### Replacing a constant by its value -/

/-- A leaf with the value of a constant expression reads as the expression does, on every row. -/
theorem agrees_of_evaluate {value : Value} (typed : original.WellTyped)
    (constant : original.isConstant = true) (evaluates : original.evaluate .empty = .ok value) :
    (Expr.constant original.type value).Agrees row original := by
  have same := sameCells_of_isConstant constant row .empty
  have conforms := conforms_of_isConstant constant .empty
  refine ⟨?_, ?_, ?_, ?_⟩
  · intro offered
    rw [number?_congr same]
    exact number?_of_evaluate typed conforms offered evaluates
  · intro isDouble
    obtain ⟨word, read⟩ := exists_readDouble typed conforms (by rw [isDouble]; rfl)
    rw [evaluate_of_double isDouble read] at evaluates
    cases evaluates
    rw [readDouble_congr same, read, isDouble, readDouble_constant (Value.proper_ofDouble word).1,
      Value.doubleWord_ofDouble]
  · intro isBoolean
    obtain ⟨word, read, -⟩ := exists_readBoolean typed conforms isBoolean
    rw [evaluate_of_boolean isBoolean read] at evaluates
    cases evaluates
    rw [readBoolean_congr same, read, isBoolean]
    rfl
  · intro _ varies
    rw [constant] at varies
    cases varies

/-- A node over folded operands that keeps the views of a node does so once it is replaced by its
value, if it is constant. -/
theorem exists_collapse {node : Expr} (typed : node.WellTyped) (type : node.type = original.type)
    (columns : node.columns = original.columns)
    (isConstant : node.isConstant = original.isConstant)
    (noText : original.type.offers .text = false) :
    ∃ folded, node.collapse = .ok folded ∧ folded.Keeps original ∧
      ∀ row, node.Agrees row original → folded.Agrees row original := by
  have noLeaf : ∀ folded : Expr, original.type.offers .text = true → folded = original := by
    intro folded text
    rw [noText] at text
    cases text
  unfold collapse
  by_cases constant : node.isConstant = true
  · -- A constant is sound against the row without cells, so it has a value and the leaf is typed.
    obtain ⟨value, evaluates, fits, -⟩ :=
      exists_evaluate typed (conforms_of_isConstant constant .empty)
    rw [if_pos constant, evaluates]
    refine ⟨.constant node.type value, rfl, ?_, ?_⟩
    · refine ⟨.constant fits, type, ?_, ?_, ?_, noLeaf _⟩
      · rw [← columns, columns_of_isConstant constant]
        rfl
      · rw [← isConstant, constant]
        rfl
      · intro _
        exact ⟨value, by rw [type]⟩
    · intro row agrees
      exact (agrees_of_evaluate typed constant evaluates).trans type isConstant agrees
  · rw [if_neg constant]
    refine ⟨node, rfl, ⟨typed, type, columns, isConstant, ?_, noLeaf _⟩, fun _ agrees => agrees⟩
    intro originalConstant
    rw [isConstant] at constant
    exact absurd originalConstant constant

/-! ### Operands that are read as doubles -/

/-- The operands that an operation reads as doubles: those of arithmetic on doubles, and those of a
comparison of which one is a double. -/
def doubleOperands : Expr → List Expr
  | .column _ _ => []
  | .constant _ _ => []
  | .unary _ _ operand => operand.doubleOperands
  | .binary type op left right =>
    (if type = .double ∨ op.isComparison = true ∧ (left.type = .double ∨ right.type = .double)
      then [left, right] else []) ++ (left.doubleOperands ++ right.doubleOperands)

/-- The double view of a constant integer expression is that of its own number. -/
def WidensExactly (expression : Expr) : Prop :=
  expression.readDouble .empty = .ok (Word.doubleOf (expression.number? .empty))

/-- Every constant integer expression that is read as a double widens exactly. -/
def FoldsExactly (expression : Expr) : Prop :=
  ∀ operand ∈ expression.doubleOperands, operand.isConstant = true →
    operand.type.offers .long = true → operand.WidensExactly

section FoldsExactly

variable {type : ColumnType} {op : BinaryOp} {left right : Expr}
  (exact : (Expr.binary type op left right).FoldsExactly)

include exact

theorem FoldsExactly.operands : left.FoldsExactly ∧ right.FoldsExactly :=
  ⟨fun operand member => exact operand
      (List.mem_append_right _ (List.mem_append_left _ member)),
    fun operand member => exact operand
      (List.mem_append_right _ (List.mem_append_right _ member))⟩

theorem FoldsExactly.doubles
    (reads : type = .double ∨
      op.isComparison = true ∧ (left.type = .double ∨ right.type = .double)) :
    (left.isConstant = true → left.type.offers .long = true → left.WidensExactly) ∧
      (right.isConstant = true → right.type.offers .long = true → right.WidensExactly) := by
  unfold FoldsExactly doubleOperands at exact
  rw [if_pos reads] at exact
  exact ⟨exact left (List.mem_append_left _ (List.mem_cons_self ..)),
    exact right (List.mem_append_left _ (List.mem_cons_of_mem _ (List.mem_cons_self ..)))⟩

end FoldsExactly

/-- A folded operand keeps its double view, if that is exact where the operand is constant. -/
theorem StandsFor.readDouble_eq (stands : folded.StandsFor row original)
    (offered : original.type.offers .double = true)
    (exact : original.isConstant = true → original.type.offers .long = true →
      original.WidensExactly) : folded.readDouble row = original.readDouble row := by
  rcases ColumnType.offers_double_iff.mp offered with isDouble | integer
  · exact stands.agrees.double isDouble
  · by_cases constant : original.isConstant = true
    · have same := sameCells_of_isConstant constant row .empty
      obtain ⟨value, shape⟩ := stands.keeps.collapsed constant
      have noOperation : folded.IsNoOperation := by
        rw [shape]
        trivial
      rw [readDouble_of_isNoOperation stands.keeps.typed stands.foldedConforms
        (stands.keeps.type ▸ integer) noOperation, stands.agrees.number integer,
        number?_congr same, readDouble_congr same, exact constant integer]
    · exact stands.agrees.widened integer (Bool.eq_false_iff.mpr constant)

end Expr

end Columnar
