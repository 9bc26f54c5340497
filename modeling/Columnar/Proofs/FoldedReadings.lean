/-
This file says when folding an expression keeps every view of it, and not only its value. A constant
is replaced by the value of its own type, so the double view of a constant integer expression is the
one that can change, and it changes only where the constant is an operation on two operands: every
other constant converts its own number in the first place. No other view depends on how an
expression came by its value. So it is enough that no constant integer operation is read as a double
inside the expression, and the double view of the whole is kept too, unless the whole is such an
operation itself.
-/

import Columnar.Proofs.Folding

namespace Columnar

/-- Whatever gives a double is arithmetic on numbers. -/
theorem ArithmeticOp.isNumeric_of_double {op : ArithmeticOp} {left right : ColumnType}
    (output : op.outputType? left right = some .double) :
    left.isNumeric = true ∧ right.isNumeric = true := by
  cases op <;> cases left <;> cases right <;> first | exact ⟨rfl, rfl⟩ | cases output

/-- Only numbers are compared with doubles. -/
theorem Domain.isNumeric_of_ofTypes? {left right : ColumnType} {domain : Domain}
    (shared : Domain.ofTypes? left right = some domain)
    (someDouble : left = .double ∨ right = .double) :
    left.isNumeric = true ∧ right.isNumeric = true := by
  rcases someDouble with rfl | rfl
  · cases right <;> first | exact ⟨rfl, rfl⟩ | cases shared
  · cases left <;> first | exact ⟨rfl, rfl⟩ | cases shared

namespace Expr

variable {row : Row} {folded original expression : Expr} {type : ColumnType} {view : View}

/-! ### Operands that are read as doubles -/

/-- A constant operation on two operands. -/
def IsConstantOperation : Expr → Prop
  | .binary type op left right => (Expr.binary type op left right).isConstant = true
  | _ => False

/-- The operands that a node reads as doubles are numbers. -/
theorem isNumeric_of_readsDoubles {op : BinaryOp} {left right : Expr}
    (typed : (Expr.binary type op left right).WellTyped)
    (reads : type = .double ∨
      op.isComparison = true ∧ (left.type = .double ∨ right.type = .double)) :
    left.type.isNumeric = true ∧ right.type.isNumeric = true := by
  cases typed with
  | arithmetic _ _ output =>
    obtain rfl | ⟨impossible, -⟩ := reads
    · exact ArithmeticOp.isNumeric_of_double output
    · cases impossible
  | comparison _ _ shared =>
    obtain impossible | ⟨-, someDouble⟩ := reads
    · cases impossible
    · obtain ⟨broad, known⟩ := ofTypes?_of_domain? shared
      exact Domain.isNumeric_of_ofTypes? known someDouble
  | logical =>
    obtain impossible | ⟨impossible, -⟩ := reads
    · cases impossible
    · cases impossible

/-- Whatever a node of an expression reads as a double is declared rightly, and is a number. -/
theorem isNumeric_of_mem_doubleOperands (typed : expression.WellTyped) :
    ∀ operand ∈ expression.doubleOperands,
      operand.WellTyped ∧ operand.type.isNumeric = true := by
  induction expression with
  | column | constant => exact List.forall_mem_nil _
  | unary type op operand inductionHypothesis =>
    exact inductionHypothesis (wellTyped_unary_iff.mp typed).1
  | binary type op left right leftHypothesis rightHypothesis =>
    obtain ⟨leftTyped, rightTyped, -⟩ := wellTyped_binary_iff.mp typed
    refine List.forall_mem_append.mpr ⟨?_, List.forall_mem_append.mpr
      ⟨leftHypothesis leftTyped, rightHypothesis rightTyped⟩⟩
    split
    · next reads =>
      obtain ⟨leftNumeric, rightNumeric⟩ := isNumeric_of_readsDoubles typed reads
      exact List.forall_mem_cons.mpr ⟨⟨leftTyped, leftNumeric⟩,
        List.forall_mem_singleton.mpr ⟨rightTyped, rightNumeric⟩⟩
    · exact List.forall_mem_nil _

/-- A constant integer expression that is no operation on two operands widens exactly. -/
theorem widensExactly_of_not_isConstantOperation (typed : expression.WellTyped)
    (constant : expression.isConstant = true) (offered : expression.type.offers .long = true)
    (apart : ¬ expression.IsConstantOperation) : expression.WidensExactly := by
  have noOperation : expression.IsNoOperation := by
    cases expression with
    | column | constant | unary => trivial
    | binary => exact absurd constant apart
  exact readDouble_of_isNoOperation typed (conforms_of_isConstant constant .empty) offered
    noOperation

/-- No constant integer operation is read as a double. -/
def KeepsOperationsApart (expression : Expr) : Prop :=
  ∀ operand ∈ expression.doubleOperands, operand.type.isInteger = true →
    ¬ operand.IsConstantOperation

theorem KeepsOperationsApart.foldsExactly (apart : expression.KeepsOperationsApart)
    (typed : expression.WellTyped) : expression.FoldsExactly := by
  intro operand member constant offered
  obtain ⟨operandTyped, numeric⟩ := isNumeric_of_mem_doubleOperands typed operand member
  have integer : operand.type.isInteger = true := by
    cases known : operand.type <;> rw [known] at numeric offered <;>
      first | rfl | (cases numeric <;> cases offered)
  exact widensExactly_of_not_isConstantOperation operandTyped constant offered
    (apart operand member integer)

/-! ### Views of folded expressions -/

/-- Both expressions answer alike through the view. -/
def ReadsAlike (row : Row) (folded original : Expr) : View → Prop
  | .boolean => folded.readBoolean row = original.readBoolean row
  | .int => folded.readInt row = original.readInt row
  | .long => folded.readLong row = original.readLong row
  | .double => folded.readDouble row = original.readDouble row
  | .date => folded.readDate row = original.readDate row
  | .code => folded.readCode row = original.readCode row
  | .text => folded.readText row = original.readText row

/-- An expression that stands for another one answers like it through every view of their type. Of
the double view this is known where the original is not a constant integer operation. -/
theorem StandsFor.readsAlike (stands : folded.StandsFor row original)
    (offered : original.type.offers view = true)
    (apart : view = .double → original.type.offers .long = true →
      ¬ original.IsConstantOperation) : folded.ReadsAlike row original view := by
  cases view with
  | boolean => exact stands.agrees.boolean (ColumnType.offers_boolean_iff.mp offered)
  | int => exact stands.readInt_eq (ColumnType.offers_int_iff.mp offered)
  | long => exact stands.readLong_eq offered
  | date => exact stands.readDate_eq (ColumnType.offers_date_iff.mp offered)
  | double =>
    exact stands.readDouble_eq offered fun constant integer =>
      widensExactly_of_not_isConstantOperation stands.typed constant integer (apart rfl integer)
  | code =>
    have isSymbol := ColumnType.offers_code_iff.mp offered
    rw [ReadsAlike, stands.keeps.leaf (ColumnType.offers_text_iff.mpr (Or.inr isSymbol))]
  | text => rw [ReadsAlike, stands.keeps.leaf offered]

/-- Folding an accepted expression that reads no constant integer operation as a double keeps every
view of it on every row that conforms to it, and so it keeps whether it is NULL. Only the double
view of an expression that is a constant integer operation itself need not be kept. -/
theorem fold_views (checked : expression.check none = .ok type)
    (apart : expression.KeepsOperationsApart) :
    ∃ folded, expression.fold = .ok folded ∧ ∀ row, expression.Conforms row →
      folded.readNull row = expression.readNull row ∧
        ∀ view, type.offers view = true →
          (view = .double → type.offers .long = true → ¬ expression.IsConstantOperation) →
            folded.ReadsAlike row expression view := by
  obtain ⟨typed, rfl⟩ := check_none_iff.mp checked
  obtain ⟨folded, foldsTo⟩ := exists_foldsTo typed
  refine ⟨folded, foldsTo.folds, fun row conforms => ?_⟩
  have stands := foldsTo.stands typed conforms (apart.foldsExactly typed)
  exact ⟨stands.readNull_eq, fun view offered rootApart => stands.readsAlike offered rootApart⟩

/-- A quotient in a sum with a column is folded, and the double view of the sum, to which a half is
added, is kept. -/
theorem fold_views_quotient_in_sum :
    ∃ folded, (Expr.binary .double (.arithmetic .add)
        (.binary .int (.arithmetic .add) (.atPosition 0 .int)
          (.binary .int (.arithmetic .divide) (.ofInt 7) (.ofInt 2)))
        (.constant .double (.double (Float.ofBits 0x3FE0000000000000)))).fold = .ok folded ∧
      folded.readDouble (.cells [.int 4]) = .ok (Float.ofBits 0x401E000000000000) := by
  have checked : (Expr.binary .double (.arithmetic .add)
      (.binary .int (.arithmetic .add) (.atPosition 0 .int)
        (.binary .int (.arithmetic .divide) (.ofInt 7) (.ofInt 2)))
      (.constant .double (.double (Float.ofBits 0x3FE0000000000000)))).check none =
        .ok .double := rfl
  have apart : (Expr.binary .double (.arithmetic .add)
      (.binary .int (.arithmetic .add) (.atPosition 0 .int)
        (.binary .int (.arithmetic .divide) (.ofInt 7) (.ofInt 2)))
      (.constant .double (.double (Float.ofBits 0x3FE0000000000000)))).KeepsOperationsApart :=
    List.forall_mem_cons.mpr ⟨fun _ => nofun, List.forall_mem_singleton.mpr nofun⟩
  obtain ⟨folded, folds, alike⟩ := fold_views checked apart
  have conforms : Row.Fits (.cells [.int 4]) .int ⟨0, none, none⟩ := ⟨.int 4, rfl, rfl, nofun⟩
  exact ⟨folded, folds, (alike (.cells [.int 4])
    (List.forall_mem_singleton.mpr conforms)).2 .double rfl fun _ => nofun⟩

end Expr

end Columnar
