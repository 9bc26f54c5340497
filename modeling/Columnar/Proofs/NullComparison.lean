/-
This file says what comparisons make of an operand that is NULL. Compared as integers, as texts, as
codes or as conditions, an expression that is NULL makes every comparison false: the view that the
comparison reads is NULL exactly if the expression is. Compared as doubles it need not be so. The
double view of an integer operation reads the operands again, and where the operation alone loses
the value, by wrapping onto the least word or by dividing by zero, that view gives a double all the
same. The comparison then judges this double, and these are the only cases in which it can hold of
NULL.
-/

import Columnar.Proofs.Doubles
import Columnar.Proofs.Orders

namespace Columnar

namespace Expr

variable {row : Row} {expression left right : Expr} {op : ComparisonOp}

/-! ### Comparisons that are not of doubles -/

/-- Whatever the domain, doubles apart, no comparison holds of an operand that is NULL, for NULL has
no place in the order of the domain. -/
theorem readBoolean_of_null {domain : Domain} (leftTyped : left.WellTyped)
    (rightTyped : right.WellTyped) (leftConforms : left.Conforms row)
    (rightConforms : right.Conforms row) (shared : left.domain? right = some domain)
    (notDouble : domain ≠ .double)
    (missing : left.readNull row = .ok true ∨ right.readNull row = .ok true) :
    (Expr.binary .boolean (.comparison op) left right).readBoolean row = .ok false := by
  obtain ⟨placement⟩ := exists_placement row notDouble
  have leftReadable : left.Readable row := ⟨leftTyped, leftConforms⟩
  have rightReadable : right.Readable row := ⟨rightTyped, rightConforms⟩
  obtain ⟨leftNull, rightNull⟩ := placement.missing leftReadable rightReadable shared
  rw [placement.judges leftReadable rightReadable shared]
  rcases missing with leftMissing | rightMissing
  · rw [leftNull] at leftMissing
    rw [Option.isNone_iff_eq_none.mp (Except.ok.inj leftMissing), op.relates_none_left]
  · rw [rightNull] at rightMissing
    rw [Option.isNone_iff_eq_none.mp (Except.ok.inj rightMissing), op.relates_none_right]

/-! ### Comparisons of doubles -/

/-- An integer operation that alone loses the value: both operands have one, and the result wraps
onto the least word or divides by zero. -/
def LosesValue (row : Row) : Expr → Prop
  | .binary type (.arithmetic op) left right =>
    type ≠ .double ∧ ∃ leftNumber rightNumber, left.number? row = some leftNumber ∧
      right.number? row = some rightNumber ∧ op.exact? type leftNumber rightNumber = none
  | _ => False

/-- The double view of an integer expression that is NULL is NULL, unless its last operation alone
loses the value. -/
theorem integerAsDouble_of_missing (offered : expression.type.offers .long = true)
    (missing : expression.number? row = none) (keeps : ¬ expression.LosesValue row) :
    expression.integerAsDouble row = Null.double := by
  have converted : Word.doubleOf (expression.number? row) = Null.double := by
    rw [missing]
    rfl
  cases expression with
  | column | constant | unary => exact converted
  | binary type op left right =>
    cases op with
    | comparison | logical => exact converted
    | arithmetic op =>
      rw [integerAsDouble]
      cases leftKnown : left.number? row with
      | none => rfl
      | some leftNumber =>
        cases rightKnown : right.number? row with
        | none => rfl
        | some rightNumber =>
          refine absurd ⟨?_, leftNumber, rightNumber, leftKnown, rightKnown, ?_⟩ keeps
          · rintro rfl
            cases offered
          · rw [number?, leftKnown, rightKnown] at missing
            exact missing

theorem number?_of_readNull (typed : expression.WellTyped) (conforms : expression.Conforms row)
    (offered : expression.type.offers .long = true) (missing : expression.readNull row = .ok true) :
    expression.number? row = none := by
  rw [readNull_of_number? typed conforms offered] at missing
  exact Option.isNone_iff_eq_none.mp (Except.ok.inj missing)

/-- The double view of an expression that is NULL is NULL, unless its last operation alone loses
the value. -/
theorem readDouble_of_readNull (typed : expression.WellTyped) (conforms : expression.Conforms row)
    (offered : expression.type.offers .double = true) (missing : expression.readNull row = .ok true)
    (keeps : ¬ expression.LosesValue row) : expression.readDouble row = .ok Null.double := by
  rcases ColumnType.offers_double_iff.mp offered with isDouble | integer
  · obtain ⟨word, read⟩ := exists_readDouble typed conforms offered
    rw [readNull_of_double isDouble read] at missing
    rw [read, Double.isNaN_iff.mp (Except.ok.inj missing)]
  · rw [readDouble_eq_integerAsDouble typed conforms integer,
      integerAsDouble_of_missing integer (number?_of_readNull typed conforms integer missing) keeps]

/-- If a comparison holds of the double view of an expression that is NULL, then the expression lost
its value in its last operation. One that keeps its NULL has no place in the order of doubles. -/
theorem losesValue_of_holds_left {word other : Float} (typed : expression.WellTyped)
    (conforms : expression.Conforms row) (offered : expression.type.offers .double = true)
    (read : expression.readDouble row = .ok word)
    (holds : op.holds (Word.compareDoubles word other) = true)
    (missing : expression.readNull row = .ok true) : expression.LosesValue row := by
  refine Classical.byContradiction fun keeps => ?_
  rw [readDouble_of_readNull typed conforms offered missing keeps] at read
  cases read
  rw [Double.compareDoubles_null_left, op.holds_none] at holds
  cases holds

theorem losesValue_of_holds_right {word other : Float} (typed : expression.WellTyped)
    (conforms : expression.Conforms row) (offered : expression.type.offers .double = true)
    (read : expression.readDouble row = .ok word)
    (holds : op.holds (Word.compareDoubles other word) = true)
    (missing : expression.readNull row = .ok true) : expression.LosesValue row := by
  refine Classical.byContradiction fun keeps => ?_
  rw [readDouble_of_readNull typed conforms offered missing keeps] at read
  cases read
  rw [Double.compareDoubles_null_right, op.holds_none] at holds
  cases holds

/-- A comparison of which an operand is NULL holds in one case only: the operands are compared as
doubles, every one of them that is NULL lost its value in its last operation, and the comparison
holds of the double views that are left. -/
theorem comparison_of_null {declared type : ColumnType}
    (checked : (Expr.binary declared (.comparison op) left right).check none = .ok type)
    (conforms : (Expr.binary declared (.comparison op) left right).Conforms row)
    (missing : left.readNull row = .ok true ∨ right.readNull row = .ok true) :
    ∃ verdict, (Expr.binary declared (.comparison op) left right).readBoolean row = .ok verdict ∧
      (verdict = true ↔ left.domain? right = some .double ∧
        (left.readNull row = .ok true → left.LosesValue row) ∧
        (right.readNull row = .ok true → right.LosesValue row) ∧
        ∃ leftWord rightWord, left.readDouble row = .ok leftWord ∧
          right.readDouble row = .ok rightWord ∧
          op.holds (Word.compareDoubles leftWord rightWord) = true) := by
  obtain ⟨typed, -⟩ := check_none_iff.mp checked
  cases typed with
  | @comparison _ domain _ _ leftTyped rightTyped shared =>
    obtain ⟨leftConforms, rightConforms⟩ := conforms_binary.mp conforms
    by_cases asDoubles : domain = .double
    · subst asDoubles
      obtain ⟨leftOffered, rightOffered, -⟩ := offers_double_of_double shared
      obtain ⟨leftWord, leftRead⟩ := exists_readDouble leftTyped leftConforms leftOffered
      obtain ⟨rightWord, rightRead⟩ := exists_readDouble rightTyped rightConforms rightOffered
      refine ⟨_, readBoolean_compareDoubles shared leftRead rightRead, ?_, ?_⟩
      · intro holds
        exact ⟨shared, losesValue_of_holds_left leftTyped leftConforms leftOffered leftRead holds,
          losesValue_of_holds_right rightTyped rightConforms rightOffered rightRead holds,
          leftWord, rightWord, leftRead, rightRead, holds⟩
      · rintro ⟨-, -, -, leftOther, rightOther, leftReadToo, rightReadToo, holds⟩
        rw [leftRead] at leftReadToo
        rw [rightRead] at rightReadToo
        cases leftReadToo
        cases rightReadToo
        exact holds
    · refine ⟨false, readBoolean_of_null leftTyped rightTyped leftConforms rightConforms shared
        asDoubles missing, nofun, ?_⟩
      rintro ⟨isDouble, -⟩
      rw [shared] at isDouble
      exact absurd (Option.some.inj isDouble) asDoubles

/-- A quotient by zero is NULL, and compared as a double it still exceeds one. -/
theorem comparison_of_quotient_by_zero :
    (Expr.binary .boolean (.comparison .greater)
      (.binary .int (.arithmetic .divide) (.atPosition 0 .int) (.ofInt 0))
      (.constant .double (.double (Float.ofBits 0x3FF0000000000000)))).readBoolean
        (.cells [.int 7]) = .ok true := by
  have checked : (Expr.binary .boolean (.comparison .greater)
      (.binary .int (.arithmetic .divide) (.atPosition 0 .int) (.ofInt 0))
      (.constant .double (.double (Float.ofBits 0x3FF0000000000000)))).check none =
        .ok .boolean := rfl
  have conforms : (Expr.binary .boolean (.comparison .greater)
      (.binary .int (.arithmetic .divide) (.atPosition 0 .int) (.ofInt 0))
      (.constant .double (.double (Float.ofBits 0x3FF0000000000000)))).Conforms
        (.cells [.int 7]) := by
    intro leaf member
    cases List.mem_singleton.mp member
    exact ⟨.int 7, rfl, rfl, nofun⟩
  obtain ⟨verdict, read, holds⟩ := comparison_of_null checked conforms (Or.inl rfl)
  have known : ¬ (Expr.constant .double (.double (Float.ofBits 0x3FF0000000000000))).readNull
      (.cells [.int 7]) = .ok true := nofun
  rw [read, holds.mpr ⟨rfl, fun _ => ⟨nofun, 7, 0, rfl, rfl, rfl⟩,
    fun missing => absurd missing known, _, _, rfl, rfl, rfl⟩]

/-- A sum that wraps onto the least word is NULL, and compared as a double it is still less than
zero. -/
theorem comparison_of_wrapped_sum :
    (Expr.binary .boolean (.comparison .less)
        (.binary .int (.arithmetic .add) (.ofInt 2147483647) (.ofInt 1))
        (.constant .double (.double (Float.ofBits 0)))).check none = .ok .boolean ∧
      (Expr.binary .int (.arithmetic .add) (.ofInt 2147483647) (.ofInt 1)).readNull
        (.cells []) = .ok true ∧
      (Expr.binary .boolean (.comparison .less)
        (.binary .int (.arithmetic .add) (.ofInt 2147483647) (.ofInt 1))
        (.constant .double (.double (Float.ofBits 0)))).readBoolean (.cells []) = .ok true :=
  ⟨rfl, rfl, rfl⟩

end Expr

end Columnar
