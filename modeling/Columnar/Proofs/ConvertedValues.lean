/-
This file says where the double view of an integer expression is the double of its value. A column,
a constant, a negative and a floor convert the word that they read, so there the two agree, NULL
included. An operation on two operands computes its double from the operands, and the two agree
there as well, unless both operands have a value and the operation does what only one of the two
computations sees: a division, which the double view does not cut off, and a result that wraps onto
the least number, which is NULL as a value but a number like the others before it is compared with
the reserved word. How the operands came by their values plays no part.
-/

import Columnar.Proofs.NullLeaves

namespace Columnar

/-- Apart from division an operation gives its wrapped result, unless that is the least number. -/
theorem ArithmeticOp.exact?_eq_wrapped {op : ArithmeticOp} (noQuotient : op ≠ .divide)
    (type : ColumnType) (left right : Int) :
    op.exact? type left right =
      if op.wrapped type left right = type.least then none
      else some (op.wrapped type left right) := by
  cases op with
  | add | subtract | multiply => rfl
  | divide => exact absurd rfl noQuotient

namespace Expr

variable {row : Row} {expression left right : Expr} {type : ColumnType} {op : ArithmeticOp}
  {leftNumber rightNumber : Int}

/-! ### Operations on two values -/

/-- The root of the expression is the operation, and its operands evaluate to the two numbers. -/
def Applies (row : Row) (expression : Expr) (op : ArithmeticOp) (leftNumber rightNumber : Int) :
    Prop :=
  ∃ left right leftValue rightValue,
    expression = .binary expression.type (.arithmetic op) left right ∧
      left.evaluate row = .ok leftValue ∧ leftValue.number? = some leftNumber ∧
      right.evaluate row = .ok rightValue ∧ rightValue.number? = some rightNumber

/-- The root of the expression divides two numbers, or what it makes of them wraps onto the least
number of its type. -/
def Departs (row : Row) (expression : Expr) : Prop :=
  ∃ op leftNumber rightNumber, expression.Applies row op leftNumber rightNumber ∧
    (op = .divide ∨ op.wrapped expression.type leftNumber rightNumber = expression.type.least)

/-- An operation applies to the numbers that its operands mean. -/
theorem applies_binary_iff (typed : (Expr.binary type (.arithmetic op) left right).WellTyped)
    (conforms : (Expr.binary type (.arithmetic op) left right).Conforms row)
    (offered : type.offers .long = true) :
    (Expr.binary type (.arithmetic op) left right).Applies row op leftNumber rightNumber ↔
      left.number? row = some leftNumber ∧ right.number? row = some rightNumber := by
  obtain ⟨leftConforms, rightConforms⟩ := conforms_binary.mp conforms
  obtain ⟨leftTyped, rightTyped, output⟩ := wellTyped_binary_iff.mp typed
  obtain ⟨leftOffered, rightOffered⟩ := op.operands_of_offers_long output offered
  obtain ⟨leftValue, leftEvaluates, -⟩ := exists_evaluate leftTyped leftConforms
  obtain ⟨rightValue, rightEvaluates, -⟩ := exists_evaluate rightTyped rightConforms
  rw [← number?_of_evaluate leftTyped leftConforms leftOffered leftEvaluates,
    ← number?_of_evaluate rightTyped rightConforms rightOffered rightEvaluates]
  constructor
  · rintro ⟨_, _, _, _, same, leftToo, leftStands, rightToo, rightStands⟩
    cases same
    rw [leftEvaluates] at leftToo
    rw [rightEvaluates] at rightToo
    cases leftToo
    cases rightToo
    exact ⟨leftStands, rightStands⟩
  · rintro ⟨leftStands, rightStands⟩
    exact ⟨left, right, leftValue, rightValue, rfl, leftEvaluates, leftStands, rightEvaluates,
      rightStands⟩

/-! ### The double view -/

/-- The operation reads as a double what its rule makes of the two numbers. -/
theorem integerAsDouble_of_applies (typed : expression.WellTyped)
    (conforms : expression.Conforms row) (offered : expression.type.offers .long = true)
    (applies : expression.Applies row op leftNumber rightNumber) :
    expression.integerAsDouble row =
        op.asDouble expression.type (some leftNumber) (some rightNumber) ∧
      expression.number? row = op.exact? expression.type leftNumber rightNumber := by
  have ⟨left, right, _, _, shape, _⟩ := applies
  rw [shape] at typed conforms applies ⊢
  obtain ⟨leftMeans, rightMeans⟩ := (applies_binary_iff typed conforms offered).mp applies
  rw [integerAsDouble, number?, leftMeans, rightMeans]
  exact ⟨rfl, rfl⟩

/-- Where it does not depart from it, the double view converts the number that the expression
means. -/
theorem integerAsDouble_of_not_departs (typed : expression.WellTyped)
    (conforms : expression.Conforms row) (offered : expression.type.offers .long = true)
    (keeps : ¬ expression.Departs row) :
    expression.integerAsDouble row = Word.doubleOf (expression.number? row) := by
  cases expression with
  | column | constant | unary => rfl
  | binary type op left right =>
    cases op with
    | comparison | logical => rfl
    | arithmetic op =>
      rw [integerAsDouble, number?]
      cases leftMeans : left.number? row with
      | none => rfl
      | some leftNumber =>
        cases rightMeans : right.number? row with
        | none => rfl
        | some rightNumber =>
          have applies := (applies_binary_iff typed conforms offered).mpr ⟨leftMeans, rightMeans⟩
          have inside : ¬ (op = .divide ∨ op.wrapped type leftNumber rightNumber = type.least) :=
            fun departs => keeps ⟨op, leftNumber, rightNumber, applies, departs⟩
          obtain ⟨noQuotient, notLeast⟩ := not_or.mp inside
          rw [Option.bind_some, Option.bind_some, op.exact?_eq_wrapped noQuotient,
            if_neg notLeast, ArithmeticOp.asDouble, if_neg noQuotient, Word.doubleOf]

/-- An integer expression of 32 bits has the same double as one of 64 bits. -/
theorem exists_doubles_of_int (typed : expression.WellTyped) (conforms : expression.Conforms row)
    (isInt : expression.type = .int) :
    ∃ word wide, expression.readInt row = .ok word ∧ expression.readLong row = .ok wide ∧
      Word.intToDouble word = Word.doubleOf (expression.number? row) ∧
      Word.longToDouble wide = Word.doubleOf (expression.number? row) := by
  obtain ⟨word, read, means⟩ := exists_readInt typed conforms isInt
  refine ⟨word, Word.widen word, read, readLong_of_int isInt read, ?_, ?_⟩
  · rw [Word.intToDouble_eq, means]
  · rw [Word.longToDouble_eq, Word.long?_widen, means]

/-- An integer expression or a timestamp that the check accepts reads as the double of its value,
and as a double that is no number if the value is NULL; one of 32 bits reads so whether its word is
converted at once or widened first. The exceptions are the operations on two operands that have
values: a quotient reads as the quotient of the doubles of the two values, and any other operation
whose result wraps onto the least number of the type reads as the double of this number, although
its value is NULL. -/
theorem readDouble_of_integer (checked : expression.check none = .ok type)
    (integral : type ∈ [.int, .long, .date]) (conforms : expression.Conforms row) :
    ∃ value double, expression.evaluate row = .ok value ∧ expression.readDouble row = .ok double ∧
      (¬ expression.Departs row →
        (value = .null ∧ double.isNaN = true ∨
          ∃ number, value.number? = some number ∧ double = Word.nearestDouble number) ∧
        (type = .int → ∃ word wide,
          expression.readInt row = .ok word ∧ expression.readLong row = .ok wide ∧
            double = Word.intToDouble word ∧ double = Word.longToDouble wide)) ∧
      (∀ leftNumber rightNumber, expression.Applies row .divide leftNumber rightNumber →
        double = Word.nearestDouble leftNumber / Word.nearestDouble rightNumber) ∧
      (∀ op leftNumber rightNumber, op ≠ .divide →
        expression.Applies row op leftNumber rightNumber →
        op.wrapped type leftNumber rightNumber = type.least →
        value = .null ∧ double = Word.nearestDouble type.least) := by
  obtain ⟨typed, rfl⟩ := check_none_iff.mp checked
  have offered := ColumnType.offers_long_iff_mem.mpr integral
  obtain ⟨value, evaluates, proper⟩ := exists_evaluate typed conforms
  have stands := number?_of_evaluate typed conforms offered evaluates
  have reads := readDouble_eq_integerAsDouble typed conforms offered
  refine ⟨value, expression.integerAsDouble row, evaluates, reads,
    fun keeps => ⟨?_, fun isInt => ?_⟩, ?_, ?_⟩
  · rw [integerAsDouble_of_not_departs typed conforms offered keeps, ← stands]
    cases known : value.number? with
    | none => exact Or.inl ⟨Value.eq_null_of_number? proper offered known, Double.isNaN_iff.mpr rfl⟩
    | some number => exact Or.inr ⟨number, rfl, rfl⟩
  · rw [integerAsDouble_of_not_departs typed conforms offered keeps]
    obtain ⟨word, wide, read, readWide, converted, widened⟩ :=
      exists_doubles_of_int typed conforms isInt
    exact ⟨word, wide, read, readWide, converted.symm, widened.symm⟩
  · intro leftNumber rightNumber applies
    rw [(integerAsDouble_of_applies typed conforms offered applies).1]
    rfl
  · intro op leftNumber rightNumber noQuotient applies wraps
    obtain ⟨asDouble, means⟩ := integerAsDouble_of_applies typed conforms offered applies
    rw [op.exact?_eq_wrapped noQuotient, if_pos wraps] at means
    refine ⟨Value.eq_null_of_number? proper offered (stands.trans means), ?_⟩
    rw [asDouble, ArithmeticOp.asDouble, if_neg noQuotient, wraps]

/-- A quotient reads as the quotient of doubles, and its negative reads as the double of its own
value, which is cut off. -/
theorem readDouble_of_integer_quotient :
    (Expr.binary .int (.arithmetic .divide) (.atPosition 0 .int) (.ofInt 2)).readDouble
        (.cells [.int 7]) = .ok (Word.nearestDouble 7 / Word.nearestDouble 2) ∧
      (Expr.unary .int .negate
        (.binary .int (.arithmetic .divide) (.atPosition 0 .int) (.ofInt 2))).readDouble
          (.cells [.int 7]) = .ok (Word.nearestDouble (-3)) := by
  have conforms : (Expr.binary .int (.arithmetic .divide) (.atPosition 0 .int)
      (.ofInt 2)).Conforms (.cells [.int 7]) := by
    intro leaf member
    cases List.mem_singleton.mp member
    exact ⟨.int 7, rfl, rfl, nofun⟩
  have checked : (Expr.binary .int (.arithmetic .divide) (.atPosition 0 .int)
      (.ofInt 2)).check none = .ok .int := rfl
  have negativeConforms : (Expr.unary .int .negate (.binary .int (.arithmetic .divide)
      (.atPosition 0 .int) (.ofInt 2))).Conforms (.cells [.int 7]) := conforms
  have negativeChecked : (Expr.unary .int .negate (.binary .int (.arithmetic .divide)
      (.atPosition 0 .int) (.ofInt 2))).check none = .ok .int := rfl
  constructor
  · obtain ⟨value, double, -, read, -, divides, -⟩ :=
      readDouble_of_integer checked (by decide) conforms
    rw [read, divides 7 2 ⟨_, _, _, _, rfl, rfl, rfl, rfl, rfl⟩]
  · obtain ⟨value, double, evaluates, read, agrees, -⟩ :=
      readDouble_of_integer negativeChecked (by decide) negativeConforms
    obtain rfl : value = .int (-3) := (Except.ok.inj evaluates).symm
    obtain ⟨⟨isNull, -⟩ | ⟨number, stands, converted⟩, -⟩ :=
      agrees fun ⟨_, _, _, ⟨_, _, _, _, shape, _⟩, _⟩ => nomatch shape
    · cases isNull
    · obtain rfl : number = -3 := (Option.some.inj stands).symm
      rw [read, converted]

end Expr

end Columnar
