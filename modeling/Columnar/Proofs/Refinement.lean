/-
This file proves that the evaluator, which carries NULL in the words themselves, refines the meaning
in which NULL is the absence of a value and numbers have no bounds. No word is taken for NULL that
is a number and no NULL for a number, at any node of an expression: not where integers widen, not
where a result wraps onto the reserved word, and not where a timestamp has no segment. The value has
the declared type and hides no NULL in a tagged word, so its meaning leaves nothing about it open.
-/

import Columnar.Proofs.Soundness

namespace Columnar

namespace Value

/-! ### What the values of words mean -/

/-- What fits an integer type or a timestamp means its number. -/
theorem meaning_of_offers_long {value : Value} {type : ColumnType}
    (offered : type.offers .long = true) (fits : value.fits type = true) :
    value.meaning = value.number?.map .number := by
  cases type <;> cases offered <;> cases value <;> first | rfl | cases fits

theorem meaning_ofSymbol (code : Int32) :
    (ofSymbol code).meaning = (Word.code? code).map .code := by
  by_cases missing : code = Null.code
  · rw [missing]
    rfl
  · rw [ofSymbol, if_neg missing]
    rfl

theorem meaning_ofString (text : Option String) :
    (ofString text).meaning = text.map .text := by
  cases text <;> rfl

end Value

namespace Expr

variable {row : Row} {expression : Expr}

/-- An integer expression or a timestamp evaluates to a value that means its number. -/
theorem exists_number (typed : expression.WellTyped) (conforms : expression.Conforms row)
    (offered : expression.type.offers .long = true) :
    ∃ value, expression.evaluate row = .ok value ∧
      value.meaning = (expression.number? row).map .number := by
  obtain ⟨value, evaluates, fits, -⟩ := exists_evaluate typed conforms
  refine ⟨value, evaluates, ?_⟩
  rw [Value.meaning_of_offers_long offered fits,
    number?_of_evaluate typed conforms offered evaluates]

/-- Away from doubles an expression evaluates to a value that means what the expression means. -/
theorem exists_meaning (typed : expression.WellTyped) (conforms : expression.Conforms row)
    (exact : expression.WithoutDoubles) :
    ∃ value, expression.evaluate row = .ok value ∧ value.meaning = expression.meaning row := by
  unfold meaning
  cases known : expression.type with
  | boolean =>
    obtain ⟨word, read, means⟩ := exists_readBoolean typed conforms known
    refine ⟨.boolean word, evaluate_of_boolean known read, ?_⟩
    rw [means exact]
    rfl
  | int | long | date => exact exists_number typed conforms (by rw [known]; rfl)
  | double => exact absurd known exact.root
  | symbol =>
    obtain ⟨code, read, means⟩ := exists_readCode typed conforms known
    refine ⟨.ofSymbol code, evaluate_of_symbol known read, ?_⟩
    rw [Value.meaning_ofSymbol, means]
  | string =>
    have read := readText_eq typed conforms (by rw [known]; rfl) (resolvesText_of_string known)
    exact ⟨.ofString _, evaluate_of_string known read, Value.meaning_ofString _⟩

/-- An accepted expression without doubles evaluates, on every row that conforms to it, to a value
of its type that means what the expression means with NULL as the absence of a value and numbers
without bounds. -/
theorem evaluate_refines {type : ColumnType} (checked : expression.check none = .ok type)
    (exact : expression.WithoutDoubles) (conforms : expression.Conforms row) :
    ∃ value, expression.evaluate row = .ok value ∧ value.fits type = true ∧
      value.isReserved = false ∧ value.meaning = expression.meaning row := by
  obtain ⟨typed, rfl⟩ := check_none_iff.mp checked
  obtain ⟨value, evaluates, means⟩ := exists_meaning typed conforms exact
  obtain ⟨other, evaluatesToo, fits, unreserved⟩ := exists_evaluate typed conforms
  obtain rfl : value = other := Except.ok.inj (evaluates.symm.trans evaluatesToo)
  exact ⟨value, evaluates, fits, unreserved, means⟩

/-- A sum that wraps onto the least word has no value, although both operands have one. -/
theorem evaluate_refines_wrapped_sum :
    ∃ value, (Expr.binary .int (.arithmetic .add) (.atPosition 0 .int) (.ofInt 1)).evaluate
        (.cells [.int 2147483647]) = .ok value ∧ value.meaning = none := by
  have exact : (Expr.binary .int (.arithmetic .add) (.atPosition 0 .int)
      (.ofInt 1)).WithoutDoubles := by
    unfold WithoutDoubles
    decide
  have conforms : (Expr.binary .int (.arithmetic .add) (.atPosition 0 .int) (.ofInt 1)).Conforms
      (.cells [.int 2147483647]) := by
    intro leaf member
    cases List.mem_singleton.mp member
    exact ⟨.int 2147483647, rfl, rfl, nofun⟩
  obtain ⟨value, evaluates, -, -, means⟩ := evaluate_refines rfl exact conforms
  exact ⟨value, evaluates, means.trans (by decide)⟩

end Expr

end Columnar
