/-
This file compares the two ways of writing NULL in a value: as such, and as the reserved word of a
type. To make NULL explicit in an expression and in a row changes no answer, for every view gives
the reserved word in both cases. What the check accepts changes in one case only. A constant that is
declared a symbol and holds the reserved code has no text, so it cannot be compared with a string;
the explicit NULL can. Two symbols can be compared either way. If making NULL explicit moves them
from their codes to their texts, one of them is NULL, and the comparison is false in both domains.
-/

import Columnar.Proofs.NullComparison
import Columnar.Proofs.Replacement

namespace Columnar

/-! ### Values and rows -/

namespace Value

/-- The value with NULL made explicit. -/
def explicit (value : Value) : Value :=
  if value.isReserved then .null else value

theorem fits_explicit {value : Value} {type : ColumnType} (fits : value.fits type = true) :
    value.explicit.fits type = true := by
  unfold explicit
  split
  · rfl
  · exact fits

/-- A value and its explicit form have the same words: those of a reserved word are NULL. -/
theorem sameWords_explicit (value : Value) : value.explicit.SameWords value := by
  unfold explicit
  split
  · next reserved =>
    cases value with
    | null | boolean | string => cases reserved
    | int word =>
      obtain rfl := beq_iff_eq.mp reserved
      exact ⟨rfl, rfl, rfl, rfl, rfl, rfl⟩
    | long word =>
      obtain rfl := beq_iff_eq.mp reserved
      exact ⟨rfl, rfl, rfl, rfl, rfl, rfl⟩
    | double word =>
      obtain rfl := Double.isNaN_iff.mp reserved
      exact ⟨rfl, rfl, rfl, rfl, rfl, rfl⟩
    | date micros =>
      obtain rfl := beq_iff_eq.mp reserved
      exact ⟨rfl, rfl, rfl, rfl, rfl, rfl⟩
    | symbol code =>
      obtain rfl := beq_iff_eq.mp reserved
      exact ⟨rfl, rfl, rfl, rfl, rfl, rfl⟩
  · exact ⟨rfl, rfl, rfl, rfl, rfl, rfl⟩

theorem eq_of_explicit_eq_symbol {value : Value} {code : Int32}
    (shown : value.explicit = .symbol code) : value = .symbol code := by
  unfold explicit at shown
  split at shown
  · cases shown
  · exact shown

end Value

namespace Row

/-- The row with NULL made explicit in its cells. -/
def explicit : Row → Row
  | .cells values => .cells (values.map Value.explicit)
  | .empty => .empty

theorem cell_explicit {row : Row} {position : Nat} {value : Value}
    (held : row.cell position = .ok value) :
    row.explicit.cell position = .ok value.explicit := by
  cases row with
  | empty => cases held
  | cells values =>
    rw [cell] at held
    rw [explicit, cell, List.getElem?_map]
    cases found : values[position]? with
    | none =>
      rw [found] at held
      cases held
    | some other =>
      rw [found] at held
      cases held
      rfl

theorem fits_explicit {row : Row} {type : ColumnType} {source : Column}
    (fits : row.Fits type source) : row.explicit.Fits type source := by
  obtain ⟨value, held, fits, holds⟩ := fits
  exact ⟨value.explicit, cell_explicit held, Value.fits_explicit fits, fun table code bound shown =>
    holds table code bound (Value.eq_of_explicit_eq_symbol shown)⟩

end Row

namespace Expr

variable {row : Row} {expression operand left right : Expr} {type : ColumnType}

/-! ### Expressions -/

/-- The expression with NULL made explicit in its constants. -/
def explicit : Expr → Expr
  | .column type source => .column type source
  | .constant type value => .constant type value.explicit
  | .unary type op operand => .unary type op operand.explicit
  | .binary type op left right => .binary type op left.explicit right.explicit

theorem explicit_type (expression : Expr) : expression.explicit.type = expression.type := by
  cases expression <;> rfl

theorem columns_explicit (expression : Expr) :
    expression.explicit.columns = expression.columns := by
  induction expression with
  | column type source => rfl
  | constant type value => rfl
  | unary type op operand inductionHypothesis => exact inductionHypothesis
  | binary type op left right leftHypothesis rightHypothesis =>
    rw [explicit, columns, columns, leftHypothesis, rightHypothesis]

theorem conforms_explicit (conforms : expression.Conforms row) :
    expression.explicit.Conforms row.explicit := by
  intro leaf member
  rw [columns_explicit] at member
  exact Row.fits_explicit (conforms leaf member)

/-- The constants of the expression fit the types that they are declared with. -/
def ConstantsFit (expression : Expr) : Prop :=
  ∀ type value, Expr.constant type value ∈ expression.nodes → value.fits type = true

theorem constantsFit_unary {op : UnaryOp} :
    (Expr.unary type op operand).ConstantsFit ↔ operand.ConstantsFit := by
  simp only [ConstantsFit, nodes, List.mem_cons, reduceCtorEq, false_or]

theorem constantsFit_binary {op : BinaryOp} :
    (Expr.binary type op left right).ConstantsFit ↔ left.ConstantsFit ∧ right.ConstantsFit := by
  simp only [ConstantsFit, nodes, List.mem_cons, reduceCtorEq, false_or, List.mem_append, or_imp,
    forall_and]

/-! ### The reserved code as a constant -/

/-- The constant that is declared a symbol and holds the reserved code. -/
def nullCode : Expr :=
  .constant .symbol (.symbol Null.code)

/-- The node compares the reserved code with a string. -/
def SetsCodeAgainstString : Expr → Prop
  | .binary _ (.comparison _) left right =>
    left = nullCode ∧ right.type = .string ∨ left.type = .string ∧ right = nullCode
  | _ => False

/-- Making NULL explicit gives a text to the reserved code, and to nothing else. -/
theorem resolvesText_explicit_iff (fit : expression.ConstantsFit)
    (offered : expression.type.offers .text = true) :
    expression.explicit.resolvesText = true ↔
      expression.resolvesText = true ∨ expression = nullCode := by
  rcases ColumnType.offers_text_iff.mp offered with isString | isSymbol
  · have resolves := resolvesText_of_string isString
    have stillResolves := resolvesText_of_string ((explicit_type expression).trans isString)
    simp only [resolves, stillResolves, true_or]
  · cases expression with
    | column type source => simp only [explicit, nullCode, reduceCtorEq, or_false]
    | constant type value =>
      obtain rfl : type = .symbol := isSymbol
      rcases Value.eq_of_fits_symbol (fit _ _ (List.mem_singleton_self _)) with rfl | ⟨code, rfl⟩
      · exact ⟨fun _ => .inl rfl, fun _ => rfl⟩
      · by_cases reserved : code = Null.code
        · rw [reserved]
          exact ⟨fun _ => .inr rfl, fun _ => rfl⟩
        · rw [explicit, Value.explicit, if_neg (by simpa only [Value.isReserved, beq_iff_eq])]
          simp only [nullCode, Expr.constant.injEq, Value.symbol.injEq, reserved, and_false,
            or_false]
    | unary type op operand =>
      simp only [explicit, nullCode, resolvesText, Expr.type, reduceCtorEq, or_false]
    | binary type op left right =>
      simp only [explicit, nullCode, resolvesText, Expr.type, reduceCtorEq, or_false]

theorem not_resolvesText_nullCode : ¬ nullCode.resolvesText = true := nofun

/-- If making NULL explicit changes the domain, then one side is the reserved code. -/
theorem eq_nullCode_of_domain?_ne (leftFit : left.ConstantsFit) (rightFit : right.ConstantsFit)
    (changed : left.explicit.domain? right.explicit ≠ left.domain? right) :
    left = nullCode ∨ right = nullCode := by
  refine Decidable.byContradiction fun apart => changed ?_
  obtain ⟨leftApart, rightApart⟩ := not_or.mp apart
  refine domain?_congr (explicit_type left) (explicit_type right) (fun offered => ?_)
    fun offered => ?_
  · rw [Bool.eq_iff_iff, resolvesText_explicit_iff leftFit offered, or_iff_left leftApart]
  · rw [Bool.eq_iff_iff, resolvesText_explicit_iff rightFit offered, or_iff_left rightApart]

/-- Expressions share a domain if they share one with NULL made explicit, and neither of them is the
reserved code while the other is a string. -/
theorem isSome_domain?_explicit_iff (leftFit : left.ConstantsFit) (rightFit : right.ConstantsFit) :
    (left.domain? right).isSome = true ↔
      (left.explicit.domain? right.explicit).isSome = true ∧
        ¬ (left = nullCode ∧ right.type = .string ∨ left.type = .string ∧ right = nullCode) := by
  rw [isSome_domain?_iff, isSome_domain?_iff, explicit_type, explicit_type]
  constructor
  · rintro ⟨typesMeet, texts⟩
    refine ⟨⟨typesMeet, fun isText => ?_⟩, ?_⟩
    · obtain ⟨leftOffered, rightOffered⟩ := Domain.offers_text_of_ofTypes? isText
      refine (texts isText).imp_left fun ⟨leftResolves, rightResolves⟩ => ⟨?_, ?_⟩
      · exact (resolvesText_explicit_iff leftFit leftOffered).mpr (.inl leftResolves)
      · exact (resolvesText_explicit_iff rightFit rightOffered).mpr (.inl rightResolves)
    · rintro (⟨rfl, isString⟩ | ⟨isString, rfl⟩)
      · rcases texts (by rw [isString]; rfl) with ⟨leftResolves, -⟩ | same
        · exact not_resolvesText_nullCode leftResolves
        · cases same.trans isString
      · rcases texts (by rw [isString]; rfl) with ⟨-, rightResolves⟩ | same
        · exact not_resolvesText_nullCode rightResolves
        · cases isString.symm.trans same
  · rintro ⟨⟨typesMeet, texts⟩, apart⟩
    refine ⟨typesMeet, fun isText => ?_⟩
    obtain ⟨leftOffered, rightOffered⟩ := Domain.offers_text_of_ofTypes? isText
    rcases texts isText with ⟨leftResolves, rightResolves⟩ | same
    · rw [resolvesText_explicit_iff leftFit leftOffered] at leftResolves
      rw [resolvesText_explicit_iff rightFit rightOffered] at rightResolves
      -- Beside the reserved code stands a symbol, for a string would be set against it.
      rcases leftResolves with leftResolves | rfl
      · rcases rightResolves with rightResolves | rfl
        · exact .inl ⟨leftResolves, rightResolves⟩
        · rcases ColumnType.offers_text_iff.mp leftOffered with isString | isSymbol
          · exact absurd (.inr ⟨isString, rfl⟩) apart
          · exact .inr isSymbol
      · rcases ColumnType.offers_text_iff.mp rightOffered with isString | isSymbol
        · exact absurd (.inl ⟨rfl, isString⟩) apart
        · exact .inr isSymbol.symm
    · exact .inr same

/-- No comparison of the expression sets the reserved code against a string. -/
def KeepsCodesApart (expression : Expr) : Prop :=
  ∀ node ∈ expression.nodes, ¬ node.SetsCodeAgainstString

theorem keepsCodesApart_unary {op : UnaryOp} :
    (Expr.unary type op operand).KeepsCodesApart ↔ operand.KeepsCodesApart := by
  simp only [KeepsCodesApart, nodes, List.forall_mem_cons, SetsCodeAgainstString, not_false_eq_true,
    true_and]

theorem keepsCodesApart_binary {op : BinaryOp} :
    (Expr.binary type op left right).KeepsCodesApart ↔
      left.KeepsCodesApart ∧ right.KeepsCodesApart ∧
        ¬ (Expr.binary type op left right).SetsCodeAgainstString := by
  simp only [KeepsCodesApart, nodes, List.forall_mem_cons, List.forall_mem_append]
  rw [and_comm, and_assoc]

/-! ### What the check accepts -/

theorem resultType?_explicit_iff (declared : ColumnType) {op : BinaryOp}
    (leftFit : left.ConstantsFit) (rightFit : right.ConstantsFit) :
    resultType? op left right left.type right.type = some type ↔
      resultType? op left.explicit right.explicit left.explicit.type right.explicit.type =
          some type ∧
        ¬ (Expr.binary declared op left right).SetsCodeAgainstString := by
  cases op with
  | arithmetic op =>
    rw [explicit_type, explicit_type]
    exact ⟨fun output => ⟨output, id⟩, And.left⟩
  | logical op =>
    rw [explicit_type, explicit_type]
    exact ⟨fun output => ⟨output, id⟩, And.left⟩
  | comparison op =>
    rw [resultType?_comparison, resultType?_comparison, ← Option.isSome_iff_exists,
      ← Option.isSome_iff_exists, isSome_domain?_explicit_iff leftFit rightFit]
    exact ⟨fun ⟨⟨shared, apart⟩, isBoolean⟩ => ⟨⟨shared, isBoolean⟩, apart⟩,
      fun ⟨⟨shared, isBoolean⟩, apart⟩ => ⟨⟨shared, apart⟩, isBoolean⟩⟩

/-- An expression follows the rules if and only if it does so with NULL made explicit, and keeps the
reserved code apart from strings. -/
theorem wellTyped_explicit_iff (fit : expression.ConstantsFit) :
    expression.WellTyped ↔ expression.explicit.WellTyped ∧ expression.KeepsCodesApart := by
  induction expression with
  | column type source =>
    exact ⟨fun typed => ⟨typed, List.forall_mem_singleton.mpr id⟩, And.left⟩
  | constant type value =>
    have fits := fit type value (List.mem_singleton_self _)
    exact ⟨fun _ => ⟨.constant (Value.fits_explicit fits), List.forall_mem_singleton.mpr id⟩,
      fun _ => .constant fits⟩
  | unary type op operand inductionHypothesis =>
    rw [explicit, wellTyped_unary_iff, wellTyped_unary_iff, explicit_type, keepsCodesApart_unary,
      inductionHypothesis (constantsFit_unary.mp fit)]
    exact and_right_comm
  | binary type op left right leftHypothesis rightHypothesis =>
    obtain ⟨leftFit, rightFit⟩ := constantsFit_binary.mp fit
    rw [explicit, wellTyped_binary_iff, wellTyped_binary_iff, keepsCodesApart_binary,
      leftHypothesis leftFit, rightHypothesis rightFit,
      resultType?_explicit_iff type leftFit rightFit]
    constructor
    · rintro ⟨⟨leftTyped, leftApart⟩, ⟨rightTyped, rightApart⟩, output, apart⟩
      exact ⟨⟨leftTyped, rightTyped, output⟩, leftApart, rightApart, apart⟩
    · rintro ⟨⟨leftTyped, rightTyped, output⟩, leftApart, rightApart, apart⟩
      exact ⟨⟨leftTyped, leftApart⟩, ⟨rightTyped, rightApart⟩, output, apart⟩

/-! ### What expressions answer -/

theorem column_matches_explicit {source : Column} (fits : row.Fits type source) :
    (Expr.column type source).Matches row row.explicit (.column type source) := by
  obtain ⟨value, held, fits, -⟩ := fits
  have explicitHeld := Row.cell_explicit held
  have explicitFits := Value.fits_explicit fits
  have sameWords := value.sameWords_explicit
  refine matches_of_shows (.column held) fits (.column explicitHeld) explicitFits sameWords ?_
  rintro rfl -
  -- The table of the column is asked for the same code on both rows.
  have codes : row.explicit.readCode source.position = row.readCode source.position :=
    (readCode_column explicitHeld explicitFits).trans
      ((congrArg Except.ok sameWords.code).trans (readCode_column held fits).symm)
  rw [readText, readText, codes]

theorem constant_matches_explicit {value : Value} (fits : value.fits type = true) :
    (Expr.constant type value).Matches row row.explicit (.constant type value.explicit) := by
  refine matches_of_shows .constant fits .constant (Value.fits_explicit fits)
    value.sameWords_explicit ?_
  rintro rfl resolves
  cases value <;> first | rfl | cases resolves

theorem readNull_nullCode (row : Row) : nullCode.readNull row = .ok true := rfl

theorem ne_double_of_nullCode {domain : Domain} (shared : left.domain? right = some domain)
    (isSymbol : left.type = .symbol ∨ right.type = .symbol) : domain ≠ .double := by
  rintro rfl
  obtain ⟨leftOffered, rightOffered, -⟩ := offers_double_of_double shared
  rcases isSymbol with isSymbol | isSymbol
  · rw [isSymbol] at leftOffered
    cases leftOffered
  · rw [isSymbol] at rightOffered
    cases rightOffered

/-- A comparison with the reserved code is false, and stays so when NULL is made explicit, whatever
the domain is then. -/
theorem comparison_matches_explicit_of_nullCode {op : ComparisonOp}
    (typed : (Expr.binary .boolean (.comparison op) left right).WellTyped)
    (explicitTyped : (Expr.binary .boolean (.comparison op) left right).explicit.WellTyped)
    (conforms : (Expr.binary .boolean (.comparison op) left right).Conforms row)
    (leftAlike : left.Matches row row.explicit left.explicit)
    (rightAlike : right.Matches row row.explicit right.explicit)
    (present : left = nullCode ∨ right = nullCode) :
    (Expr.binary .boolean (.comparison op) left right).Matches row row.explicit
      (Expr.binary .boolean (.comparison op) left right).explicit := by
  have isSymbol : left.type = .symbol ∨ right.type = .symbol :=
    present.imp (fun same => by rw [same]; rfl) fun same => by rw [same]; rfl
  have missing : left.readNull row = .ok true ∨ right.readNull row = .ok true :=
    present.imp (fun same => by rw [same, readNull_nullCode])
      fun same => by rw [same, readNull_nullCode]
  obtain ⟨leftConforms, rightConforms⟩ := conforms_binary.mp conforms
  cases typed with
  | comparison leftTyped rightTyped shared =>
    cases explicitTyped with
    | comparison leftExplicitTyped rightExplicitTyped explicitShared =>
      refine matches_of_boolean rfl rfl ?_
      rw [readBoolean_of_null leftTyped rightTyped leftConforms rightConforms shared
        (ne_double_of_nullCode shared isSymbol) missing, explicit]
      refine readBoolean_of_null leftExplicitTyped rightExplicitTyped
        (conforms_explicit leftConforms) (conforms_explicit rightConforms) explicitShared
        (ne_double_of_nullCode explicitShared ?_) ?_
      · rwa [explicit_type, explicit_type]
      · rwa [leftAlike.readNull_eq, rightAlike.readNull_eq]

/-- On a row that conforms to it, an expression answers what it answers with NULL made explicit in
both. -/
theorem matches_explicit (fit : expression.ConstantsFit) (typed : expression.WellTyped)
    (conforms : expression.Conforms row) :
    expression.Matches row row.explicit expression.explicit := by
  induction expression with
  | column type source => exact column_matches_explicit (conforms_column.mp conforms)
  | constant type value =>
    exact constant_matches_explicit (fit type value (List.mem_singleton_self _))
  | unary type op operand inductionHypothesis =>
    obtain ⟨operandTyped, -⟩ := wellTyped_unary_iff.mp typed
    exact matches_unary typed
      (inductionHypothesis (constantsFit_unary.mp fit) operandTyped conforms)
  | binary type op left right leftHypothesis rightHypothesis =>
    obtain ⟨leftFit, rightFit⟩ := constantsFit_binary.mp fit
    obtain ⟨leftTyped, rightTyped, output⟩ := wellTyped_binary_iff.mp typed
    obtain ⟨leftConforms, rightConforms⟩ := conforms_binary.mp conforms
    have leftAlike := leftHypothesis leftFit leftTyped leftConforms
    have rightAlike := rightHypothesis rightFit rightTyped rightConforms
    by_cases stays : left.explicit.domain? right.explicit = left.domain? right
    · exact matches_binary typed leftAlike rightAlike fun _ => stays
    · cases op with
      | arithmetic op => exact matches_binary typed leftAlike rightAlike nofun
      | logical op => exact matches_binary typed leftAlike rightAlike nofun
      | comparison op =>
        obtain ⟨-, rfl⟩ := resultType?_comparison.mp output
        exact comparison_matches_explicit_of_nullCode typed
          ((wellTyped_explicit_iff fit).mp typed).1 conforms leftAlike rightAlike
          (eq_nullCode_of_domain?_ne leftFit rightFit stays)

/-- Take an expression whose constants fit their types, and a row that conforms to it. The check
accepts the expression if and only if it accepts it with NULL made explicit, and if no comparison
sets a constant that is declared a symbol and holds the reserved code against a string. What it
accepts has the same type with NULL made explicit, and the same value. -/
theorem check_and_evaluate_explicit
    (fit : ∀ type value, Expr.constant type value ∈ expression.nodes → value.fits type = true)
    (conforms : expression.Conforms row) :
    (∀ type, expression.check none = .ok type ↔
        expression.explicit.check none = .ok type ∧
          ∀ node ∈ expression.nodes, ¬ node.SetsCodeAgainstString) ∧
      ∀ type, expression.check none = .ok type →
        ∃ value, expression.evaluate row = .ok value ∧
          expression.explicit.evaluate row.explicit = .ok value := by
  refine ⟨fun type => ?_, fun type checked => ?_⟩
  · rw [check_none_iff, check_none_iff, wellTyped_explicit_iff fit, explicit_type]
    exact and_right_comm
  · obtain ⟨typed, -⟩ := check_none_iff.mp checked
    obtain ⟨value, evaluates, -⟩ := exists_evaluate typed conforms
    exact ⟨value, evaluates, (matches_explicit fit typed conforms).evaluate_eq.trans evaluates⟩

/-- A symbol column with a table is compared with the reserved code as a code, and with the explicit
NULL as a text. -/
theorem check_and_evaluate_explicit_code :
    ∃ value, (Expr.binary .boolean (.comparison .equal) (.bound 0 .schemes)
        (.constant .symbol (.symbol (-1)))).evaluate (.cells [.symbol (-1)]) = .ok value ∧
      (Expr.binary .boolean (.comparison .equal) (.bound 0 .schemes)
        (.constant .symbol (.symbol (-1)))).explicit.evaluate
          (Row.cells [.symbol (-1)]).explicit = .ok value := by
  have fit : ∀ type value, Expr.constant type value ∈ (Expr.binary .boolean (.comparison .equal)
      (.bound 0 .schemes) (.constant .symbol (.symbol (-1)))).nodes → value.fits type = true := by
    intro type value member
    simp only [nodes, bound, List.cons_append, List.nil_append, List.mem_cons, reduceCtorEq,
      Expr.constant.injEq, List.not_mem_nil, false_or, or_false] at member
    obtain ⟨rfl, rfl⟩ := member
    rfl
  have conforms : (Expr.binary .boolean (.comparison .equal) (.bound 0 .schemes)
      (.constant .symbol (.symbol (-1)))).Conforms (.cells [.symbol (-1)]) := by
    intro leaf member
    cases List.mem_singleton.mp member
    refine ⟨.symbol (-1), rfl, rfl, ?_⟩
    rintro table code - isCode
    cases isCode
    exact .inl rfl
  exact (check_and_evaluate_explicit fit conforms).2 .boolean rfl

/-- Compared with a string the reserved code is refused, and the explicit NULL is accepted. -/
theorem check_explicit_code_against_string :
    (∀ type value, Expr.constant type value ∈ (Expr.binary .boolean (.comparison .equal)
        (.constant .symbol (.symbol (-1))) (.ofString "x")).nodes → value.fits type = true) ∧
      (Expr.binary .boolean (.comparison .equal) (.constant .symbol (.symbol (-1)))
        (.ofString "x")).Conforms (.cells []) ∧
      ¬ ∀ type, (Expr.binary .boolean (.comparison .equal) (.constant .symbol (.symbol (-1)))
          (.ofString "x")).check none = .ok type ↔
        (Expr.binary .boolean (.comparison .equal) (.constant .symbol (.symbol (-1)))
          (.ofString "x")).explicit.check none = .ok type := by
  refine ⟨?_, conforms_of_isConstant rfl _, fun same => ?_⟩
  · intro type value member
    simp only [nodes, ofString, List.cons_append, List.nil_append, List.mem_cons, reduceCtorEq,
      Expr.constant.injEq, List.not_mem_nil, false_or, or_false] at member
    obtain ⟨rfl, rfl⟩ | ⟨rfl, rfl⟩ := member
    · rfl
    · rfl
  · cases (same .boolean).mpr rfl

end Expr

end Columnar
