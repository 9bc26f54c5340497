/-
This file proves that a part of an expression can be exchanged for another part. The nodes above it
ask three things of a part: whether it is declared rightly, what type it is declared with, and
whether it can be read as text, for that decides how a symbol is compared. If another part agrees in
these, the check cannot tell the two apart from outside. The answers are another matter. Each node
chooses the view through which it reads its operand, so the parts have to answer alike through every
view that their type offers; agreeing in their values is not enough. What lies between the root and
the part is a list of nodes that each lack one operand. One node carries what the parts have in
common over to itself, and by induction on the list so do all of them.
-/

import Columnar.Proofs.Replacement

namespace Columnar

namespace Expr

variable {row otherRow : Row} {expression part other : Expr} {question : Question}

/-! ### Questions that a type admits -/

/-- The questions to be asked of an expression: its value, whether it is NULL, and every view that
its type offers. The text of a symbol is asked for only where it can be found. -/
def Admits (expression : Expr) : Question → Prop
  | .through view =>
    expression.type.offers view = true ∧ (view = .text → expression.resolvesText = true)
  | .null => True
  | .value => True

/-- Such a question is answered on every row that conforms to the expression. -/
theorem exists_answer (typed : expression.WellTyped) (conforms : expression.Conforms row)
    (admitted : expression.Admits question) :
    ∃ answer, expression.ask row question = .ok answer := by
  cases question with
  | through view =>
    obtain ⟨offered, resolves⟩ := admitted
    by_cases isText : view = .text
    · rw [isText] at offered ⊢
      exact ⟨_, readText_eq typed conforms offered (resolves isText)⟩
    · exact exists_read typed conforms offered fun text => absurd text isText
  | null =>
    obtain ⟨missing, read, -⟩ := exists_readNull typed conforms
    exact ⟨missing, read⟩
  | value =>
    obtain ⟨value, evaluates, -⟩ := exists_evaluate typed conforms
    exact ⟨value, evaluates⟩

theorem matches_self (row : Row) (expression : Expr) : expression.Matches row row expression :=
  ⟨rfl, fun _ _ _ => rfl⟩

theorem Matches.ask_eq (alike : expression.Matches row otherRow other)
    (admitted : expression.Admits question) :
    other.ask otherRow question = expression.ask row question := by
  cases question with
  | through view => exact alike.views view admitted.1 admitted.2
  | null => exact alike.readNull_eq
  | value => exact alike.evaluate_eq

/-! ### Surroundings -/

/-- A node that lacks one operand. -/
inductive Frame
  | unary (type : ColumnType) (op : UnaryOp)
  /-- The left operand is lacking. -/
  | left (type : ColumnType) (op : BinaryOp) (beside : Expr)
  /-- The right operand is lacking. -/
  | right (type : ColumnType) (op : BinaryOp) (beside : Expr)

/-- The node with a part for the operand that it lacks. -/
def Frame.plug (part : Expr) : Frame → Expr
  | .unary type op => .unary type op part
  | .left type op beside => .binary type op part beside
  | .right type op beside => .binary type op beside part

/-- The expression that has a part below the nodes, the outermost of which stands first. -/
def surround : List Frame → Expr → Expr
  | [], part => part
  | frame :: frames, part => frame.plug (surround frames part)

theorem wellTyped_of_plug {frame : Frame} (typed : (frame.plug part).WellTyped) :
    part.WellTyped := by
  cases frame with
  | unary type op => exact (wellTyped_unary_iff.mp typed).1
  | left type op beside => exact (wellTyped_binary_iff.mp typed).1
  | right type op beside => exact (wellTyped_binary_iff.mp typed).2.1

/-! ### What the check sees of a part -/

/-- The nodes above cannot tell by the rules which of the two parts they have. -/
structure Exchangeable (part other : Expr) : Prop where
  type : other.type = part.type
  resolvesText : other.resolvesText = part.resolvesText
  wellTyped_iff : other.WellTyped ↔ part.WellTyped

namespace Exchangeable

variable (exchangeable : part.Exchangeable other)

include exchangeable

theorem domain?_left (right : Expr) : other.domain? right = part.domain? right :=
  domain?_congr exchangeable.type rfl (fun _ => exchangeable.resolvesText) fun _ => rfl

theorem domain?_right (left : Expr) : left.domain? other = left.domain? part :=
  domain?_congr rfl exchangeable.type (fun _ => rfl) fun _ => exchangeable.resolvesText

/-- Whether a node can be read as text is told without its operands. -/
theorem plug (frame : Frame) : (frame.plug part).Exchangeable (frame.plug other) := by
  cases frame with
  | unary type op =>
    refine ⟨rfl, rfl, ?_⟩
    simp only [Frame.plug, wellTyped_unary_iff, exchangeable.wellTyped_iff, exchangeable.type]
  | left type op beside =>
    refine ⟨rfl, rfl, ?_⟩
    simp only [Frame.plug, wellTyped_binary_iff, exchangeable.wellTyped_iff, resultType?,
      exchangeable.type, exchangeable.domain?_left]
  | right type op beside =>
    refine ⟨rfl, rfl, ?_⟩
    simp only [Frame.plug, wellTyped_binary_iff, exchangeable.wellTyped_iff, resultType?,
      exchangeable.type, exchangeable.domain?_right]

theorem surround (frames : List Frame) :
    (surround frames part).Exchangeable (surround frames other) := by
  induction frames with
  | nil => exact exchangeable
  | cons frame frames inductionHypothesis => exact inductionHypothesis.plug frame

theorem check_eq_ok_iff {type : ColumnType} :
    other.check none = .ok type ↔ part.check none = .ok type := by
  rw [check_none_iff, check_none_iff, exchangeable.wellTyped_iff, exchangeable.type]

end Exchangeable

/-! ### What the nodes above read of a part -/

/-- A node with the other part answers alike, for it reads a part only through views that its own
rule makes the part offer. -/
theorem Matches.plug {frame : Frame} (exchangeable : part.Exchangeable other)
    (alike : part.Matches row row other) (typed : (frame.plug part).WellTyped) :
    (frame.plug part).Matches row row (frame.plug other) := by
  cases frame with
  | unary type op => exact matches_unary typed alike
  | left type op beside =>
    exact matches_binary typed alike (matches_self row beside) fun _ =>
      exchangeable.domain?_left beside
  | right type op beside =>
    exact matches_binary typed (matches_self row beside) alike fun _ =>
      exchangeable.domain?_right beside

theorem Matches.surround {frames : List Frame} (exchangeable : part.Exchangeable other)
    (alike : part.Matches row row other) (typed : (surround frames part).WellTyped) :
    (surround frames part).Matches row row (surround frames other) := by
  induction frames with
  | nil => exact alike
  | cons frame frames inductionHypothesis =>
    exact (inductionHypothesis (wellTyped_of_plug typed)).plug (exchangeable.surround frames) typed

/-- Take two parts that the check accepts with the same type and that can both be read as text or
both not. In any surroundings the check accepts the one if and only if it accepts the other, with
the same type. If it does, and on a row the parts answer alike through every view that their type
offers, then the two expressions have the same answer to every question that is admitted, whether it
asks for the value, for NULL or for a view. It is enough that the row conforms to one of the
expressions. All doubles that are no number are the same one here, so it makes no difference which
of them an answer is. -/
theorem exchange_part {partType : ColumnType} (checked : part.check none = .ok partType)
    (otherChecked : other.check none = .ok partType)
    (sameText : other.resolvesText = part.resolvesText) (frames : List Frame) :
    (∀ type, (surround frames other).check none = .ok type ↔
        (surround frames part).check none = .ok type) ∧
      ∀ row type, (surround frames part).check none = .ok type →
        (surround frames part).Conforms row →
        (∀ view, part.Admits (.through view) → other.read row view = part.read row view) →
        ∀ question, (surround frames part).Admits question →
          ∃ answer, (surround frames part).ask row question = .ok answer ∧
            (surround frames other).ask row question = .ok answer := by
  obtain ⟨typed, isType⟩ := check_none_iff.mp checked
  obtain ⟨otherTyped, isOtherType⟩ := check_none_iff.mp otherChecked
  have exchangeable : part.Exchangeable other :=
    ⟨isOtherType.trans isType.symm, sameText, iff_of_true otherTyped typed⟩
  refine ⟨fun type => (exchangeable.surround frames).check_eq_ok_iff, ?_⟩
  intro row type wholeChecked conforms sameViews question admitted
  obtain ⟨wholeTyped, -⟩ := check_none_iff.mp wholeChecked
  have alike : part.Matches row row other :=
    ⟨exchangeable.type, fun view offered resolves => sameViews view ⟨offered, resolves⟩⟩
  obtain ⟨answer, answers⟩ := exists_answer wholeTyped conforms admitted
  have same := (alike.surround exchangeable wholeTyped).ask_eq admitted
  exact ⟨answer, answers, same.trans answers⟩

/-- A product of two constants gives way to its value as the divisor of a double, below a comparison
that is negated. -/
theorem exchange_part_product :
    ∃ answer, (surround [.unary .boolean .not,
        .left .boolean (.comparison .less) (.atPosition 1 .double),
        .right .double (.arithmetic .divide) (.atPosition 0 .double)]
          (.binary .int (.arithmetic .multiply) (.ofInt 2) (.ofInt 3))).evaluate
            (.cells [.double (Float.ofBits 0x4018000000000000), .null]) = .ok answer ∧
      (surround [.unary .boolean .not,
        .left .boolean (.comparison .less) (.atPosition 1 .double),
        .right .double (.arithmetic .divide) (.atPosition 0 .double)] (.ofInt 6)).evaluate
            (.cells [.double (Float.ofBits 0x4018000000000000), .null]) = .ok answer := by
  have product : (Expr.binary .int (.arithmetic .multiply) (.ofInt 2) (.ofInt 3)).check none =
      .ok .int := rfl
  have value : (Expr.ofInt 6).check none = .ok .int := rfl
  have dividend : Row.Fits (.cells [.double (Float.ofBits 0x4018000000000000), .null]) .double
      ⟨0, none, none⟩ := ⟨_, rfl, rfl, nofun⟩
  have limit : Row.Fits (.cells [.double (Float.ofBits 0x4018000000000000), .null]) .double
      ⟨1, none, none⟩ := ⟨_, rfl, rfl, nofun⟩
  have conforms : ∀ leaf ∈ [(ColumnType.double, (⟨0, none, none⟩ : Column)),
      (ColumnType.double, ⟨1, none, none⟩)], Row.Fits
        (.cells [.double (Float.ofBits 0x4018000000000000), .null]) leaf.1 leaf.2 :=
    List.forall_mem_cons.mpr ⟨dividend, List.forall_mem_singleton.mpr limit⟩
  obtain ⟨-, alike⟩ := exchange_part product value rfl [.unary .boolean .not,
    .left .boolean (.comparison .less) (.atPosition 1 .double),
    .right .double (.arithmetic .divide) (.atPosition 0 .double)]
  refine alike _ .boolean rfl conforms ?_ .value trivial
  rintro view ⟨offered, -⟩
  cases view <;> first | rfl | cases offered

end Expr

end Columnar
