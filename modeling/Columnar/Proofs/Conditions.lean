/-
This file proves that conditions answer, and that away from doubles they answer what they mean. A
comparison reads both operands through the view of their domain, and the rules see to it that both
offer that view. The order of two words is that of the numbers they stand for, and a reserved word
has no place in it, so a comparison of words holds exactly if the comparison of meanings does. The
question whether an expression is NULL asks its own view for the reserved word, which stands for no
number.
-/

import Columnar.Proofs.Readings

namespace Columnar

/-! ### Orders of words and orders of meanings -/

/-- A comparison judges an order as it judges the values that have it. -/
theorem ComparisonOp.accepts_eq_relates {Word : Type} [DecidableEq Word] [LT Word]
    [DecidableLT Word] (op : ComparisonOp) {left right : Word} {order : Ordering}
    (isLess : order = .lt ↔ left < right) (isEqual : order = .eq ↔ left = right)
    (isGreater : order = .gt ↔ right < left) :
    op.accepts order = op.relates (some left) (some right) := by
  cases op <;> simp only [accepts, relates, ne_eq, ← isLess, ← isEqual, ← isGreater] <;>
    cases order <;> rfl

theorem ComparisonOp.relates_none_left {Word : Type} [DecidableEq Word] [LT Word]
    [DecidableLT Word] (op : ComparisonOp) (right : Option Word) :
    op.relates none right = false := rfl

theorem ComparisonOp.relates_none_right {Word : Type} [DecidableEq Word] [LT Word]
    [DecidableLT Word] (op : ComparisonOp) (left : Option Word) :
    op.relates left none = false := by
  cases left <;> rfl

namespace Word

variable (op : ComparisonOp)

/-- Words of 64 bits compare like the numbers they stand for. -/
theorem holds_compareLongs (left right : Int64) :
    op.holds (compareLongs left right) = op.relates (long? left) (long? right) := by
  unfold compareLongs
  by_cases leftMissing : left = Null.long
  · rw [if_pos (Or.inl leftMissing), leftMissing]
    rfl
  · by_cases rightMissing : right = Null.long
    · rw [if_pos (Or.inr rightMissing), rightMissing, long?_null, op.relates_none_right]
      rfl
    · rw [if_neg (not_or.mpr ⟨leftMissing, rightMissing⟩), long?_of_ne leftMissing,
        long?_of_ne rightMissing]
      exact op.accepts_eq_relates (Std.compare_eq_lt.trans Int64.lt_iff_toInt_lt)
        (Std.compare_eq_iff_eq.trans Int64.toInt_inj.symm)
        (Std.compare_eq_gt.trans Int64.lt_iff_toInt_lt)

/-- Symbol codes compare like the numbers they stand for. -/
theorem holds_compareCodes (left right : Int32) :
    op.holds (compareCodes left right) = op.relates (code? left) (code? right) := by
  unfold compareCodes code?
  by_cases leftMissing : left = Null.code
  · rw [if_pos (Or.inl leftMissing), if_pos leftMissing]
    rfl
  · by_cases rightMissing : right = Null.code
    · rw [if_pos (Or.inr rightMissing), if_pos rightMissing, op.relates_none_right]
      rfl
    · rw [if_neg (not_or.mpr ⟨leftMissing, rightMissing⟩), if_neg leftMissing,
        if_neg rightMissing]
      exact op.accepts_eq_relates (Std.compare_eq_lt.trans Int32.lt_iff_toInt_lt)
        (Std.compare_eq_iff_eq.trans Int32.toInt_inj.symm)
        (Std.compare_eq_gt.trans Int32.lt_iff_toInt_lt)

/-- Texts compare in their own order. -/
theorem holds_compareTexts (left right : Option String) :
    op.holds (compareTexts left right) = op.relates left right := by
  cases left with
  | none => rfl
  | some leftText =>
    cases right with
    | none => rfl
    | some rightText =>
      refine op.accepts_eq_relates compareOfLessAndEq_eq_lt Std.compare_eq_iff_eq ?_
      exact compareOfLessAndEq_eq_gt String.le_antisymm String.le_total String.not_le _ _

/-- The truths compare with the false one first. -/
theorem accepts_compare (left right : Bool) :
    op.accepts (compare left right) = op.relates (some left) (some right) := by
  cases op <;> cases left <;> cases right <;> rfl

end Word

/-- Only strings and symbols are compared as texts. -/
theorem Domain.offers_text_of_ofTypes? {left right : ColumnType}
    (shared : Domain.ofTypes? left right = some .text) :
    left.offers .text = true ∧ right.offers .text = true := by
  cases left <;> cases right <;> first | exact ⟨rfl, rfl⟩ | cases shared

namespace Expr

variable {row : Row} {expression left otherLeft right otherRight : Expr} {domain : Domain}

/-! ### The operands of a comparison -/

/-- Expressions meet in the domain of their types, or as codes where their texts cannot be found. -/
theorem ofTypes?_of_shared (shared : left.domain? right = some domain) :
    Domain.ofTypes? left.type right.type = some domain ∧
        (domain = .text → left.resolvesText = true ∧ right.resolvesText = true) ∨
      Domain.ofTypes? left.type right.type = some .text ∧ domain = .code ∧
        left.type = right.type ∧ ¬ (left.resolvesText && right.resolvesText) = true := by
  unfold domain? at shared
  split at shared
  · next broad =>
    split at shared
    · next resolve =>
      cases shared
      exact Or.inl ⟨broad, fun _ => Bool.and_eq_true_iff.mp resolve⟩
    · next unresolved =>
      split at shared
      · next same =>
        cases shared
        exact Or.inr ⟨broad, rfl, beq_iff_eq.mp same, unresolved⟩
      · cases shared
  · next notText =>
    exact Or.inl ⟨shared, fun isText => absurd (isText ▸ shared) notText⟩

/-- The domain is told from the types, and from whether the texts of symbols can be found. -/
theorem domain?_congr (sameLeft : otherLeft.type = left.type)
    (sameRight : otherRight.type = right.type)
    (leftResolves : left.type.offers .text = true → otherLeft.resolvesText = left.resolvesText)
    (rightResolves : right.type.offers .text = true →
      otherRight.resolvesText = right.resolvesText) :
    otherLeft.domain? otherRight = left.domain? right := by
  unfold domain?
  rw [sameLeft, sameRight]
  split
  · next isText =>
    obtain ⟨leftOffered, rightOffered⟩ := Domain.offers_text_of_ofTypes? isText
    rw [leftResolves leftOffered, rightResolves rightOffered]
  · rfl

/-- Expressions share a domain if their types do and, as strings and symbols, if both texts can be
found or the types are the same. -/
theorem isSome_domain?_iff :
    (left.domain? right).isSome = true ↔
      (Domain.ofTypes? left.type right.type).isSome = true ∧
        (Domain.ofTypes? left.type right.type = some .text →
          left.resolvesText = true ∧ right.resolvesText = true ∨ left.type = right.type) := by
  unfold domain?
  split
  · next isText =>
    rw [isText, ← Bool.and_eq_true_iff]
    split
    · next resolve => exact ⟨fun _ => ⟨rfl, fun _ => .inl resolve⟩, fun _ => rfl⟩
    · next unresolved =>
      split
      · next same => exact ⟨fun _ => ⟨rfl, fun _ => .inr (beq_iff_eq.mp same)⟩, fun _ => rfl⟩
      · next differ =>
        have apart := not_or.mpr ⟨unresolved, mt beq_iff_eq.mpr differ⟩
        exact ⟨nofun, fun meet => absurd (meet.2 rfl) apart⟩
  · next notText => exact ⟨fun some => ⟨some, fun isText => absurd isText notText⟩, And.left⟩

/-- Expressions of one type share a domain wherever values of the type do. -/
theorem domain?_eq_none_of_same_type (same : left.type = right.type)
    (apart : left.domain? right = none) : Domain.ofTypes? left.type right.type = none := by
  unfold domain? at apart
  split at apart
  · split at apart
    · cases apart
    · rw [if_pos (beq_iff_eq.mpr same)] at apart
      cases apart
  · exact apart

theorem offers_long_of_integer (shared : left.domain? right = some .integer) :
    left.type.offers .long = true ∧ right.type.offers .long = true := by
  obtain ⟨broad, -⟩ | ⟨-, impossible, -⟩ := ofTypes?_of_shared shared
  · cases known : left.type <;> cases other : right.type <;> rw [known, other] at broad <;>
      first | exact ⟨rfl, rfl⟩ | cases broad
  · cases impossible

/-- One of two expressions that are compared as doubles is a double. -/
theorem offers_double_of_double (shared : left.domain? right = some .double) :
    left.type.offers .double = true ∧ right.type.offers .double = true ∧
      (left.type = .double ∨ right.type = .double) := by
  obtain ⟨broad, -⟩ | ⟨-, impossible, -⟩ := ofTypes?_of_shared shared
  · cases known : left.type <;> cases other : right.type <;> rw [known, other] at broad <;>
      first
        | exact ⟨rfl, rfl, Or.inl rfl⟩
        | exact ⟨rfl, rfl, Or.inr rfl⟩
        | cases broad
  · cases impossible

theorem type_of_boolean (shared : left.domain? right = some .boolean) :
    left.type = .boolean ∧ right.type = .boolean := by
  obtain ⟨broad, -⟩ | ⟨-, impossible, -⟩ := ofTypes?_of_shared shared
  · cases known : left.type <;> cases other : right.type <;> rw [known, other] at broad <;>
      first | exact ⟨rfl, rfl⟩ | cases broad
  · cases impossible

theorem offers_text_of_text (shared : left.domain? right = some .text) :
    (left.type.offers .text = true ∧ left.resolvesText = true) ∧
      right.type.offers .text = true ∧ right.resolvesText = true := by
  obtain ⟨broad, resolve⟩ | ⟨-, impossible, -⟩ := ofTypes?_of_shared shared
  · obtain ⟨leftResolves, rightResolves⟩ := resolve rfl
    rw [leftResolves, rightResolves]
    cases known : left.type <;> cases other : right.type <;> rw [known, other] at broad <;>
      first | exact ⟨⟨rfl, rfl⟩, rfl, rfl⟩ | cases broad
  · cases impossible

/-- The text of a string can always be found. -/
theorem resolvesText_of_string (isString : expression.type = .string) :
    expression.resolvesText = true := by
  simp only [resolvesText, isString, beq_self_eq_true, Bool.true_or]

/-- Only symbols are compared as codes, for the text of a string can always be found. -/
theorem type_of_code (shared : left.domain? right = some .code) :
    left.type = .symbol ∧ right.type = .symbol := by
  obtain ⟨broad, -⟩ | ⟨broad, -, same, unresolved⟩ := ofTypes?_of_shared shared
  · cases known : left.type <;> cases other : right.type <;> rw [known, other] at broad <;>
      cases broad
  · have notString : left.type ≠ .string := by
      intro isString
      refine unresolved ?_
      rw [resolvesText_of_string isString, resolvesText_of_string (same ▸ isString)]
      rfl
    rw [← same] at broad ⊢
    cases known : left.type <;> rw [known] at broad notString <;>
      first | exact ⟨rfl, rfl⟩ | exact absurd rfl notString | cases broad

/-! ### Expressions without doubles -/

/-- The nodes of an expression, the root first. -/
def nodes : Expr → List Expr
  | .column type source => [.column type source]
  | .constant type value => [.constant type value]
  | .unary type op operand => .unary type op operand :: operand.nodes
  | .binary type op left right => .binary type op left right :: (left.nodes ++ right.nodes)

theorem mem_nodes_self (expression : Expr) : expression ∈ expression.nodes := by
  cases expression <;> simp only [nodes, List.mem_cons, List.not_mem_nil, true_or, or_false]

/-- No node of the expression is a double. -/
def WithoutDoubles (expression : Expr) : Prop :=
  ∀ node ∈ expression.nodes, node.type ≠ .double

theorem WithoutDoubles.root (exact : expression.WithoutDoubles) : expression.type ≠ .double :=
  exact expression (mem_nodes_self expression)

theorem WithoutDoubles.operand {type : ColumnType} {op : UnaryOp}
    (exact : (Expr.unary type op expression).WithoutDoubles) : expression.WithoutDoubles :=
  fun node member => exact node (List.mem_cons_of_mem _ member)

theorem WithoutDoubles.operands {type : ColumnType} {op : BinaryOp}
    (exact : (Expr.binary type op left right).WithoutDoubles) :
    left.WithoutDoubles ∧ right.WithoutDoubles :=
  ⟨fun node member => exact node (List.mem_cons_of_mem _ (List.mem_append_left _ member)),
    fun node member => exact node (List.mem_cons_of_mem _ (List.mem_append_right _ member))⟩

/-! ### NULL -/

/-- Every expression knows whether it is NULL, and it is if it means nothing. -/
theorem exists_readNull (typed : expression.WellTyped) (conforms : expression.Conforms row) :
    ∃ missing, expression.readNull row = .ok missing ∧
      (expression.type ≠ .double → missing = expression.isMissing row) := by
  unfold isMissing
  cases known : expression.type with
  | boolean => exact ⟨false, readNull_of_boolean known, fun _ => rfl⟩
  | int =>
    obtain ⟨word, read, means⟩ := exists_readInt typed conforms known
    refine ⟨word == Null.int, readNull_of_int known read, fun _ => ?_⟩
    rw [← means, Bool.eq_iff_iff, beq_iff_eq, Option.isNone_iff_eq_none, Word.int?_eq_none_iff]
  | long | date =>
    have long : expression.type.isLongWord = true := by
      rw [known]
      rfl
    obtain ⟨word, read, means⟩ :=
      exists_readLong typed conforms (ColumnType.offers_long_iff.mpr (Or.inr long))
    refine ⟨word == Null.long, readNull_of_long long read, fun _ => ?_⟩
    rw [← means, Bool.eq_iff_iff, beq_iff_eq, Option.isNone_iff_eq_none, Word.long?_eq_none_iff]
  | double =>
    have offered : expression.type.offers .double = true := by
      rw [known]
      rfl
    obtain ⟨word, read⟩ := exists_readDouble typed conforms offered
    exact ⟨word.isNaN, readNull_of_double known read, fun notDouble => absurd rfl notDouble⟩
  | symbol =>
    obtain ⟨code, read, means⟩ := exists_readCode typed conforms known
    refine ⟨code == Null.code, readNull_of_symbol known read, fun _ => ?_⟩
    rw [← means, Bool.eq_iff_iff, beq_iff_eq, Option.isNone_iff_eq_none, Word.code?_eq_none_iff]
  | string =>
    have read := readText_eq typed conforms
      (ColumnType.offers_text_iff.mpr (Or.inl known)) (resolvesText_of_string known)
    exact ⟨_, readNull_of_string known read, fun _ => rfl⟩

/-! ### Comparisons of values -/

section Comparison

variable {op : ComparisonOp} (leftTyped : left.WellTyped) (rightTyped : right.WellTyped)
  (leftConforms : left.Conforms row) (rightConforms : right.Conforms row)

include leftTyped rightTyped leftConforms rightConforms

/-- Integers and timestamps compare like the numbers that they mean. -/
theorem readBoolean_of_integer (shared : left.domain? right = some .integer) :
    (Expr.binary .boolean (.comparison op) left right).readBoolean row =
      .ok (op.relates (left.number? row) (right.number? row)) := by
  obtain ⟨leftOffered, rightOffered⟩ := offers_long_of_integer shared
  obtain ⟨leftWord, leftRead, leftMeans⟩ := exists_readLong leftTyped leftConforms leftOffered
  obtain ⟨rightWord, rightRead, rightMeans⟩ := exists_readLong rightTyped rightConforms rightOffered
  rw [readBoolean_compareLongs shared leftRead rightRead, Word.holds_compareLongs, leftMeans,
    rightMeans]

/-- Strings, and symbols with tables, compare like their texts. -/
theorem readBoolean_of_text (shared : left.domain? right = some .text) :
    (Expr.binary .boolean (.comparison op) left right).readBoolean row =
      .ok (op.relates (left.text? row) (right.text? row)) := by
  obtain ⟨⟨leftOffered, leftResolves⟩, rightOffered, rightResolves⟩ := offers_text_of_text shared
  have leftRead := readText_eq leftTyped leftConforms leftOffered leftResolves
  have rightRead := readText_eq rightTyped rightConforms rightOffered rightResolves
  rw [readBoolean_compareTexts shared leftRead rightRead, Word.holds_compareTexts]

/-- Symbols without tables compare like their codes. -/
theorem readBoolean_of_code (shared : left.domain? right = some .code) :
    (Expr.binary .boolean (.comparison op) left right).readBoolean row =
      .ok (op.relates (left.code? row) (right.code? row)) := by
  obtain ⟨leftSymbol, rightSymbol⟩ := type_of_code shared
  obtain ⟨leftCode, leftRead, leftMeans⟩ := exists_readCode leftTyped leftConforms leftSymbol
  obtain ⟨rightCode, rightRead, rightMeans⟩ := exists_readCode rightTyped rightConforms rightSymbol
  rw [readBoolean_compareCodes shared leftRead rightRead, Word.holds_compareCodes, leftMeans,
    rightMeans]

end Comparison

/-! ### Truth -/

/-- Every condition answers, and away from doubles it answers its truth. -/
theorem exists_readBoolean (typed : expression.WellTyped) (conforms : expression.Conforms row)
    (condition : expression.type = .boolean) :
    ∃ word, expression.readBoolean row = .ok word ∧
      (expression.WithoutDoubles → word = expression.truth row) := by
  induction typed with
  | column type source =>
    obtain rfl : type = .boolean := condition
    obtain ⟨value, held, fits, _⟩ := conforms_column.mp conforms
    refine ⟨value.booleanWord, readBoolean_column held fits, fun _ => ?_⟩
    rw [Value.booleanWord_eq_truth, truth, Row.value_of_cell held]
  | @constant type value fits =>
    obtain rfl : type = .boolean := condition
    exact ⟨value.booleanWord, readBoolean_constant fits, fun _ => value.booleanWord_eq_truth⟩
  | @negate operand _ numeric =>
    replace condition : operand.type = .boolean := condition
    rw [condition] at numeric
    cases numeric
  | not operandTyped operandCondition inductionHypothesis =>
    obtain ⟨word, read, means⟩ := inductionHypothesis conforms operandCondition
    refine ⟨!word, readBoolean_not read, fun exact => ?_⟩
    rw [means exact.operand, truth]
  | isNull operandTyped =>
    obtain ⟨missing, read, means⟩ := exists_readNull operandTyped conforms
    exact ⟨missing, readBoolean_isNull.trans read, fun exact => means exact.operand.root⟩
  | isNotNull operandTyped =>
    obtain ⟨missing, read, means⟩ := exists_readNull operandTyped conforms
    refine ⟨!missing, readBoolean_isNotNull read, fun exact => ?_⟩
    rw [means exact.operand.root, truth]
  | floor => cases condition
  | @arithmetic op type left right _ _ output =>
    obtain rfl : type = .boolean := condition
    cases ArithmeticOp.offers_double_of_output output
  | @comparison op domain left right leftTyped rightTyped shared leftHypothesis rightHypothesis =>
    obtain ⟨leftConforms, rightConforms⟩ := conforms_binary.mp conforms
    cases domain with
    | integer =>
      refine ⟨_, readBoolean_of_integer leftTyped rightTyped leftConforms rightConforms shared, ?_⟩
      intro _
      simp only [truth, shared]
    | double =>
      obtain ⟨leftOffered, rightOffered, someDouble⟩ := offers_double_of_double shared
      obtain ⟨leftWord, leftRead⟩ := exists_readDouble leftTyped leftConforms leftOffered
      obtain ⟨rightWord, rightRead⟩ := exists_readDouble rightTyped rightConforms rightOffered
      refine ⟨_, readBoolean_compareDoubles shared leftRead rightRead, fun exact => ?_⟩
      rcases someDouble with leftDouble | rightDouble
      · exact absurd leftDouble exact.operands.1.root
      · exact absurd rightDouble exact.operands.2.root
    | boolean =>
      -- Only here the operands are conditions, so only here the induction says anything of them.
      obtain ⟨leftCondition, rightCondition⟩ := type_of_boolean shared
      obtain ⟨leftWord, leftRead, leftMeans⟩ := leftHypothesis leftConforms leftCondition
      obtain ⟨rightWord, rightRead, rightMeans⟩ := rightHypothesis rightConforms rightCondition
      refine ⟨_, readBoolean_compareBooleans shared leftRead rightRead, fun exact => ?_⟩
      rw [Word.accepts_compare, leftMeans exact.operands.1, rightMeans exact.operands.2]
      simp only [truth, shared]
    | text =>
      refine ⟨_, readBoolean_of_text leftTyped rightTyped leftConforms rightConforms shared, ?_⟩
      intro _
      simp only [truth, shared]
    | code =>
      refine ⟨_, readBoolean_of_code leftTyped rightTyped leftConforms rightConforms shared, ?_⟩
      intro _
      simp only [truth, shared]
  | @logical op left right leftTyped rightTyped leftCondition rightCondition leftHypothesis
      rightHypothesis =>
    obtain ⟨leftConforms, rightConforms⟩ := conforms_binary.mp conforms
    obtain ⟨leftWord, leftRead, leftMeans⟩ := leftHypothesis leftConforms leftCondition
    obtain ⟨rightWord, rightRead, rightMeans⟩ := rightHypothesis rightConforms rightCondition
    cases op with
    | and =>
      refine ⟨leftWord && rightWord, readBoolean_and leftRead rightRead, fun exact => ?_⟩
      rw [leftMeans exact.operands.1, rightMeans exact.operands.2, truth]
    | or =>
      refine ⟨leftWord || rightWord, readBoolean_or leftRead rightRead, fun exact => ?_⟩
      rw [leftMeans exact.operands.1, rightMeans exact.operands.2, truth]

end Expr

end Columnar
