/-
This file proves that the comparisons order what they compare, away from doubles. In every other
domain the expressions have places in a linear order: the numbers they mean, their texts, their
codes, or the two truths. NULL has no place there, and nothing else is without one, not even a code
behind a table, for a row that conforms gives a table no code that it does not hold. A comparison
judges the places of its operands. What holds of the comparisons of two places, and of three, then
holds of expressions, whichever view the places were read through.
-/

import Columnar.Proofs.Conditions
import Columnar.Proofs.Inference

namespace Columnar

/-- Of any two places exactly one of three holds: the first is less, they are equal, or the second
is less. -/
structure LinearlyOrdered (Place : Type) [LT Place] : Prop where
  irreflexive : ∀ place : Place, ¬ place < place
  transitive : ∀ {first second third : Place}, first < second → second < third → first < third
  connected : ∀ first second : Place, first < second ∨ first = second ∨ second < first

namespace ComparisonOp

/-- The comparison that says of swapped operands what this one says of the operands. -/
def mirrored : ComparisonOp → ComparisonOp
  | .equal => .equal
  | .notEqual => .notEqual
  | .less => .greater
  | .lessOrEqual => .greaterOrEqual
  | .greater => .less
  | .greaterOrEqual => .lessOrEqual

/-- The verdicts of the six comparisons on two operands, of which one may be missing, fit together:
all are negative exactly if one is missing, and otherwise exactly one of less, equal and greater
holds and the other three comparisons are their negations. -/
structure Coherent (verdict : ComparisonOp → Bool) (missing : Bool) : Prop where
  silent : (∀ op, verdict op = false) ↔ missing = true
  exclusive : missing = false →
    [verdict .less, verdict .equal, verdict .greater].count true = 1
  notEqual : missing = false → verdict .notEqual = !verdict .equal
  lessOrEqual : missing = false → verdict .lessOrEqual = !verdict .greater
  greaterOrEqual : missing = false → verdict .greaterOrEqual = !verdict .less

/-! ### Comparisons of places -/

theorem coherent_accepts (order : Ordering) : Coherent (fun op => op.accepts order) false where
  silent := by
    refine ⟨fun silent => ?_, nofun⟩
    cases order with
    | lt => exact (silent .less).symm
    | eq => exact (silent .equal).symm
    | gt => exact (silent .greater).symm
  exclusive := fun _ => by cases order <;> decide
  notEqual := fun _ => by cases order <;> rfl
  lessOrEqual := fun _ => by cases order <;> rfl
  greaterOrEqual := fun _ => by cases order <;> rfl

theorem coherent_of_missing {verdict : ComparisonOp → Bool} (silent : ∀ op, verdict op = false) :
    Coherent verdict true where
  silent := ⟨fun _ => rfl, fun _ => silent⟩
  exclusive := nofun
  notEqual := nofun
  lessOrEqual := nofun
  greaterOrEqual := nofun

section Places

variable {Place : Type} [DecidableEq Place] [LT Place] [DecidableLT Place]

/-- A comparison holds of two places exactly if the mirrored one holds of the swapped places. -/
theorem relates_mirrored (op : ComparisonOp) (left right : Option Place) :
    op.mirrored.relates right left = op.relates left right := by
  cases left with
  | none => exact op.mirrored.relates_none_right right
  | some leftPlace =>
    cases right with
    | none => rfl
    | some rightPlace =>
      cases op <;> simp only [mirrored, relates, ne_eq, @eq_comm Place rightPlace leftPlace]

/-- Only a missing place is not equal to itself. -/
theorem relates_equal_self (place : Option Place) :
    equal.relates place place = place.isSome := by
  cases place with
  | none => rfl
  | some _ => exact decide_eq_true rfl

/-- A comparison that holds has two places to compare. -/
theorem exists_of_relates {op : ComparisonOp} {left right : Option Place}
    (holds : op.relates left right = true) :
    ∃ leftPlace rightPlace, left = some leftPlace ∧ right = some rightPlace := by
  cases left with
  | none => cases holds
  | some leftPlace =>
    cases right with
    | none =>
      rw [op.relates_none_right] at holds
      cases holds
    | some rightPlace => exact ⟨leftPlace, rightPlace, rfl, rfl⟩

/-- In a linear order the comparisons are transitive, except that nothing follows from two
differences. -/
theorem relates_trans (linear : LinearlyOrdered Place) {op : ComparisonOp}
    (follows : op ≠ .notEqual) {first second third : Option Place}
    (holds : op.relates first second = true) (holdsToo : op.relates second third = true) :
    op.relates first third = true := by
  obtain ⟨firstPlace, secondPlace, rfl, rfl⟩ := exists_of_relates holds
  obtain ⟨_, thirdPlace, same, rfl⟩ := exists_of_relates holdsToo
  cases same
  cases op with
  | notEqual => exact absurd rfl follows
  | equal => exact decide_eq_true ((of_decide_eq_true holds).trans (of_decide_eq_true holdsToo))
  | less =>
    exact decide_eq_true (linear.transitive (of_decide_eq_true holds) (of_decide_eq_true holdsToo))
  | greater =>
    exact decide_eq_true (linear.transitive (of_decide_eq_true holdsToo) (of_decide_eq_true holds))
  | lessOrEqual =>
    refine decide_eq_true ?_
    rcases of_decide_eq_true holds with less | rfl
    · rcases of_decide_eq_true holdsToo with lessToo | rfl
      · exact Or.inl (linear.transitive less lessToo)
      · exact Or.inl less
    · exact of_decide_eq_true holdsToo
  | greaterOrEqual =>
    refine decide_eq_true ?_
    rcases of_decide_eq_true holds with greater | rfl
    · rcases of_decide_eq_true holdsToo with greaterToo | rfl
      · exact Or.inl (linear.transitive greaterToo greater)
      · exact Or.inl greater
    · exact of_decide_eq_true holdsToo

/-- Two places in a linear order have one of the three orders. -/
theorem exists_order (linear : LinearlyOrdered Place) (left right : Place) :
    ∃ order : Ordering, ∀ op : ComparisonOp,
      op.accepts order = op.relates (some left) (some right) := by
  rcases linear.connected left right with less | rfl | greater
  · have notEqual : left ≠ right := fun same => linear.irreflexive right (same ▸ less)
    have notGreater : ¬ right < left := fun greater =>
      linear.irreflexive left (linear.transitive less greater)
    exact ⟨.lt, fun op => op.accepts_eq_relates (by simp [less]) (by simp [notEqual])
      (by simp [notGreater])⟩
  · have neither := linear.irreflexive left
    exact ⟨.eq, fun op => op.accepts_eq_relates (by simp [neither]) (by simp) (by simp [neither])⟩
  · have notEqual : left ≠ right := fun same => linear.irreflexive right (same ▸ greater)
    have notLess : ¬ left < right := fun less =>
      linear.irreflexive left (linear.transitive less greater)
    exact ⟨.gt, fun op => op.accepts_eq_relates (by simp [notLess]) (by simp [notEqual])
      (by simp [greater])⟩

/-- In a linear order the comparisons of two places that may be missing are coherent. -/
theorem coherent_relates (linear : LinearlyOrdered Place) (left right : Option Place) :
    Coherent (fun op => op.relates left right) (left.isNone || right.isNone) := by
  cases left with
  | none => exact coherent_of_missing fun op => op.relates_none_left right
  | some leftPlace =>
    cases right with
    | none => exact coherent_of_missing fun op => op.relates_none_right (some leftPlace)
    | some rightPlace =>
      obtain ⟨order, same⟩ := exists_order linear leftPlace rightPlace
      have coherent := coherent_accepts order
      simp only [same] at coherent
      exact coherent

end Places

end ComparisonOp

/-- A table has a text for every code that it holds and that is not NULL. -/
theorem SymbolTable.isNone_text? {table : SymbolTable} {code : Int32} (holds : table.Holds code) :
    (table.text? code).isNone = (Word.code? code).isNone := by
  unfold text? Word.code?
  split
  · rfl
  · next known =>
    rw [List.getElem?_eq_getElem (inside_of_holds holds known)]
    rfl

namespace Expr

variable {row : Row} {expression left right : Expr} {domain : Domain}

/-! ### What has no place -/

theorem readNull_eq_isMissing (typed : expression.WellTyped) (conforms : expression.Conforms row)
    (notDouble : expression.type ≠ .double) :
    expression.readNull row = .ok (expression.isMissing row) := by
  obtain ⟨missing, read, means⟩ := exists_readNull typed conforms
  rw [read, means notDouble]

theorem readNull_of_number? (typed : expression.WellTyped) (conforms : expression.Conforms row)
    (offered : expression.type.offers .long = true) :
    expression.readNull row = .ok (expression.number? row).isNone := by
  have notDouble : expression.type ≠ .double := by
    intro isDouble
    rw [isDouble] at offered
    cases offered
  rw [readNull_eq_isMissing typed conforms notDouble, isMissing]
  cases known : expression.type <;> rw [known] at offered <;> first | rfl | cases offered

theorem readNull_of_code? (typed : expression.WellTyped) (conforms : expression.Conforms row)
    (isSymbol : expression.type = .symbol) :
    expression.readNull row = .ok (expression.code? row).isNone := by
  rw [readNull_eq_isMissing typed conforms (by rw [isSymbol]; decide), isMissing, isSymbol]

/-- A symbol whose text can be found has one unless its code is NULL. -/
theorem isNone_text?_of_symbol (typed : expression.WellTyped) (conforms : expression.Conforms row)
    (isSymbol : expression.type = .symbol) (resolves : expression.resolvesText = true) :
    (expression.text? row).isNone = (expression.code? row).isNone := by
  rcases leaf_of_offers_text typed (ColumnType.offers_text_iff.mpr (Or.inr isSymbol)) with
    ⟨source, shape⟩ | ⟨value, shape, -⟩
  · rw [isSymbol] at shape
    subst shape
    obtain ⟨value, held, fits, holds⟩ := conforms_column.mp conforms
    obtain ⟨table, bound⟩ := Option.isSome_iff_exists.mp resolves
    rw [text?, code?, Row.value_of_cell held, bound]
    cases value with
    | null => rfl
    | symbol code => exact SymbolTable.isNone_text? (holds table code bound rfl)
    | boolean | int | long | double | date | string => cases fits
  · rw [isSymbol] at shape
    subst shape
    cases value <;> first | rfl | cases resolves

theorem readNull_of_text? (typed : expression.WellTyped) (conforms : expression.Conforms row)
    (offered : expression.type.offers .text = true) (resolves : expression.resolvesText = true) :
    expression.readNull row = .ok (expression.text? row).isNone := by
  rcases ColumnType.offers_text_iff.mp offered with isString | isSymbol
  · exact readNull_of_string isString (readText_eq typed conforms offered resolves)
  · rw [readNull_of_code? typed conforms isSymbol,
      isNone_text?_of_symbol typed conforms isSymbol resolves]

/-! ### Places -/

/-- What the comparisons on a row are about: an expression that follows the rules, and to which the
row conforms. -/
structure Readable (row : Row) (expression : Expr) : Prop where
  typed : expression.WellTyped
  conforms : expression.Conforms row

/-- The places that expressions have on a row when they are compared in a domain: a linear order by
which the comparisons judge, and in which NULL alone has no place. -/
structure Placement (row : Row) (domain : Domain) where
  Place : Type
  [equality : DecidableEq Place]
  [less : LT Place]
  [decidesLess : DecidableLT Place]
  linear : LinearlyOrdered Place
  place? : Expr → Option Place
  judges : ∀ {left right : Expr}, left.Readable row → right.Readable row →
    left.domain? right = some domain → ∀ op : ComparisonOp,
      (Expr.binary .boolean (.comparison op) left right).readBoolean row =
        .ok (op.relates (place? left) (place? right))
  missing : ∀ {left right : Expr}, left.Readable row → right.Readable row →
    left.domain? right = some domain →
      left.readNull row = .ok (place? left).isNone ∧ right.readNull row = .ok (place? right).isNone

attribute [instance] Placement.equality Placement.less Placement.decidesLess

/-- Integers and timestamps are placed by the numbers that they mean. -/
def placeByNumber (row : Row) : Placement row .integer where
  Place := Int
  linear := ⟨Int.lt_irrefl, Int.lt_trans, Int.lt_trichotomy⟩
  place? := number? row
  judges := fun left right shared _ =>
    readBoolean_of_integer left.typed right.typed left.conforms right.conforms shared
  missing := fun left right shared =>
    ⟨readNull_of_number? left.typed left.conforms (offers_long_of_integer shared).1,
      readNull_of_number? right.typed right.conforms (offers_long_of_integer shared).2⟩

/-- Strings, and symbols with tables, are placed by their texts. -/
def placeByText (row : Row) : Placement row .text where
  Place := String
  linear := ⟨String.lt_irrefl, String.lt_trans, Std.lt_trichotomy⟩
  place? := text? row
  judges := fun left right shared _ =>
    readBoolean_of_text left.typed right.typed left.conforms right.conforms shared
  missing := by
    intro left right leftReadable rightReadable shared
    obtain ⟨⟨leftOffered, leftResolves⟩, rightOffered, rightResolves⟩ := offers_text_of_text shared
    exact ⟨readNull_of_text? leftReadable.typed leftReadable.conforms leftOffered leftResolves,
      readNull_of_text? rightReadable.typed rightReadable.conforms rightOffered rightResolves⟩

/-- Symbols without tables are placed by their codes. -/
def placeByCode (row : Row) : Placement row .code where
  Place := Int
  linear := ⟨Int.lt_irrefl, Int.lt_trans, Int.lt_trichotomy⟩
  place? := code? row
  judges := fun left right shared _ =>
    readBoolean_of_code left.typed right.typed left.conforms right.conforms shared
  missing := fun left right shared =>
    ⟨readNull_of_code? left.typed left.conforms (type_of_code shared).1,
      readNull_of_code? right.typed right.conforms (type_of_code shared).2⟩

/-- Conditions are placed by what they answer, the false ones before the true ones. -/
def placeByAnswer (row : Row) : Placement row .boolean where
  Place := Bool
  linear := ⟨Bool.lt_irrefl, Bool.lt_trans, by decide⟩
  place? := fun expression => (expression.readBoolean row).toOption
  judges := by
    intro left right leftReadable rightReadable shared op
    obtain ⟨leftCondition, rightCondition⟩ := type_of_boolean shared
    obtain ⟨leftWord, leftRead, -⟩ :=
      exists_readBoolean leftReadable.typed leftReadable.conforms leftCondition
    obtain ⟨rightWord, rightRead, -⟩ :=
      exists_readBoolean rightReadable.typed rightReadable.conforms rightCondition
    rw [readBoolean_compareBooleans shared leftRead rightRead, Word.accepts_compare, leftRead,
      rightRead]
    rfl
  missing := by
    intro left right leftReadable rightReadable shared
    obtain ⟨leftCondition, rightCondition⟩ := type_of_boolean shared
    obtain ⟨leftWord, leftRead, -⟩ :=
      exists_readBoolean leftReadable.typed leftReadable.conforms leftCondition
    obtain ⟨rightWord, rightRead, -⟩ :=
      exists_readBoolean rightReadable.typed rightReadable.conforms rightCondition
    rw [readNull_of_boolean leftCondition, readNull_of_boolean rightCondition, leftRead, rightRead]
    exact ⟨rfl, rfl⟩

/-- In every domain but that of the doubles, expressions are placed. -/
theorem exists_placement (row : Row) (notDouble : domain ≠ .double) :
    Nonempty (Placement row domain) := by
  cases domain with
  | integer => exact ⟨placeByNumber row⟩
  | double => exact absurd rfl notDouble
  | boolean => exact ⟨placeByAnswer row⟩
  | text => exact ⟨placeByText row⟩
  | code => exact ⟨placeByCode row⟩

/-! ### Domains -/

/-- Whichever operand comes first, the domain is the same. -/
theorem domain?_comm (left right : Expr) : left.domain? right = right.domain? left := by
  have broad : Domain.ofTypes? left.type right.type = Domain.ofTypes? right.type left.type := by
    cases left.type <;> cases right.type <;> rfl
  unfold domain?
  rw [broad, Bool.and_comm, BEq.comm]

/-- Every expression can be compared with itself. -/
theorem exists_domain?_self (expression : Expr) :
    ∃ domain, expression.domain? expression = some domain := by
  refine Option.ne_none_iff_exists'.mp fun apart => ?_
  have undefined := domain?_eq_none_of_same_type rfl apart
  cases known : expression.type <;> rw [known] at undefined <;> cases undefined

/-- Expressions that are not doubles are not compared as doubles. -/
theorem domain_ne_double (shared : left.domain? right = some domain)
    (leftNotDouble : left.type ≠ .double) (rightNotDouble : right.type ≠ .double) :
    domain ≠ .double := by
  rintro rfl
  obtain ⟨-, -, leftDouble | rightDouble⟩ := offers_double_of_double shared
  · exact leftNotDouble leftDouble
  · exact rightNotDouble rightDouble

/-! ### Comparisons of expressions -/

/-- A comparison of two expressions holds on a row. -/
def Holds (row : Row) (op : ComparisonOp) (left right : Expr) : Prop :=
  (Expr.binary .boolean (.comparison op) left right).evaluate row = .ok (.boolean true)

/-- The comparisons of two expressions all answer on a row, and what they answer is coherent. -/
def ComparesCoherently (row : Row) (left right : Expr) : Prop :=
  ∃ (verdict : ComparisonOp → Bool) (leftMissing rightMissing : Bool),
    (∀ op, (Expr.binary .boolean (.comparison op) left right).evaluate row =
      .ok (.boolean (verdict op))) ∧
    left.readNull row = .ok leftMissing ∧ right.readNull row = .ok rightMissing ∧
    ComparisonOp.Coherent verdict (leftMissing || rightMissing)

/-- An expression that has a place on a row: the check accepts it, it is not declared as a double,
and the row conforms to it. -/
structure Orderable (schema : Option Schema) (row : Row) (expression : Expr) : Prop where
  accepted : ∃ type, expression.check schema = .ok type
  notDouble : expression.type ≠ .double
  conforms : expression.Conforms row

theorem Orderable.readable {schema : Option Schema} (orderable : expression.Orderable schema row) :
    expression.Readable row := by
  obtain ⟨type, checked⟩ := orderable.accepted
  exact ⟨(check_eq_ok_iff.mp checked).1, orderable.conforms⟩

section Placed

variable (placement : Placement row domain) (leftReadable : left.Readable row)
  (rightReadable : right.Readable row) (shared : left.domain? right = some domain)

include placement leftReadable rightReadable shared

theorem evaluate_comparison (op : ComparisonOp) :
    (Expr.binary .boolean (.comparison op) left right).evaluate row =
      .ok (.boolean (op.relates (placement.place? left) (placement.place? right))) :=
  evaluate_of_boolean rfl (placement.judges leftReadable rightReadable shared op)

theorem holds_iff (op : ComparisonOp) :
    Holds row op left right ↔
      op.relates (placement.place? left) (placement.place? right) = true := by
  rw [Holds, evaluate_comparison placement leftReadable rightReadable shared, Except.ok.injEq,
    Value.boolean.injEq]

theorem comparesCoherently : ComparesCoherently row left right := by
  obtain ⟨leftNull, rightNull⟩ := placement.missing leftReadable rightReadable shared
  exact ⟨_, _, _, evaluate_comparison placement leftReadable rightReadable shared, leftNull,
    rightNull, ComparisonOp.coherent_relates placement.linear _ _⟩

end Placed

/-- If two expressions can be compared at all, then by all six comparisons. -/
theorem inferBinary_of_comparison {op other : ComparisonOp} {built : Expr}
    (inferred : inferBinary (.comparison other) left right = .ok built) :
    inferBinary (.comparison op) left right =
      .ok (.binary .boolean (.comparison op) left right) := by
  obtain ⟨type, known, -⟩ := inferBinary_eq_ok_iff.mp inferred
  obtain ⟨shared, -⟩ := resultType?_comparison.mp known
  exact inferBinary_eq_ok_iff.mpr ⟨.boolean, resultType?_comparison.mpr ⟨shared, rfl⟩, rfl⟩

/-- Comparisons order what they compare, doubles apart. Of two expressions that can be compared for
equality, all six comparisons can be built, and on every row that conforms to both they answer
coherently: not at all if one of the two is NULL, and otherwise as in a linear order. Equality holds
of an expression and itself unless it is NULL, and in both directions. Among three expressions that
are compared in one domain the comparisons are transitive, except for that of difference. -/
theorem comparisons_order {schema : Option Schema} :
    (∀ left right built : Expr, inferBinary (.comparison .equal) left right = .ok built →
      (∀ op, inferBinary (.comparison op) left right =
        .ok (.binary .boolean (.comparison op) left right)) ∧
      ∀ row, left.Orderable schema row → right.Orderable schema row →
        ComparesCoherently row left right ∧
        (Holds row .equal left right → Holds row .equal right left)) ∧
    (∀ (expression : Expr) (row : Row), expression.Orderable schema row →
      expression.readNull row = .ok false → Holds row .equal expression expression) ∧
    (∀ (domain : Domain) (first second third : Expr) (row : Row), first.Orderable schema row →
      second.Orderable schema row → third.Orderable schema row →
      first.domain? second = some domain → second.domain? third = some domain →
      first.domain? third = some domain → ∀ op : ComparisonOp, op ≠ .notEqual →
        Holds row op first second → Holds row op second third → Holds row op first third) := by
  refine ⟨?_, ?_, ?_⟩
  · intro left right built inferred
    refine ⟨fun op => inferBinary_of_comparison inferred, ?_⟩
    intro row leftOrderable rightOrderable
    obtain ⟨type, known, -⟩ := inferBinary_eq_ok_iff.mp inferred
    obtain ⟨⟨domain, shared⟩, -⟩ := resultType?_comparison.mp known
    have notDouble := domain_ne_double shared leftOrderable.notDouble rightOrderable.notDouble
    obtain ⟨placement⟩ := exists_placement row notDouble
    have leftReadable := leftOrderable.readable
    have rightReadable := rightOrderable.readable
    refine ⟨comparesCoherently placement leftReadable rightReadable shared, ?_⟩
    rw [holds_iff placement leftReadable rightReadable shared,
      holds_iff placement rightReadable leftReadable ((domain?_comm right left).trans shared)]
    exact fun equal => (ComparisonOp.relates_mirrored .equal _ _).trans equal
  · intro expression row orderable known
    obtain ⟨domain, shared⟩ := exists_domain?_self expression
    have notDouble := domain_ne_double shared orderable.notDouble orderable.notDouble
    obtain ⟨placement⟩ := exists_placement row notDouble
    have readable := orderable.readable
    obtain ⟨null, -⟩ := placement.missing readable readable shared
    rw [null] at known
    rw [holds_iff placement readable readable shared, ComparisonOp.relates_equal_self]
    exact Option.isNone_eq_false_iff.mp (Except.ok.inj known)
  · intro domain first second third row firstOrderable secondOrderable thirdOrderable
      sharedFirst sharedSecond sharedOuter op follows
    have notDouble :=
      domain_ne_double sharedFirst firstOrderable.notDouble secondOrderable.notDouble
    obtain ⟨placement⟩ := exists_placement row notDouble
    have firstReadable := firstOrderable.readable
    have secondReadable := secondOrderable.readable
    have thirdReadable := thirdOrderable.readable
    rw [holds_iff placement firstReadable secondReadable sharedFirst,
      holds_iff placement secondReadable thirdReadable sharedSecond,
      holds_iff placement firstReadable thirdReadable sharedOuter]
    exact ComparisonOp.relates_trans placement.linear follows

/-- Integers of either width are compared in one domain, so a small one below a constant that is
below a long one is itself below the long one. -/
theorem comparisons_order_mixed_integers :
    ComparesCoherently (.cells [.int 3, .long 9]) (.atPosition 0 .int) (.ofLong 5) ∧
      Holds (.cells [.int 3, .long 9]) .equal (.atPosition 0 .int) (.atPosition 0 .int) ∧
      Holds (.cells [.int 3, .long 9]) .less (.atPosition 0 .int) (.atPosition 1 .long) := by
  obtain ⟨coherent, reflexive, transitive⟩ := @comparisons_order (some [.int, .long])
  have first : (atPosition 0 .int).Orderable (some [.int, .long]) (.cells [.int 3, .long 9]) :=
    ⟨⟨.int, rfl⟩, nofun, conforms_column.mpr ⟨.int 3, rfl, rfl, nofun⟩⟩
  have second : (ofLong 5).Orderable (some [.int, .long]) (.cells [.int 3, .long 9]) :=
    ⟨⟨.long, rfl⟩, nofun, conforms_of_isConstant rfl _⟩
  have third : (atPosition 1 .long).Orderable (some [.int, .long]) (.cells [.int 3, .long 9]) :=
    ⟨⟨.long, rfl⟩, nofun, conforms_column.mpr ⟨.long 9, rfl, rfl, nofun⟩⟩
  refine ⟨((coherent _ _ _ rfl).2 _ first second).1, reflexive _ _ first rfl, ?_⟩
  exact transitive .integer _ _ _ _ first second third rfl rfl rfl .less (by decide) rfl rfl

end Expr

end Columnar
