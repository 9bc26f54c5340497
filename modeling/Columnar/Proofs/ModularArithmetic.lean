/-
This file proves that sums, differences, products and negatives of integers are exact modulo the
count of words of their type. What an operation wraps around can come back above it: reducing the
operands first does not change what the result reduces to. This holds as long as no node is NULL,
for a node that wraps onto the least number has no value, and from there on nothing is left of it.
If no leaf is NULL and no exact value leaves the range of the type, then nothing wraps at all.
-/

import Columnar.Proofs.NullLeaves

namespace Columnar

/-- A value of an integer type that is not NULL has a number. -/
theorem Value.number?_ne_none {value : Value} {type : ColumnType} (fits : value.fits type = true)
    (offered : type.offers .long = true) (present : ¬ value.isAbsent = true) :
    value.number? ≠ none := by
  intro missing
  obtain ⟨notNull, notReserved⟩ := Bool.or_eq_false_iff.mp (Bool.eq_false_iff.mpr present)
  rw [Value.eq_null_of_number? ⟨fits, notReserved⟩ offered missing] at notNull
  cases notNull

/-! ### Numbers modulo the count of words -/

namespace ColumnType

variable {type : ColumnType} {number : Int}

theorem modulus_eq (type : ColumnType) : (type.modulus : Int) = -2 * type.least := by
  cases type <;> rfl

/-- A number within the range of the type stays as it is. -/
theorem bmod_of_range (above : type.least < number) (below : number < -type.least) :
    number.bmod type.modulus = number := by
  have words := modulus_eq type
  exact Int.bmod_eq_of_le_mul_two (by omega) (by omega)

theorem wrap?_eq_some_of_ne_none (known : type.wrap? number ≠ none) :
    type.wrap? number = some (number.bmod type.modulus) := by
  unfold wrap? at known ⊢
  split at known
  · exact absurd rfl known
  · next inside => rw [if_neg inside]

theorem wrap?_of_range (above : type.least < number) (below : number < -type.least) :
    type.wrap? number = some number := by
  have stays := bmod_of_range above below
  unfold wrap?
  rw [stays, if_neg (by omega)]

end ColumnType

namespace ArithmeticOp

variable {op : ArithmeticOp}

/-- The operation on integers without bounds. -/
def unbounded (op : ArithmeticOp) (left right : Int) : Int :=
  match op with
  | .add => left + right
  | .subtract => left - right
  | .multiply => left * right
  | .divide => left.tdiv right

/-- Division apart, the operands may be reduced before the result is. -/
theorem unbounded_bmod (noQuotient : op ≠ .divide) (left right : Int) (modulus : Nat) :
    (op.unbounded (left.bmod modulus) (right.bmod modulus)).bmod modulus =
      (op.unbounded left right).bmod modulus := by
  cases op with
  | add => exact (Int.add_bmod left right modulus).symm
  | subtract => exact (Int.sub_bmod left right modulus).symm
  | multiply => exact (Int.mul_bmod left right modulus).symm
  | divide => exact absurd rfl noQuotient

theorem exact?_eq_wrap? (noQuotient : op ≠ .divide) (type : ColumnType) (left right : Int) :
    op.exact? type left right = type.wrap? (op.unbounded left right) := by
  cases op with
  | add | subtract | multiply => rfl
  | divide => exact absurd rfl noQuotient

end ArithmeticOp

namespace Expr

variable {row : Row} {expression operand left right : Expr} {type : ColumnType} {number : Int}

/-! ### Polynomials -/

/-- The expression is built from columns and constants of one type by sums, differences, products
and negatives. -/
inductive IsPolynomial (type : ColumnType) : Expr → Prop
  | column (source : Column) : IsPolynomial type (.column type source)
  | constant {value : Value} (fits : value.fits type = true) :
    IsPolynomial type (.constant type value)
  | negate {operand : Expr} (polynomial : IsPolynomial type operand) :
    IsPolynomial type (.unary type .negate operand)
  | arithmetic {op : ArithmeticOp} {left right : Expr} (noQuotient : op ≠ .divide)
    (leftPolynomial : IsPolynomial type left) (rightPolynomial : IsPolynomial type right) :
    IsPolynomial type (.binary type (.arithmetic op) left right)

/-- The exact value of an expression, which no range bounds. There is none if a leaf is NULL. -/
def exactNumber? (row : Row) : Expr → Option Int
  | .column _ source => (row.value source.position).number?
  | .constant _ value => value.number?
  | .unary _ .negate operand => (operand.exactNumber? row).map Int.neg
  | .binary _ (.arithmetic op) left right =>
    (left.exactNumber? row).bind fun leftNumber =>
      (right.exactNumber? row).map fun rightNumber => op.unbounded leftNumber rightNumber
  | _ => none

/-- The expression reads as a number, through the view of an integer type. -/
def ReadsAs (row : Row) (expression : Expr) (number : Int) : ColumnType → Prop
  | .int => ∃ word, expression.readInt row = .ok word ∧ word.toInt = number
  | .long => ∃ word, expression.readLong row = .ok word ∧ word.toInt = number
  | _ => False

namespace IsPolynomial

theorem type_eq (polynomial : expression.IsPolynomial type) : expression.type = type := by
  cases polynomial <;> rfl

theorem wellTyped (integer : type.isInteger = true) (polynomial : expression.IsPolynomial type) :
    expression.WellTyped := by
  induction polynomial with
  | column source => exact .column type source
  | constant fits => exact .constant fits
  | negate polynomial operandTyped =>
    refine wellTyped_unary_iff.mpr ⟨operandTyped, ?_⟩
    rw [polynomial.type_eq]
    cases type <;> first | rfl | cases integer
  | @arithmetic op left right noQuotient leftPolynomial rightPolynomial leftTyped rightTyped =>
    refine .arithmetic leftTyped rightTyped ?_
    rw [leftPolynomial.type_eq, rightPolynomial.type_eq]
    cases type <;> first | (cases op <;> rfl) | cases integer

/-- All columns of a polynomial have its type. -/
theorem columns (polynomial : expression.IsPolynomial type) :
    ∀ leaf ∈ expression.columns, leaf.1 = type := by
  induction polynomial with
  | column source => exact List.forall_mem_singleton.mpr rfl
  | constant fits => exact List.forall_mem_nil _
  | negate polynomial operandColumns => exact operandColumns
  | arithmetic noQuotient leftPolynomial rightPolynomial leftColumns rightColumns =>
    exact List.forall_mem_append.mpr ⟨leftColumns, rightColumns⟩

theorem conforms (integer : type.isInteger = true) (polynomial : expression.IsPolynomial type)
    (cells : ∀ leaf ∈ expression.columns, ∃ value, row.cell leaf.2.position = .ok value ∧
      value.fits type = true) : expression.Conforms row := by
  refine conforms_of_cells (fun leaf member isSymbol => ?_) fun leaf member => ?_
  · rw [polynomial.columns leaf member] at isSymbol
    rw [isSymbol] at integer
    cases integer
  · rw [polynomial.columns leaf member]
    exact cells leaf member

end IsPolynomial

/-! ### What integers are read as -/

section Readings

variable (integer : expression.type.isInteger = true) (typed : expression.WellTyped)
  (conforms : expression.Conforms row)

include integer typed conforms

/-- An integer expression reads as the number that it means. -/
theorem readsAs_of_number? (means : expression.number? row = some number) :
    expression.ReadsAs row number expression.type := by
  cases known : expression.type with
  | int =>
    obtain ⟨word, read, wordMeans⟩ := exists_readInt typed conforms known
    exact ⟨word, read, Word.toInt_of_int? (wordMeans.trans means)⟩
  | long =>
    obtain ⟨word, read, wordMeans⟩ := exists_readLong typed conforms (by rw [known]; rfl)
    exact ⟨word, read, Word.toInt_of_long? (wordMeans.trans means)⟩
  | boolean | double | date | symbol | string =>
    rw [known] at integer
    cases integer

/-- The number that an integer expression means lies strictly within the range of its type. -/
theorem number?_range (means : expression.number? row = some number) :
    expression.type.least < number ∧ number < -expression.type.least := by
  cases known : expression.type with
  | int =>
    obtain ⟨word, read, wordMeans⟩ := exists_readInt typed conforms known
    exact Word.int?_range (wordMeans.trans means)
  | long =>
    obtain ⟨word, read, wordMeans⟩ := exists_readLong typed conforms (by rw [known]; rfl)
    exact Word.long?_range (wordMeans.trans means)
  | boolean | double | date | symbol | string =>
    rw [known] at integer
    cases integer

/-- An integer expression evaluates to NULL exactly if it means no number. -/
theorem evaluate_eq_null_iff :
    expression.evaluate row = .ok .null ↔ expression.number? row = none := by
  have offered : expression.type.offers .long = true := by
    cases known : expression.type <;> rw [known] at integer <;> first | rfl | cases integer
  constructor
  · intro evaluates
    exact (number?_of_evaluate typed conforms offered evaluates).symm
  · intro missing
    obtain ⟨value, evaluates, proper⟩ := exists_evaluate typed conforms
    rw [← number?_of_evaluate typed conforms offered evaluates] at missing
    rw [evaluates, Value.eq_null_of_number? proper offered missing]

end Readings

/-! ### Reduction -/

/-- The number that an expression means is its exact value, reduced to the range of the type. -/
def Reduces (row : Row) (type : ColumnType) (expression : Expr) : Prop :=
  ∃ number, expression.exactNumber? row = some number ∧
    expression.number? row = some (number.bmod type.modulus)

/-- The negative of a number strictly within the range stays within it, so nothing wraps. -/
theorem reduces_negate (reduces : operand.Reduces row type)
    (range : ∀ number, operand.number? row = some number →
      type.least < number ∧ number < -type.least) :
    (Expr.unary type .negate operand).Reduces row type := by
  obtain ⟨number, exact, means⟩ := reduces
  obtain ⟨above, below⟩ := range _ means
  have stays : (-number.bmod type.modulus).bmod type.modulus = -number.bmod type.modulus :=
    ColumnType.bmod_of_range (by omega) (by omega)
  refine ⟨-number, ?_, ?_⟩
  · rw [exactNumber?, exact]
    rfl
  · rw [number?, means, ← Int.bmod_neg_bmod, stays]
    rfl

section Arithmetic

variable {op : ArithmeticOp} (noQuotient : op ≠ .divide) (leftReduces : left.Reduces row type)
  (rightReduces : right.Reduces row type)

include noQuotient leftReduces rightReduces

/-- An operation wraps what it makes of reduced operands, and this is the exact value wrapped. -/
theorem exists_number?_arithmetic :
    ∃ number, (Expr.binary type (.arithmetic op) left right).exactNumber? row = some number ∧
      (Expr.binary type (.arithmetic op) left right).number? row = type.wrap? number := by
  obtain ⟨leftNumber, leftExact, leftMeans⟩ := leftReduces
  obtain ⟨rightNumber, rightExact, rightMeans⟩ := rightReduces
  refine ⟨op.unbounded leftNumber rightNumber, ?_, ?_⟩
  · rw [exactNumber?, leftExact, rightExact]
    rfl
  · rw [number?, leftMeans, rightMeans]
    show op.exact? type _ _ = _
    rw [op.exact?_eq_wrap? noQuotient, ColumnType.wrap?, ColumnType.wrap?,
      op.unbounded_bmod noQuotient]

theorem reduces_arithmetic
    (known : (Expr.binary type (.arithmetic op) left right).number? row ≠ none) :
    (Expr.binary type (.arithmetic op) left right).Reduces row type := by
  obtain ⟨number, exact, means⟩ := exists_number?_arithmetic noQuotient leftReduces rightReduces
  rw [means] at known
  exact ⟨number, exact, means.trans (ColumnType.wrap?_eq_some_of_ne_none known)⟩

end Arithmetic

theorem Reduces.number?_ne_none (reduces : expression.Reduces row type) :
    expression.number? row ≠ none := by
  obtain ⟨number, -, means⟩ := reduces
  rw [means]
  exact Option.some_ne_none _

/-! ### Whole polynomials -/

namespace IsPolynomial

variable (integer : type.isInteger = true)

include integer

theorem evaluate_ne_null_iff (polynomial : expression.IsPolynomial type)
    (conforms : expression.Conforms row) :
    expression.evaluate row ≠ .ok .null ↔ expression.number? row ≠ none :=
  not_congr (evaluate_eq_null_iff (polynomial.type_eq.symm ▸ integer)
    (polynomial.wellTyped integer) conforms)

theorem range (polynomial : expression.IsPolynomial type) (conforms : expression.Conforms row)
    (means : expression.number? row = some number) :
    type.least < number ∧ number < -type.least := by
  have bounds := number?_range (polynomial.type_eq.symm ▸ integer) (polynomial.wellTyped integer)
    conforms means
  rwa [polynomial.type_eq] at bounds

/-- A leaf that is not NULL means its exact value, which is in the range already. -/
theorem reduces_leaf (polynomial : expression.IsPolynomial type)
    (conforms : expression.Conforms row)
    (leaf : expression.exactNumber? row = expression.number? row)
    (known : expression.evaluate row ≠ .ok .null) : expression.Reduces row type := by
  have present := (polynomial.evaluate_ne_null_iff integer conforms).mp known
  obtain ⟨number, means⟩ := Option.ne_none_iff_exists'.mp present
  obtain ⟨above, below⟩ := polynomial.range integer conforms means
  refine ⟨number, leaf.trans means, ?_⟩
  rw [means, ColumnType.bmod_of_range above below]

/-- If no node of a polynomial is NULL, then its value is the exact one modulo the count of
words. -/
theorem reduces (polynomial : expression.IsPolynomial type) (conforms : expression.Conforms row)
    (known : ∀ node ∈ expression.nodes, node.evaluate row ≠ .ok .null) :
    expression.Reduces row type := by
  induction polynomial with
  | column source =>
    exact (IsPolynomial.column source).reduces_leaf integer conforms rfl
      (known _ (mem_nodes_self _))
  | constant fits =>
    exact (IsPolynomial.constant fits).reduces_leaf integer conforms rfl
      (known _ (mem_nodes_self _))
  | negate polynomial inductionHypothesis =>
    obtain ⟨-, operandKnown⟩ := List.forall_mem_cons.mp known
    exact reduces_negate (inductionHypothesis conforms operandKnown)
      fun number means => polynomial.range integer conforms means
  | arithmetic noQuotient leftPolynomial rightPolynomial leftHypothesis rightHypothesis =>
    obtain ⟨leftConforms, rightConforms⟩ := conforms_binary.mp conforms
    obtain ⟨rootKnown, operandsKnown⟩ := List.forall_mem_cons.mp known
    obtain ⟨leftKnown, rightKnown⟩ := List.forall_mem_append.mp operandsKnown
    have node := IsPolynomial.arithmetic noQuotient leftPolynomial rightPolynomial
    exact reduces_arithmetic noQuotient (leftHypothesis leftConforms leftKnown)
      (rightHypothesis rightConforms rightKnown)
      ((node.evaluate_ne_null_iff integer conforms).mp rootKnown)

/-- If no leaf of a polynomial is NULL and all exact values lie strictly within the range of the
type, then no node is NULL. -/
theorem known_of_bounded (polynomial : expression.IsPolynomial type)
    (conforms : expression.Conforms row) (present : ¬ expression.HasNullLeaf row)
    (bounded : ∀ node ∈ expression.nodes, ∀ number, node.exactNumber? row = some number →
      type.least < number ∧ number < -type.least) :
    ∀ node ∈ expression.nodes, node.evaluate row ≠ .ok .null := by
  have offered : type.offers .long = true := by cases type <;> first | rfl | cases integer
  induction polynomial with
  | column source =>
    have leaf : (Expr.column type source).IsPolynomial type := .column source
    refine List.forall_mem_singleton.mpr ((leaf.evaluate_ne_null_iff integer conforms).mpr ?_)
    obtain ⟨value, held, fits, -⟩ := conforms_column.mp conforms
    rw [HasNullLeaf, Row.value_of_cell held] at present
    rw [number?, Row.value_of_cell held]
    exact Value.number?_ne_none fits offered present
  | constant fits =>
    have leaf := IsPolynomial.constant fits
    refine List.forall_mem_singleton.mpr ((leaf.evaluate_ne_null_iff integer conforms).mpr ?_)
    exact Value.number?_ne_none fits offered present
  | negate polynomial inductionHypothesis =>
    obtain ⟨-, operandBounded⟩ := List.forall_mem_cons.mp bounded
    have operandKnown := inductionHypothesis conforms present operandBounded
    have node := IsPolynomial.negate polynomial
    have reduces := reduces_negate (polynomial.reduces integer conforms operandKnown)
      fun number means => polynomial.range integer conforms means
    refine List.forall_mem_cons.mpr ⟨?_, operandKnown⟩
    exact (node.evaluate_ne_null_iff integer conforms).mpr reduces.number?_ne_none
  | arithmetic noQuotient leftPolynomial rightPolynomial leftHypothesis rightHypothesis =>
    obtain ⟨leftConforms, rightConforms⟩ := conforms_binary.mp conforms
    obtain ⟨leftPresent, rightPresent⟩ := not_or.mp present
    obtain ⟨rootBounded, operandsBounded⟩ := List.forall_mem_cons.mp bounded
    obtain ⟨leftBounded, rightBounded⟩ := List.forall_mem_append.mp operandsBounded
    have leftKnown := leftHypothesis leftConforms leftPresent leftBounded
    have rightKnown := rightHypothesis rightConforms rightPresent rightBounded
    have node := IsPolynomial.arithmetic noQuotient leftPolynomial rightPolynomial
    refine List.forall_mem_cons.mpr ⟨?_, List.forall_mem_append.mpr ⟨leftKnown, rightKnown⟩⟩
    refine (node.evaluate_ne_null_iff integer conforms).mpr ?_
    obtain ⟨number, exact, means⟩ := exists_number?_arithmetic noQuotient
      (leftPolynomial.reduces integer leftConforms leftKnown)
      (rightPolynomial.reduces integer rightConforms rightKnown)
    -- The exact value of the node is within the range, so the operation does not wrap.
    obtain ⟨above, below⟩ := rootBounded number exact
    rw [means, ColumnType.wrap?_of_range above below]
    exact Option.some_ne_none number

end IsPolynomial

/-- Take a sum, difference or product of any shape over columns and constants of one integer type,
with negatives, and a row that has for each column a cell which is NULL or of this type. If no node
is NULL, then the expression reads as its exact value brought into the range of the type, modulo the
count of its words. If no leaf is NULL and the exact value of every node lies strictly between the
least number and its negative, then no node is NULL, and the expression reads as its exact value. -/
theorem polynomial_reads_exactly (integer : type.isInteger = true)
    (polynomial : expression.IsPolynomial type)
    (cells : ∀ leaf ∈ expression.columns, ∃ value, row.cell leaf.2.position = .ok value ∧
      value.fits type = true) :
    ((∀ node ∈ expression.nodes, node.evaluate row ≠ .ok .null) →
      ∃ number, expression.exactNumber? row = some number ∧
        expression.ReadsAs row (number.bmod type.modulus) type) ∧
    (¬ expression.HasNullLeaf row →
      (∀ node ∈ expression.nodes, ∀ number, node.exactNumber? row = some number →
        type.least < number ∧ number < -type.least) →
      (∀ node ∈ expression.nodes, node.evaluate row ≠ .ok .null) ∧
        ∃ number, expression.exactNumber? row = some number ∧
          expression.ReadsAs row number type) := by
  have conforms := polynomial.conforms integer cells
  have typed := polynomial.wellTyped integer
  have modular (known : ∀ node ∈ expression.nodes, node.evaluate row ≠ .ok .null) :
      ∃ number, expression.exactNumber? row = some number ∧
        expression.ReadsAs row (number.bmod type.modulus) type := by
    obtain ⟨number, exact, means⟩ := polynomial.reduces integer conforms known
    have reads := readsAs_of_number? (polynomial.type_eq.symm ▸ integer) typed conforms means
    rw [polynomial.type_eq] at reads
    exact ⟨number, exact, reads⟩
  refine ⟨modular, fun present bounded => ?_⟩
  have known := polynomial.known_of_bounded integer conforms present bounded
  obtain ⟨number, exact, reads⟩ := modular known
  obtain ⟨above, below⟩ := bounded _ (mem_nodes_self _) number exact
  rw [ColumnType.bmod_of_range above below] at reads
  exact ⟨known, number, exact, reads⟩

/-- A long sum that wraps around comes back with a difference, and the negative of an integer
product does not wrap at all. -/
theorem polynomial_reads_exactly_both_ways :
    (∃ number,
      (Expr.binary .long (.arithmetic .subtract)
        (.binary .long (.arithmetic .add) (.atPosition 0 .long) (.ofLong 2))
        (.ofLong 2)).exactNumber? (.cells [.long 9223372036854775807]) = some number ∧
      (Expr.binary .long (.arithmetic .subtract)
        (.binary .long (.arithmetic .add) (.atPosition 0 .long) (.ofLong 2)) (.ofLong 2)).ReadsAs
          (.cells [.long 9223372036854775807]) (number.bmod ColumnType.long.modulus) .long) ∧
    ∃ number,
      (Expr.unary .int .negate (.binary .int (.arithmetic .multiply) (.atPosition 0 .int)
        (.ofInt 3))).exactNumber? (.cells [.int 7]) = some number ∧
      (Expr.unary .int .negate (.binary .int (.arithmetic .multiply) (.atPosition 0 .int)
        (.ofInt 3))).ReadsAs (.cells [.int 7]) number .int := by
  constructor
  · have polynomial : (Expr.binary .long (.arithmetic .subtract)
        (.binary .long (.arithmetic .add) (.atPosition 0 .long) (.ofLong 2))
        (.ofLong 2)).IsPolynomial .long :=
      .arithmetic (by decide) (.arithmetic (by decide) (.column _) (.constant rfl)) (.constant rfl)
    refine (polynomial_reads_exactly rfl polynomial ?_).1 ?_
    · exact List.forall_mem_singleton.mpr ⟨_, rfl, rfl⟩
    · intro node member isNull
      simp only [nodes, atPosition, ofLong, List.cons_append, List.nil_append, List.mem_cons,
        List.not_mem_nil, or_false] at member
      rcases member with rfl | rfl | rfl | rfl | rfl <;> cases isNull
  · have polynomial : (Expr.unary .int .negate (.binary .int (.arithmetic .multiply)
        (.atPosition 0 .int) (.ofInt 3))).IsPolynomial .int :=
      .negate (.arithmetic (by decide) (.column _) (.constant rfl))
    refine ((polynomial_reads_exactly rfl polynomial ?_).2 ?_ ?_).2
    · exact List.forall_mem_singleton.mpr ⟨_, rfl, rfl⟩
    · rintro (absent | absent) <;> cases absent
    · intro node member number exact
      simp only [nodes, atPosition, ofInt, List.cons_append, List.nil_append, List.mem_cons,
        List.not_mem_nil, or_false] at member
      rcases member with rfl | rfl | rfl | rfl <;> cases exact <;> decide

end Expr

end Columnar
