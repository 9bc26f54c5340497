/-
This file proves that operands can be swapped. The operations for which this holds are sums,
products, AND and OR, which stay what they are, and the comparisons, of which the inequalities turn
around. Typing treats both operands alike even where the tables of types list them one way and the
other, as they do for timestamps and integers, and the domain of a comparison does not depend on the
order of the operands. Each operation then combines the same two words, read through the same views,
the other way round. AND and OR read the other operand first, but every condition answers, so the
operand that is not read would not have changed the answer.
-/

import Columnar.Proofs.Doubles
import Columnar.Proofs.Orders

namespace Columnar

namespace ArithmeticOp

/-- Whether the order of the operands does not matter. -/
def commutes : ArithmeticOp → Bool
  | .add | .multiply => true
  | .subtract | .divide => false

variable {op : ArithmeticOp} (commutes : op.commutes = true)

include commutes

/-! ### Swapped words -/

theorem outputType?_swap (left right : ColumnType) :
    op.outputType? right left = op.outputType? left right := by
  cases op <;> cases commutes <;> cases left <;> cases right <;> rfl

theorem onInts_swap (left right : Int32) : op.onInts right left = op.onInts left right := by
  cases op <;> cases commutes
  · exact Int32.add_comm right left
  · exact Int32.mul_comm right left

theorem onLongs_swap (left right : Int64) : op.onLongs right left = op.onLongs left right := by
  cases op <;> cases commutes
  · exact Int64.add_comm right left
  · exact Int64.mul_comm right left

theorem onDoubles_swap (left right : Float) :
    op.onDoubles right left = op.onDoubles left right := by
  cases op <;> cases commutes
  · exact Double.add_swap left right
  · exact Double.mul_swap left right

theorem combineInts_swap (left right : Int32) :
    Word.combineInts op right left = Word.combineInts op left right := by
  simp only [Word.combineInts, or_comm, onInts_swap commutes left right]

theorem combineLongs_swap (left right : Int64) :
    Word.combineLongs op right left = Word.combineLongs op left right := by
  simp only [Word.combineLongs, or_comm, onLongs_swap commutes left right]

theorem combineIntsAsDouble_swap (left right : Int32) :
    Word.combineIntsAsDouble op right left = Word.combineIntsAsDouble op left right := by
  have converted : Word.intsToDouble op right left = Word.intsToDouble op left right := by
    have swapped := onInts_swap commutes left right
    cases op <;> cases commutes <;>
      exact congrArg (fun word => Word.nearestDouble word.toInt) swapped
  simp only [Word.combineIntsAsDouble, or_comm, converted]

theorem combineLongsAsDouble_swap (left right : Int64) :
    Word.combineLongsAsDouble op right left = Word.combineLongsAsDouble op left right := by
  have converted : Word.longsToDouble op right left = Word.longsToDouble op left right := by
    have swapped := onLongs_swap commutes left right
    cases op <;> cases commutes <;>
      exact congrArg (fun word => Word.nearestDouble word.toInt) swapped
  simp only [Word.combineLongsAsDouble, or_comm, converted]

end ArithmeticOp

/-- A reversed order is to the mirrored comparison what the order is to the comparison. -/
theorem ComparisonOp.holds_mirrored (op : ComparisonOp) (order : Option Ordering) :
    op.mirrored.holds (order.map Ordering.swap) = op.holds order := by
  cases order with
  | none => rfl
  | some order => cases op <;> cases order <;> rfl

/-- The operation that gives of swapped operands what this one gives of the operands, where there is
one. -/
def BinaryOp.mirrored? : BinaryOp → Option BinaryOp
  | .arithmetic op => if op.commutes then some (.arithmetic op) else none
  | .comparison op => some (.comparison op.mirrored)
  | .logical op => some (.logical op)

namespace Expr

variable {row : Row} {left right : Expr} {op mirrored : BinaryOp} {type : ColumnType}

/-! ### Typing -/

/-- The result of the mirrored operation on swapped operands has the same type. -/
theorem resultType?_mirrored (mirrors : op.mirrored? = some mirrored) :
    resultType? mirrored right left right.type left.type =
      resultType? op left right left.type right.type := by
  refine Option.ext fun type => ?_
  cases op with
  | arithmetic op =>
    rw [BinaryOp.mirrored?, Option.ite_none_right_eq_some] at mirrors
    obtain ⟨commutes, same⟩ := mirrors
    cases same
    exact iff_of_eq (congrArg (· = some type) (op.outputType?_swap commutes left.type right.type))
  | comparison op =>
    cases mirrors
    rw [resultType?_comparison, resultType?_comparison, domain?_comm]
  | logical op =>
    cases mirrors
    rw [resultType?_logical, resultType?_logical, and_left_comm]

/-! ### Values -/

/-- Two nodes answer alike on a row: they have the same value, and where they are integers or
timestamps, the same double view. -/
structure AnswersLike (row : Row) (node other : Expr) : Prop where
  value : ∃ value, node.evaluate row = .ok value ∧ other.evaluate row = .ok value
  double : node.type.offers .long = true →
    ∃ word, node.readDouble row = .ok word ∧ other.readDouble row = .ok word

/-- Conditions that read alike answer alike. -/
theorem answersLike_of_readBoolean {node other : Expr} {word : Bool}
    (condition : node.type = .boolean) (otherCondition : other.type = .boolean)
    (read : node.readBoolean row = .ok word) (otherRead : other.readBoolean row = .ok word) :
    node.AnswersLike row other where
  value := ⟨_, evaluate_of_boolean condition read, evaluate_of_boolean otherCondition otherRead⟩
  double := by
    rw [condition]
    nofun

section Arithmetic

variable {op : ArithmeticOp} (commutes : op.commutes = true)

include commutes

theorem answersLike_doubleArithmetic {leftWord rightWord : Float}
    (leftRead : left.readDouble row = .ok leftWord)
    (rightRead : right.readDouble row = .ok rightWord) :
    (Expr.binary .double (.arithmetic op) left right).AnswersLike row
      (.binary .double (.arithmetic op) right left) := by
  have swapped : (Expr.binary .double (.arithmetic op) right left).readDouble row =
      .ok (op.onDoubles leftWord rightWord) := by
    rw [readDouble_arithmetic rightRead leftRead, ArithmeticOp.onDoubles_swap commutes]
  exact ⟨⟨_, evaluate_of_double rfl (readDouble_arithmetic leftRead rightRead),
    evaluate_of_double rfl swapped⟩, nofun⟩

theorem answersLike_intArithmetic {leftWord rightWord : Int32}
    (leftRead : left.readInt row = .ok leftWord) (rightRead : right.readInt row = .ok rightWord) :
    (Expr.binary .int (.arithmetic op) left right).AnswersLike row
      (.binary .int (.arithmetic op) right left) := by
  have swapped : (Expr.binary .int (.arithmetic op) right left).readInt row =
      .ok (Word.combineInts op leftWord rightWord) := by
    rw [readInt_arithmetic rightRead leftRead, ArithmeticOp.combineInts_swap commutes]
  have swappedDouble : (Expr.binary .int (.arithmetic op) right left).readDouble row =
      .ok (Word.combineIntsAsDouble op leftWord rightWord) := by
    rw [readDouble_intArithmetic rightRead leftRead, ArithmeticOp.combineIntsAsDouble_swap commutes]
  exact ⟨⟨_, evaluate_of_int rfl (readInt_arithmetic leftRead rightRead),
    evaluate_of_int rfl swapped⟩,
    fun _ => ⟨_, readDouble_intArithmetic leftRead rightRead, swappedDouble⟩⟩

theorem answersLike_longArithmetic {leftWord rightWord : Int64} (long : type.isLongWord = true)
    (leftRead : left.readLong row = .ok leftWord) (rightRead : right.readLong row = .ok rightWord) :
    (Expr.binary type (.arithmetic op) left right).AnswersLike row
      (.binary type (.arithmetic op) right left) := by
  have read : (Expr.binary type (.arithmetic op) left right).readLong row =
      .ok (Word.combineLongs op leftWord rightWord) := readLong_arithmetic long leftRead rightRead
  have swapped : (Expr.binary type (.arithmetic op) right left).readLong row =
      .ok (Word.combineLongs op leftWord rightWord) := by
    rw [readLong_arithmetic long rightRead leftRead, ArithmeticOp.combineLongs_swap commutes]
  have swappedDouble : (Expr.binary type (.arithmetic op) right left).readDouble row =
      .ok (Word.combineLongsAsDouble op leftWord rightWord) := by
    rw [readDouble_longArithmetic long rightRead leftRead,
      ArithmeticOp.combineLongsAsDouble_swap commutes]
  refine ⟨?_, fun _ => ⟨_, readDouble_longArithmetic long leftRead rightRead, swappedDouble⟩⟩
  cases type <;> cases long
  · exact ⟨_, evaluate_of_long rfl read, evaluate_of_long rfl swapped⟩
  · exact ⟨_, evaluate_of_date rfl read, evaluate_of_date rfl swapped⟩

end Arithmetic

section Readable

variable (leftReadable : left.Readable row) (rightReadable : right.Readable row)

include leftReadable rightReadable

/-- Swapped operands are read through the same view, for the type of the result asks both for it. -/
theorem answersLike_arithmetic {op : ArithmeticOp} (commutes : op.commutes = true)
    (output : op.outputType? left.type right.type = some type) :
    (Expr.binary type (.arithmetic op) left right).AnswersLike row
      (.binary type (.arithmetic op) right left) := by
  obtain ⟨leftTyped, leftConforms⟩ := leftReadable
  obtain ⟨rightTyped, rightConforms⟩ := rightReadable
  rcases ColumnType.offers_double_iff.mp (ArithmeticOp.offers_double_of_output output) with
    rfl | integer
  · obtain ⟨leftOffered, rightOffered⟩ := ArithmeticOp.operands_of_double output
    obtain ⟨leftWord, leftRead⟩ := exists_readDouble leftTyped leftConforms leftOffered
    obtain ⟨rightWord, rightRead⟩ := exists_readDouble rightTyped rightConforms rightOffered
    exact answersLike_doubleArithmetic commutes leftRead rightRead
  rcases ColumnType.offers_long_iff.mp integer with rfl | long
  · obtain ⟨leftInt, rightInt⟩ := ArithmeticOp.operands_of_int output
    obtain ⟨leftWord, leftRead, -⟩ := exists_readInt leftTyped leftConforms leftInt
    obtain ⟨rightWord, rightRead, -⟩ := exists_readInt rightTyped rightConforms rightInt
    exact answersLike_intArithmetic commutes leftRead rightRead
  · obtain ⟨leftOffered, rightOffered⟩ := ArithmeticOp.operands_of_long output long
    obtain ⟨leftWord, leftRead, -⟩ := exists_readLong leftTyped leftConforms leftOffered
    obtain ⟨rightWord, rightRead, -⟩ := exists_readLong rightTyped rightConforms rightOffered
    exact answersLike_longArithmetic commutes long leftRead rightRead

/-- The domain is the same, and the mirrored comparison reads the reversed order in it. -/
theorem answersLike_comparison {op : ComparisonOp} {domain : Domain}
    (shared : left.domain? right = some domain) :
    (Expr.binary .boolean (.comparison op) left right).AnswersLike row
      (.binary .boolean (.comparison op.mirrored) right left) := by
  have sharedToo : right.domain? left = some domain := (domain?_comm right left).trans shared
  by_cases asDoubles : domain = .double
  · subst asDoubles
    obtain ⟨leftOffered, rightOffered, -⟩ := offers_double_of_double shared
    obtain ⟨leftWord, leftRead⟩ :=
      exists_readDouble leftReadable.typed leftReadable.conforms leftOffered
    obtain ⟨rightWord, rightRead⟩ :=
      exists_readDouble rightReadable.typed rightReadable.conforms rightOffered
    refine answersLike_of_readBoolean rfl rfl
      (readBoolean_compareDoubles shared leftRead rightRead) ?_
    rw [readBoolean_compareDoubles sharedToo rightRead leftRead, Double.compareDoubles_swap,
      op.holds_mirrored]
  · obtain ⟨placement⟩ := exists_placement row asDoubles
    refine answersLike_of_readBoolean rfl rfl
      (placement.judges leftReadable rightReadable shared op) ?_
    rw [placement.judges rightReadable leftReadable sharedToo, op.relates_mirrored]

/-- Both conditions answer, so it does not matter which of them is read first. -/
theorem answersLike_logical {op : LogicalOp} (leftCondition : left.type = .boolean)
    (rightCondition : right.type = .boolean) :
    (Expr.binary .boolean (.logical op) left right).AnswersLike row
      (.binary .boolean (.logical op) right left) := by
  obtain ⟨leftWord, leftRead, -⟩ :=
    exists_readBoolean leftReadable.typed leftReadable.conforms leftCondition
  obtain ⟨rightWord, rightRead, -⟩ :=
    exists_readBoolean rightReadable.typed rightReadable.conforms rightCondition
  cases op with
  | and =>
    refine answersLike_of_readBoolean rfl rfl (readBoolean_and leftRead rightRead) ?_
    rw [readBoolean_and rightRead leftRead, Bool.and_comm]
  | or =>
    refine answersLike_of_readBoolean rfl rfl (readBoolean_or leftRead rightRead) ?_
    rw [readBoolean_or rightRead leftRead, Bool.or_comm]

/-- The mirrored operation answers on swapped operands like the operation on the operands. -/
theorem answersLike_mirrored (mirrors : op.mirrored? = some mirrored)
    (output : resultType? op left right left.type right.type = some type) :
    (Expr.binary type op left right).AnswersLike row (.binary type mirrored right left) := by
  cases op with
  | arithmetic op =>
    rw [BinaryOp.mirrored?, Option.ite_none_right_eq_some] at mirrors
    obtain ⟨commutes, same⟩ := mirrors
    cases same
    exact answersLike_arithmetic leftReadable rightReadable commutes output
  | comparison op =>
    cases mirrors
    obtain ⟨⟨domain, shared⟩, rfl⟩ := resultType?_comparison.mp output
    exact answersLike_comparison leftReadable rightReadable shared
  | logical op =>
    cases mirrors
    obtain ⟨leftCondition, rightCondition, rfl⟩ := resultType?_logical.mp output
    exact answersLike_logical leftReadable rightReadable leftCondition rightCondition

end Readable

/-- Operands of sums, products, AND, OR and comparisons can be swapped, if the comparison is
mirrored. Over operands that the check accepts one node can be built if and only if the other can,
with the same type, and on every row that conforms to the operands the two have the same value, and
the same double view where they are integers or timestamps. -/
theorem operands_swap {schema : Option Schema} {leftType rightType : ColumnType}
    (leftChecked : left.check schema = .ok leftType)
    (rightChecked : right.check schema = .ok rightType) (mirrors : op.mirrored? = some mirrored) :
    ((∃ built, inferBinary op left right = .ok built) ↔
      ∃ swapped, inferBinary mirrored right left = .ok swapped) ∧
    ∀ built swapped, inferBinary op left right = .ok built →
      inferBinary mirrored right left = .ok swapped →
        swapped.type = built.type ∧
        ∀ row, left.Conforms row → right.Conforms row → built.AnswersLike row swapped := by
  obtain ⟨leftTyped, -⟩ := check_eq_ok_iff.mp leftChecked
  obtain ⟨rightTyped, -⟩ := check_eq_ok_iff.mp rightChecked
  have sameType := @resultType?_mirrored left right op mirrored mirrors
  simp only [inferBinary_eq_ok_iff, sameType]
  refine ⟨?_, ?_⟩
  · constructor
    · rintro ⟨_, type, output, -⟩
      exact ⟨_, type, output, rfl⟩
    · rintro ⟨_, type, output, -⟩
      exact ⟨_, type, output, rfl⟩
  · rintro _ _ ⟨type, output, rfl⟩ ⟨swappedType, swappedOutput, rfl⟩
    obtain rfl : type = swappedType := Option.some.inj (output.symm.trans swappedOutput)
    refine ⟨rfl, fun row leftConforms rightConforms => ?_⟩
    exact answersLike_mirrored ⟨leftTyped, leftConforms⟩ ⟨rightTyped, rightConforms⟩ mirrors output

/-- A timestamp is shifted by an integer whichever of the two comes first. -/
theorem operands_swap_shifted_timestamp :
    (Expr.binary .date (.arithmetic .add) (.atPosition 0 .date) (.ofInt 5)).AnswersLike
      (.cells [.date 7]) (.binary .date (.arithmetic .add) (.ofInt 5) (.atPosition 0 .date)) := by
  have timestamp : (atPosition 0 .date).check (some [.date]) = .ok .date := rfl
  have integer : (ofInt 5).check (some [.date]) = .ok .int := rfl
  have mirrors : (BinaryOp.arithmetic .add).mirrored? = some (.arithmetic .add) := rfl
  obtain ⟨-, swapped⟩ := operands_swap timestamp integer mirrors
  obtain ⟨-, alike⟩ := swapped _ _ rfl rfl
  exact alike _ (conforms_column.mpr ⟨.date 7, rfl, rfl, nofun⟩) (conforms_of_isConstant rfl _)

end Expr

end Columnar
