/-
This file gives one rule for each view of each kind of node: what the node reads as, once its
operands are read. The rules are all that later files know of the evaluator. Where a view reads the
operands through several views of their own, there is a rule for each way. An integer operation has
two rules for its double view, for that view reads the operands again instead of the result.
-/

import Columnar.Proofs.Words

namespace Columnar

namespace Word

/-- The double view of arithmetic on words of 32 bits, any of which may be NULL. -/
def combineIntsAsDouble (op : ArithmeticOp) (left right : Int32) : Float :=
  if left = Null.int ∨ right = Null.int then Null.double else intsToDouble op left right

/-- The double view of arithmetic on words of 64 bits, any of which may be NULL. -/
def combineLongsAsDouble (op : ArithmeticOp) (left right : Int64) : Float :=
  if left = Null.long ∨ right = Null.long then Null.double else longsToDouble op left right

end Word

namespace Expr

variable {row : Row} {type : ColumnType} {expression operand left right : Expr}

/-- An expression that is no operation on two operands. -/
def IsNoOperation : Expr → Prop
  | .binary _ _ _ _ => False
  | _ => True

/-! ### Integers of 32 bits -/

theorem readInt_negate {word : Int32} (read : operand.readInt row = .ok word) :
    (Expr.unary .int .negate operand).readInt row = .ok (Word.negateInt word) := by
  rw [readInt, Expr.type, if_pos rfl, read]
  rfl

theorem readInt_arithmetic {op : ArithmeticOp} {leftWord rightWord : Int32}
    (leftRead : left.readInt row = .ok leftWord) (rightRead : right.readInt row = .ok rightWord) :
    (Expr.binary .int (.arithmetic op) left right).readInt row =
      .ok (Word.combineInts op leftWord rightWord) := by
  rw [readInt, Expr.type, if_pos rfl, leftRead, rightRead, Word.combineInts]
  simp only [bind, Except.bind]
  split <;> rfl

/-! ### Integers of 64 bits and timestamps -/

theorem readLong_of_int {word : Int32} (isInt : expression.type = .int)
    (read : expression.readInt row = .ok word) :
    expression.readLong row = .ok (Word.widen word) := by
  unfold readLong
  rw [if_pos isInt, read]
  rfl

theorem ne_int_of_isLongWord (long : type.isLongWord = true) : type ≠ .int := by
  rintro rfl
  cases long

theorem readLong_negate {word : Int64} (long : type.isLongWord = true)
    (read : operand.readLong row = .ok word) :
    (Expr.unary type .negate operand).readLong row = .ok (Word.negateLong word) := by
  rw [readLong, Expr.type, if_neg (ne_int_of_isLongWord long), if_pos long, read]
  rfl

/-- A floor reads its operand as a timestamp and moves what is read to the start of its segment. -/
theorem readLong_floors {scheme : Scheme} (long : operand.type.isLongWord = true) :
    (Expr.unary .date (.floor scheme) operand).readLong row =
      (do return scheme.floor (← operand.readLong row)) := by
  rw [readLong, Expr.type, if_neg (by decide), if_pos (by decide), if_pos long]

theorem readLong_floor {scheme : Scheme} {word : Int64} (long : operand.type.isLongWord = true)
    (read : operand.readLong row = .ok word) :
    (Expr.unary .date (.floor scheme) operand).readLong row = .ok (scheme.floor word) := by
  rw [readLong_floors long, read]
  rfl

theorem readLong_arithmetic {op : ArithmeticOp} {leftWord rightWord : Int64}
    (long : type.isLongWord = true) (leftRead : left.readLong row = .ok leftWord)
    (rightRead : right.readLong row = .ok rightWord) :
    (Expr.binary type (.arithmetic op) left right).readLong row =
      .ok (Word.combineLongs op leftWord rightWord) := by
  rw [readLong, Expr.type, if_neg (ne_int_of_isLongWord long), if_pos long, leftRead, rightRead,
    Word.combineLongs]
  simp only [bind, Except.bind]
  split <;> rfl

theorem readDate_of_isLongWord (long : expression.type.isLongWord = true) :
    expression.readDate row = expression.readLong row := by
  unfold readDate
  rw [if_pos long]

/-! ### Doubles -/

theorem readDouble_negate {word : Float} (read : operand.readDouble row = .ok word) :
    (Expr.unary .double .negate operand).readDouble row = .ok (-word) := by
  rw [readDouble, Expr.type, if_pos rfl, read]
  rfl

theorem readDouble_arithmetic {op : ArithmeticOp} {leftWord rightWord : Float}
    (leftRead : left.readDouble row = .ok leftWord)
    (rightRead : right.readDouble row = .ok rightWord) :
    (Expr.binary .double (.arithmetic op) left right).readDouble row =
      .ok (op.onDoubles leftWord rightWord) := by
  rw [readDouble, Expr.type, if_pos rfl, leftRead, rightRead]
  rfl

/-- Away from arithmetic on two operands the double view converts what the integer view reads. -/
theorem readDouble_converts_int (isInt : expression.type = .int)
    (shape : expression.IsNoOperation) :
    expression.readDouble row = (do return Word.intToDouble (← expression.readInt row)) := by
  unfold readDouble
  rw [if_neg (by rw [isInt]; decide), if_neg (by rw [isInt]; decide), if_pos isInt]
  cases expression with
  | binary => exact shape.elim
  | column | constant | unary => rfl

theorem readDouble_converts_long (long : expression.type.isLongWord = true)
    (shape : expression.IsNoOperation) :
    expression.readDouble row = (do return Word.longToDouble (← expression.readLong row)) := by
  have notDouble : expression.type ≠ .double := by
    intro isDouble
    rw [isDouble] at long
    cases long
  unfold readDouble
  rw [if_neg notDouble, if_pos long]
  cases expression with
  | binary => exact shape.elim
  | column | constant | unary => rfl

theorem readDouble_of_int {word : Int32} (isInt : expression.type = .int)
    (shape : expression.IsNoOperation) (read : expression.readInt row = .ok word) :
    expression.readDouble row = .ok (Word.intToDouble word) := by
  rw [readDouble_converts_int isInt shape, read]
  rfl

theorem readDouble_of_long {word : Int64} (long : expression.type.isLongWord = true)
    (shape : expression.IsNoOperation) (read : expression.readLong row = .ok word) :
    expression.readDouble row = .ok (Word.longToDouble word) := by
  rw [readDouble_converts_long long shape, read]
  rfl

theorem readDouble_intArithmetic {op : ArithmeticOp} {leftWord rightWord : Int32}
    (leftRead : left.readInt row = .ok leftWord) (rightRead : right.readInt row = .ok rightWord) :
    (Expr.binary .int (.arithmetic op) left right).readDouble row =
      .ok (Word.combineIntsAsDouble op leftWord rightWord) := by
  rw [readDouble, Expr.type, if_neg (by decide), if_neg (by decide), if_pos rfl, leftRead,
    rightRead, Word.combineIntsAsDouble]
  simp only [bind, Except.bind]
  split <;> rfl

theorem readDouble_longArithmetic {op : ArithmeticOp} {leftWord rightWord : Int64}
    (long : type.isLongWord = true) (leftRead : left.readLong row = .ok leftWord)
    (rightRead : right.readLong row = .ok rightWord) :
    (Expr.binary type (.arithmetic op) left right).readDouble row =
      .ok (Word.combineLongsAsDouble op leftWord rightWord) := by
  have notDouble : type ≠ .double := by
    rintro rfl
    cases long
  rw [readDouble, Expr.type, if_neg notDouble, if_pos long, leftRead, rightRead,
    Word.combineLongsAsDouble]
  simp only [bind, Except.bind]
  split <;> rfl

/-! ### Conditions -/

theorem readBoolean_not {word : Bool} (read : operand.readBoolean row = .ok word) :
    (Expr.unary .boolean .not operand).readBoolean row = .ok (!word) := by
  rw [readBoolean, Expr.type, if_pos rfl, read]
  rfl

theorem readBoolean_isNull :
    (Expr.unary .boolean .isNull operand).readBoolean row = operand.readNull row := by
  rw [readBoolean, Expr.type, if_pos rfl]

theorem readBoolean_isNotNull {word : Bool} (read : operand.readNull row = .ok word) :
    (Expr.unary .boolean .isNotNull operand).readBoolean row = .ok (!word) := by
  rw [readBoolean, Expr.type, if_pos rfl, read]
  rfl

theorem readBoolean_and {leftWord rightWord : Bool} (leftRead : left.readBoolean row = .ok leftWord)
    (rightRead : right.readBoolean row = .ok rightWord) :
    (Expr.binary .boolean (.logical .and) left right).readBoolean row =
      .ok (leftWord && rightWord) := by
  rw [readBoolean, Expr.type, if_pos rfl, leftRead, rightRead]
  cases leftWord <;> rfl

theorem readBoolean_or {leftWord rightWord : Bool} (leftRead : left.readBoolean row = .ok leftWord)
    (rightRead : right.readBoolean row = .ok rightWord) :
    (Expr.binary .boolean (.logical .or) left right).readBoolean row =
      .ok (leftWord || rightWord) := by
  rw [readBoolean, Expr.type, if_pos rfl, leftRead, rightRead]
  cases leftWord <;> rfl

section Comparison

variable {op : ComparisonOp}

theorem readBoolean_compareLongs {leftWord rightWord : Int64}
    (shared : left.domain? right = some .integer) (leftRead : left.readLong row = .ok leftWord)
    (rightRead : right.readLong row = .ok rightWord) :
    (Expr.binary .boolean (.comparison op) left right).readBoolean row =
      .ok (op.holds (Word.compareLongs leftWord rightWord)) := by
  rw [readBoolean, Expr.type, if_pos rfl, shared]
  simp only [leftRead, rightRead, bind, Except.bind]
  rfl

theorem readBoolean_compareDoubles {leftWord rightWord : Float}
    (shared : left.domain? right = some .double) (leftRead : left.readDouble row = .ok leftWord)
    (rightRead : right.readDouble row = .ok rightWord) :
    (Expr.binary .boolean (.comparison op) left right).readBoolean row =
      .ok (op.holds (Word.compareDoubles leftWord rightWord)) := by
  rw [readBoolean, Expr.type, if_pos rfl, shared]
  simp only [leftRead, rightRead, bind, Except.bind]
  rfl

theorem readBoolean_compareBooleans {leftWord rightWord : Bool}
    (shared : left.domain? right = some .boolean) (leftRead : left.readBoolean row = .ok leftWord)
    (rightRead : right.readBoolean row = .ok rightWord) :
    (Expr.binary .boolean (.comparison op) left right).readBoolean row =
      .ok (op.accepts (compare leftWord rightWord)) := by
  rw [readBoolean, Expr.type, if_pos rfl, shared]
  simp only [leftRead, rightRead, bind, Except.bind]
  rfl

theorem readBoolean_compareTexts {leftText rightText : Option String}
    (shared : left.domain? right = some .text) (leftRead : left.readText row = .ok leftText)
    (rightRead : right.readText row = .ok rightText) :
    (Expr.binary .boolean (.comparison op) left right).readBoolean row =
      .ok (op.holds (Word.compareTexts leftText rightText)) := by
  rw [readBoolean, Expr.type, if_pos rfl, shared]
  simp only [leftRead, rightRead, bind, Except.bind]
  rfl

theorem readBoolean_compareCodes {leftCode rightCode : Int32}
    (shared : left.domain? right = some .code) (leftRead : left.readCode row = .ok leftCode)
    (rightRead : right.readCode row = .ok rightCode) :
    (Expr.binary .boolean (.comparison op) left right).readBoolean row =
      .ok (op.holds (Word.compareCodes leftCode rightCode)) := by
  rw [readBoolean, Expr.type, if_pos rfl, shared]
  simp only [leftRead, rightRead, bind, Except.bind]
  rfl

end Comparison

/-! ### NULL and the value -/

theorem readNull_of_boolean (isBoolean : expression.type = .boolean) :
    expression.readNull row = .ok false := by
  unfold readNull
  rw [isBoolean]

theorem readNull_of_int {word : Int32} (isInt : expression.type = .int)
    (read : expression.readInt row = .ok word) :
    expression.readNull row = .ok (word == Null.int) := by
  unfold readNull
  rw [isInt]
  simp only [read, bind, Except.bind]
  rfl

theorem readNull_of_long {word : Int64} (long : expression.type.isLongWord = true)
    (read : expression.readLong row = .ok word) :
    expression.readNull row = .ok (word == Null.long) := by
  have readAsDate : expression.readDate row = expression.readLong row :=
    readDate_of_isLongWord long
  unfold readNull
  cases known : expression.type <;> rw [known] at long <;> cases long
  · simp only [read, bind, Except.bind]
    rfl
  · simp only [readAsDate, read, bind, Except.bind]
    rfl

theorem readNull_of_double {word : Float} (isDouble : expression.type = .double)
    (read : expression.readDouble row = .ok word) :
    expression.readNull row = .ok word.isNaN := by
  unfold readNull
  rw [isDouble]
  simp only [read, bind, Except.bind]
  rfl

theorem readNull_of_symbol {code : Int32} (isSymbol : expression.type = .symbol)
    (read : expression.readCode row = .ok code) :
    expression.readNull row = .ok (code == Null.code) := by
  unfold readNull
  rw [isSymbol]
  simp only [read, bind, Except.bind]
  rfl

theorem readNull_of_string {text : Option String} (isString : expression.type = .string)
    (read : expression.readText row = .ok text) :
    expression.readNull row = .ok text.isNone := by
  unfold readNull
  rw [isString]
  simp only [read, bind, Except.bind]
  rfl

theorem evaluate_of_boolean {word : Bool} (isBoolean : expression.type = .boolean)
    (read : expression.readBoolean row = .ok word) :
    expression.evaluate row = .ok (.boolean word) := by
  unfold evaluate
  rw [isBoolean]
  simp only [read, bind, Except.bind]
  rfl

theorem evaluate_of_int {word : Int32} (isInt : expression.type = .int)
    (read : expression.readInt row = .ok word) : expression.evaluate row = .ok (.ofInt word) := by
  unfold evaluate
  rw [isInt]
  simp only [read, bind, Except.bind]
  rfl

theorem evaluate_of_long {word : Int64} (isLong : expression.type = .long)
    (read : expression.readLong row = .ok word) :
    expression.evaluate row = .ok (.ofLong word) := by
  unfold evaluate
  rw [isLong]
  simp only [read, bind, Except.bind]
  rfl

theorem evaluate_of_date {micros : Int64} (isDate : expression.type = .date)
    (read : expression.readLong row = .ok micros) :
    expression.evaluate row = .ok (.ofDate micros) := by
  have long : expression.type.isLongWord = true := by rw [isDate]; rfl
  unfold evaluate
  rw [isDate]
  simp only [readDate_of_isLongWord long, read, bind, Except.bind]
  rfl

theorem evaluate_of_double {word : Float} (isDouble : expression.type = .double)
    (read : expression.readDouble row = .ok word) :
    expression.evaluate row = .ok (.ofDouble word) := by
  unfold evaluate
  rw [isDouble]
  simp only [read, bind, Except.bind]
  rfl

theorem evaluate_of_symbol {code : Int32} (isSymbol : expression.type = .symbol)
    (read : expression.readCode row = .ok code) :
    expression.evaluate row = .ok (.ofSymbol code) := by
  unfold evaluate
  rw [isSymbol]
  simp only [read, bind, Except.bind]
  rfl

theorem evaluate_of_string {text : Option String} (isString : expression.type = .string)
    (read : expression.readText row = .ok text) :
    expression.evaluate row = .ok (.ofString text) := by
  unfold evaluate
  rw [isString]
  simp only [read, bind, Except.bind]
  rfl

end Expr

end Columnar
