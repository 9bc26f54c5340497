/-
This file gives everything that can be asked of an expression one shape: each view of it, whether it
is NULL, and its value. What is answered, or which fault is raised, depends on the cells of the
columns that the expression names and on nothing else of a row, however the expression is declared.
A fault about a cell that a row does not have is the fault of reading one of these columns. So an
expression that reads no column gives the same outcome on every row and on the row without cells,
and whatever it may raise, it is no such fault.
-/

import Columnar.Proofs.Locality
import Columnar.Proofs.Views

namespace Columnar

/-- The words that a view answers with. -/
abbrev View.Answer : View → Type
  | .boolean => Bool
  | .int => Int32
  | .long => Int64
  | .double => Float
  | .date => Int64
  | .code => Int32
  | .text => Option String

/-- What can be asked of an expression. -/
inductive Question
  | through (view : View)
  | null
  | value
deriving DecidableEq, Repr

/-- What a question is answered with. -/
abbrev Question.Answer : Question → Type
  | .through view => view.Answer
  | .null => Bool
  | .value => Value

/-- Whether a fault is that of a cell which the row does not have. -/
def Fault.missesCell : Fault → Bool
  | .missingCell _ _ | .emptyRow _ => true
  | _ => false

namespace Expr

/-- Read an expression through a view. -/
def read (row : Row) (expression : Expr) : (view : View) → Except Fault view.Answer
  | .boolean => expression.readBoolean row
  | .int => expression.readInt row
  | .long => expression.readLong row
  | .double => expression.readDouble row
  | .date => expression.readDate row
  | .code => expression.readCode row
  | .text => expression.readText row

/-- Ask a question of an expression. -/
def ask (row : Row) (expression : Expr) : (question : Question) → Except Fault question.Answer
  | .through view => expression.read row view
  | .null => expression.readNull row
  | .value => expression.evaluate row

variable {row other : Row} {expression : Expr}

/-! ### Rows with the same cells -/

theorem read_congr (same : expression.SameCells row other) (view : View) :
    expression.read row view = expression.read other view := by
  cases view with
  | boolean => exact readBoolean_congr same
  | int => exact readInt_congr same
  | long => exact readLong_congr same
  | double => exact readDouble_congr same
  | date => exact readDate_congr same
  | code => exact readCode_congr same
  | text => exact readText_congr same

theorem ask_congr (same : expression.SameCells row other) (question : Question) :
    expression.ask row question = expression.ask other question := by
  cases question with
  | through view => exact read_congr same view
  | null => exact readNull_congr same
  | value => exact evaluate_congr same

/-! ### Cells that a row does not have -/

/-- If the outcome is a fault about a cell that the row does not have, then one of the columns reads
this cell. -/
def Blames (row : Row) (columns : List (ColumnType × Column)) {Answer : Type}
    (outcome : Except Fault Answer) : Prop :=
  ∀ fault, outcome = .error fault → fault.missesCell = true →
    ∃ leaf ∈ columns, row.cell leaf.2.position = .error fault

section Blames

variable {columns more : List (ColumnType × Column)} {Answer Next : Type}

theorem blames_ok (answer : Answer) : Blames row columns (.ok answer) := nofun

theorem blames_error {fault : Fault} (apart : fault.missesCell = false) :
    Blames row columns (.error fault : Except Fault Answer) := by
  intro raised same misses
  cases same
  rw [apart] at misses
  cases misses

theorem Blames.bind {outcome : Except Fault Answer} {next : Answer → Except Fault Next}
    (first : Blames row columns outcome) (rest : ∀ answer, Blames row columns (next answer)) :
    Blames row columns (outcome >>= next) := by
  cases outcome with
  | ok answer => exact rest answer
  | error fault =>
    intro raised same misses
    cases same
    exact first fault rfl misses

theorem Blames.mono {outcome : Except Fault Answer} (blames : Blames row columns outcome)
    (sub : columns ⊆ more) : Blames row more outcome := by
  intro fault raised misses
  obtain ⟨leaf, member, missing⟩ := blames fault raised misses
  exact ⟨leaf, sub member, missing⟩

/-- Reading a cell raises no fault about a cell but that of the cell itself. -/
theorem blames_cell {type : ColumnType} {source : Column} {next : Value → Except Fault Answer}
    (rest : ∀ value, Blames row [(type, source)] (next value)) :
    Blames row [(type, source)] (row.cell source.position >>= next) :=
  Blames.bind (fun _ raised _ => ⟨(type, source), List.mem_cons_self .., raised⟩) rest

/-- Whatever reads both operands and goes on from there blames their columns. -/
theorem Blames.operands {Left Right : Type} {leftColumns rightColumns : List (ColumnType × Column)}
    {first : Except Fault Left} {second : Except Fault Right}
    {next : Left → Right → Except Fault Answer} (leftBlames : Blames row leftColumns first)
    (rightBlames : Blames row rightColumns second)
    (rest : ∀ left right, Blames row (leftColumns ++ rightColumns) (next left right)) :
    Blames row (leftColumns ++ rightColumns)
      (first >>= fun left => second >>= fun right => next left right) :=
  (leftBlames.mono (List.subset_append_left ..)).bind fun left =>
    (rightBlames.mono (List.subset_append_right ..)).bind fun right => rest left right

/-- A table has no part in the cells of a row. -/
theorem blames_text (table : SymbolTable) (code : Int32) :
    Blames row columns (table.text code) := by
  unfold SymbolTable.text
  split
  · exact blames_ok _
  · split
    · exact blames_error rfl
    · split
      · exact blames_ok _
      · exact blames_error rfl

end Blames

/-! Each view reads cells at the columns alone. Everything else that it may raise comes from the
types. -/

theorem blames_readInt (row : Row) (expression : Expr) :
    Blames row expression.columns (expression.readInt row) := by
  induction expression with
  | column type source =>
    unfold readInt
    split
    · refine blames_cell fun value => ?_
      cases value <;> first | exact blames_ok _ | exact blames_error rfl
    · exact blames_error rfl
  | constant type value =>
    unfold readInt
    split
    · cases value <;> first | exact blames_ok _ | exact blames_error rfl
    · exact blames_error rfl
  | unary type op operand inductionHypothesis =>
    unfold readInt
    split
    · cases op with
      | negate => exact inductionHypothesis.bind fun _ => blames_ok _
      | not | isNull | isNotNull | floor => exact blames_error rfl
    · exact blames_error rfl
  | binary type op left right leftHypothesis rightHypothesis =>
    unfold readInt
    split
    · refine leftHypothesis.operands rightHypothesis fun leftWord rightWord => ?_
      split
      · exact blames_ok _
      · cases op <;> first | exact blames_ok _ | exact blames_error rfl
    · exact blames_error rfl

theorem blames_widened (row : Row) (expression : Expr) :
    Blames row expression.columns (do return Word.widen (← expression.readInt row)) :=
  (blames_readInt row expression).bind fun _ => blames_ok _

theorem blames_readLong (row : Row) (expression : Expr) :
    Blames row expression.columns (expression.readLong row) := by
  induction expression with
  | column type source =>
    unfold readLong
    split
    · exact blames_widened row (.column type source)
    · split
      · cases type with
        | date =>
          refine blames_cell fun value => ?_
          cases value <;> first | exact blames_ok _ | exact blames_error rfl
        | boolean | int | long | double | symbol | string =>
          refine blames_cell fun value => ?_
          cases value <;> first | exact blames_ok _ | exact blames_error rfl
      · exact blames_error rfl
  | constant type value =>
    unfold readLong
    split
    · exact blames_widened row (.constant type value)
    · split
      · cases value <;> first | exact blames_ok _ | exact blames_error rfl
      · exact blames_error rfl
  | unary type op operand inductionHypothesis =>
    unfold readLong
    split
    · exact blames_widened row (.unary type op operand)
    · split
      · cases op with
        | negate => exact inductionHypothesis.bind fun _ => blames_ok _
        | floor scheme =>
          dsimp only
          split
          · exact inductionHypothesis.bind fun _ => blames_ok _
          · exact blames_error rfl
        | not | isNull | isNotNull => exact blames_error rfl
      · exact blames_error rfl
  | binary type op left right leftHypothesis rightHypothesis =>
    unfold readLong
    split
    · exact blames_widened row (.binary type op left right)
    · split
      · refine leftHypothesis.operands rightHypothesis fun leftWord rightWord => ?_
        split
        · exact blames_ok _
        · cases op <;> first | exact blames_ok _ | exact blames_error rfl
      · exact blames_error rfl

theorem blames_readDate (row : Row) (expression : Expr) :
    Blames row expression.columns (expression.readDate row) := by
  unfold readDate
  split
  · exact blames_readLong row expression
  · exact blames_error rfl

/-- Away from doubles and from arithmetic on two operands the double view converts what another
view reads. -/
theorem blames_converted (row : Row) {expression : Expr} (notDouble : expression.type ≠ .double)
    (shape : expression.IsNoOperation) :
    Blames row expression.columns (expression.readDouble row) := by
  by_cases long : expression.type.isLongWord = true
  · rw [readDouble_converts_long long shape]
    exact (blames_readLong row expression).bind fun _ => blames_ok _
  · by_cases isInt : expression.type = .int
    · rw [readDouble_converts_int isInt shape]
      exact (blames_readInt row expression).bind fun _ => blames_ok _
    · unfold readDouble
      rw [if_neg notDouble, if_neg long, if_neg isInt]
      exact blames_error rfl

theorem blames_readDouble (row : Row) (expression : Expr) :
    Blames row expression.columns (expression.readDouble row) := by
  induction expression with
  | column type source =>
    by_cases isDouble : type = .double
    · unfold readDouble
      rw [Expr.type, if_pos isDouble]
      refine blames_cell fun value => ?_
      cases value <;> first | exact blames_ok _ | exact blames_error rfl
    · exact blames_converted row isDouble trivial
  | constant type value =>
    by_cases isDouble : type = .double
    · unfold readDouble
      rw [Expr.type, if_pos isDouble]
      cases value <;> first | exact blames_ok _ | exact blames_error rfl
    · exact blames_converted row isDouble trivial
  | unary type op operand inductionHypothesis =>
    by_cases isDouble : type = .double
    · unfold readDouble
      rw [Expr.type, if_pos isDouble]
      cases op with
      | negate => exact inductionHypothesis.bind fun _ => blames_ok _
      | not | isNull | isNotNull | floor => exact blames_error rfl
    · exact blames_converted row isDouble trivial
  | binary type op left right leftHypothesis rightHypothesis =>
    unfold readDouble
    split
    · refine leftHypothesis.operands rightHypothesis fun leftWord rightWord => ?_
      cases op <;> first | exact blames_ok _ | exact blames_error rfl
    · split
      · refine (blames_readLong row left).operands (blames_readLong row right)
          fun leftWord rightWord => ?_
        split
        · exact blames_ok _
        · cases op <;> first | exact blames_ok _ | exact blames_error rfl
      · split
        · refine (blames_readInt row left).operands (blames_readInt row right)
            fun leftWord rightWord => ?_
          split
          · exact blames_ok _
          · cases op <;> first | exact blames_ok _ | exact blames_error rfl
        · exact blames_error rfl

theorem blames_readCode (row : Row) (expression : Expr) :
    Blames row expression.columns (expression.readCode row) := by
  cases expression with
  | column type source =>
    cases type with
    | symbol =>
      unfold readCode Row.readCode
      refine blames_cell fun value => ?_
      cases value <;> first | exact blames_ok _ | exact blames_error rfl
    | boolean | int | long | double | date | string => exact blames_error rfl
  | constant type value =>
    cases type <;> cases value <;> first | exact blames_ok _ | exact blames_error rfl
  | unary | binary => exact blames_error rfl

theorem blames_readText (row : Row) (expression : Expr) :
    Blames row expression.columns (expression.readText row) := by
  unfold readText
  split
  · refine blames_cell fun value => ?_
    cases value <;> first | exact blames_ok _ | exact blames_error rfl
  · exact blames_ok _
  · exact blames_ok _
  · exact blames_ok _
  · next source =>
    refine (blames_readCode row (.column .symbol source)).bind fun code => ?_
    split
    · exact blames_text _ _
    · exact blames_error rfl
  · exact blames_error rfl

theorem blames_readNull (row : Row) (expression : Expr) :
    Blames row expression.columns (expression.readNull row) := by
  unfold readNull
  split
  · exact blames_ok _
  · exact (blames_readInt row expression).bind fun _ => blames_ok _
  · exact (blames_readLong row expression).bind fun _ => blames_ok _
  · exact (blames_readDate row expression).bind fun _ => blames_ok _
  · exact (blames_readDouble row expression).bind fun _ => blames_ok _
  · exact (blames_readCode row expression).bind fun _ => blames_ok _
  · exact (blames_readText row expression).bind fun _ => blames_ok _

/-- A comparison reads its operands through the view of their domain. -/
theorem blames_comparison {type : ColumnType} {op : ComparisonOp} {left right : Expr}
    (leftHypothesis : Blames row left.columns (left.readBoolean row))
    (rightHypothesis : Blames row right.columns (right.readBoolean row)) :
    Blames row (Expr.binary type (.comparison op) left right).columns
      ((Expr.binary type (.comparison op) left right).readBoolean row) := by
  unfold readBoolean
  split
  · dsimp only
    split
    · exact (blames_readLong row left).operands (blames_readLong row right) fun _ _ => blames_ok _
    · exact (blames_readDouble row left).operands (blames_readDouble row right)
        fun _ _ => blames_ok _
    · exact leftHypothesis.operands rightHypothesis fun _ _ => blames_ok _
    · exact (blames_readText row left).operands (blames_readText row right) fun _ _ => blames_ok _
    · exact (blames_readCode row left).operands (blames_readCode row right) fun _ _ => blames_ok _
    · exact blames_error rfl
  · exact blames_error rfl

theorem blames_readBoolean (row : Row) (expression : Expr) :
    Blames row expression.columns (expression.readBoolean row) := by
  induction expression with
  | column type source =>
    unfold readBoolean
    split
    · refine blames_cell fun value => ?_
      cases value <;> first | exact blames_ok _ | exact blames_error rfl
    · exact blames_error rfl
  | constant type value =>
    unfold readBoolean
    split
    · cases value <;> first | exact blames_ok _ | exact blames_error rfl
    · exact blames_error rfl
  | unary type op operand inductionHypothesis =>
    unfold readBoolean
    split
    · cases op with
      | not => exact inductionHypothesis.bind fun _ => blames_ok _
      | isNull => exact blames_readNull row operand
      | isNotNull => exact (blames_readNull row operand).bind fun _ => blames_ok _
      | negate | floor => exact blames_error rfl
    · exact blames_error rfl
  | binary type op left right leftHypothesis rightHypothesis =>
    cases op with
    | comparison op => exact blames_comparison leftHypothesis rightHypothesis
    | arithmetic op =>
      unfold readBoolean
      split <;> exact blames_error rfl
    | logical op =>
      -- An operand that is skipped raises nothing.
      have leftBlames := leftHypothesis.mono (List.subset_append_left _ right.columns)
      have rightBlames := rightHypothesis.mono (List.subset_append_right left.columns _)
      unfold readBoolean
      split
      · cases op with
        | and =>
          refine leftBlames.bind fun leftWord => ?_
          cases leftWord with
          | false => exact blames_ok _
          | true => exact rightBlames
        | or =>
          refine leftBlames.bind fun leftWord => ?_
          cases leftWord with
          | false => exact rightBlames
          | true => exact blames_ok _
      · exact blames_error rfl

theorem blames_evaluate (row : Row) (expression : Expr) :
    Blames row expression.columns (expression.evaluate row) := by
  unfold evaluate
  split
  · exact (blames_readBoolean row expression).bind fun _ => blames_ok _
  · exact (blames_readInt row expression).bind fun _ => blames_ok _
  · exact (blames_readLong row expression).bind fun _ => blames_ok _
  · exact (blames_readDouble row expression).bind fun _ => blames_ok _
  · exact (blames_readDate row expression).bind fun _ => blames_ok _
  · exact (blames_readCode row expression).bind fun _ => blames_ok _
  · exact (blames_readText row expression).bind fun _ => blames_ok _

/-- No question raises a fault about a cell that the row does not have, but for the cells of the
columns. -/
theorem blames_ask (row : Row) (expression : Expr) (question : Question) :
    Blames row expression.columns (expression.ask row question) := by
  cases question with
  | through view =>
    cases view with
    | boolean => exact blames_readBoolean row expression
    | int => exact blames_readInt row expression
    | long => exact blames_readLong row expression
    | double => exact blames_readDouble row expression
    | date => exact blames_readDate row expression
    | code => exact blames_readCode row expression
    | text => exact blames_readText row expression
  | null => exact blames_readNull row expression
  | value => exact blames_evaluate row expression

/-- An expression that reads no column misses no cell, on no row. -/
theorem missesCell_of_isConstant (constant : expression.isConstant = true) (row : Row)
    {question : Question} {fault : Fault} (raised : expression.ask row question = .error fault) :
    fault.missesCell = false := by
  refine Bool.eq_false_iff.mpr fun misses => ?_
  obtain ⟨leaf, member, -⟩ := blames_ask row expression question fault raised misses
  rw [columns_of_isConstant constant] at member
  cases member

/-! ### What an answer depends on -/

/-- On two rows with the same cells at the columns of an expression every question has the same
outcome, the same answer or the same fault. An expression that reads no column gives the same
outcome on all rows, with or without cells, and it is not a fault about a missing cell. -/
theorem outcome_of_same_cells (expression : Expr) :
    (∀ row other, expression.SameCells row other →
      ∀ question, expression.ask row question = expression.ask other question) ∧
    (expression.isConstant = true → ∀ row question,
      expression.ask row question = expression.ask .empty question ∧
      ∀ fault, expression.ask row question = .error fault → fault.missesCell = false) := by
  refine ⟨fun row other same question => ask_congr same question, fun constant row question => ?_⟩
  have same := sameCells_of_isConstant constant row .empty
  exact ⟨ask_congr same question, fun fault raised => missesCell_of_isConstant constant row raised⟩

/-- A condition that is declared wrongly raises the same fault on two rows that differ in a cell it
does not name, and a constant that is declared wrongly raises the one that it raises without a
row. -/
theorem outcome_of_same_cells_misdeclared :
    ((Expr.binary .boolean (.logical .or) (.atPosition 1 .boolean) (.ofInt 3)).ask
        (.cells [.int 7, .boolean false]) .value =
      (Expr.binary .boolean (.logical .or) (.atPosition 1 .boolean) (.ofInt 3)).ask
        (.cells [.string "seven", .boolean false]) .value) ∧
    ((Expr.unary .int .negate (.ofBoolean true)).ask (.cells [.int 7]) .null =
      (Expr.unary .int .negate (.ofBoolean true)).ask .empty .null) ∧
    (Fault.unsupportedView .int .boolean "true").missesCell = false := by
  have same : (Expr.binary .boolean (.logical .or) (.atPosition 1 .boolean) (.ofInt 3)).SameCells
      (.cells [.int 7, .boolean false]) (.cells [.string "seven", .boolean false]) := by
    intro leaf member
    cases List.mem_singleton.mp member
    rfl
  obtain ⟨alike, -⟩ :=
    outcome_of_same_cells (.binary .boolean (.logical .or) (.atPosition 1 .boolean) (.ofInt 3))
  obtain ⟨-, constant⟩ := outcome_of_same_cells (.unary .int .negate (.ofBoolean true))
  obtain ⟨withoutRow, apart⟩ := constant rfl (.cells [.int 7]) .null
  exact ⟨alike _ _ same .value, withoutRow, apart _ rfl⟩

end Expr

end Columnar
