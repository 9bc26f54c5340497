/-
This file proves that the check is sound for the evaluator. An expression that the check accepts for
the types of a row evaluates on that row without a fault, to a value of the type that the check
answers, in which NULL is never a reserved word; whether it is NULL is answered too. The views that
answer are those that the type offers and no others. The one exception is the text of a symbol,
which is there for a column with a table and for the constant NULL alone. That a view which is not
offered raises a fault holds of every expression and every row: the faults come from the declared
type, before any cell is read.
-/

import Columnar.Proofs.Conditions

namespace Columnar

namespace Value

/-! ### Values that come from words -/

/-- Whether a value is a tagged reserved word. -/
def isReserved : Value → Bool
  | .int word => word == Null.int
  | .long word => word == Null.long
  | .double word => word.isNaN
  | .date micros => micros == Null.date
  | .symbol code => code == Null.code
  | .null | .boolean _ | .string _ => false

/-- The value fits the type, and NULL is not hidden in it. -/
def Proper (type : ColumnType) (value : Value) : Prop :=
  value.fits type = true ∧ value.isReserved = false

theorem proper_ofInt (word : Int32) : (ofInt word).Proper .int := by
  unfold ofInt
  split
  · exact ⟨rfl, rfl⟩
  · next known => exact ⟨rfl, beq_false_of_ne known⟩

theorem proper_ofLong (word : Int64) : (ofLong word).Proper .long := by
  unfold ofLong
  split
  · exact ⟨rfl, rfl⟩
  · next known => exact ⟨rfl, beq_false_of_ne known⟩

theorem proper_ofDouble (word : Float) : (ofDouble word).Proper .double := by
  unfold ofDouble
  split
  · exact ⟨rfl, rfl⟩
  · next known => exact ⟨rfl, Bool.eq_false_iff.mpr known⟩

theorem proper_ofDate (micros : Int64) : (ofDate micros).Proper .date := by
  unfold ofDate
  split
  · exact ⟨rfl, rfl⟩
  · next known => exact ⟨rfl, beq_false_of_ne known⟩

theorem proper_ofSymbol (code : Int32) : (ofSymbol code).Proper .symbol := by
  unfold ofSymbol
  split
  · exact ⟨rfl, rfl⟩
  · next known => exact ⟨rfl, beq_false_of_ne known⟩

theorem proper_ofString (text : Option String) : (ofString text).Proper .string := by
  cases text <;> exact ⟨rfl, rfl⟩

theorem number?_ofInt (word : Int32) : (ofInt word).number? = Word.int? word := by
  by_cases missing : word = Null.int
  · rw [missing]
    rfl
  · rw [ofInt, if_neg missing]
    rfl

theorem number?_ofLong (word : Int64) : (ofLong word).number? = Word.long? word := by
  by_cases missing : word = Null.long
  · rw [missing]
    rfl
  · rw [ofLong, if_neg missing]
    rfl

theorem number?_ofDate (micros : Int64) : (ofDate micros).number? = Word.long? micros := by
  by_cases missing : micros = Null.date
  · rw [missing]
    rfl
  · rw [ofDate, if_neg missing]
    rfl

end Value

namespace Expr

variable {row : Row} {expression : Expr} {view : View}

/-! ### Views that answer -/

/-- The expression can be read through the view without a fault. -/
def Answers (row : Row) (expression : Expr) : View → Prop
  | .boolean => ∃ word, expression.readBoolean row = .ok word
  | .int => ∃ word, expression.readInt row = .ok word
  | .long => ∃ word, expression.readLong row = .ok word
  | .date => ∃ micros, expression.readDate row = .ok micros
  | .double => ∃ word, expression.readDouble row = .ok word
  | .code => ∃ code, expression.readCode row = .ok code
  | .text => ∃ text, expression.readText row = .ok text

/-- The symbols that have a text: the columns with a table, and NULL. -/
def HasText (expression : Expr) : Prop :=
  (∃ source table, expression = .column .symbol source ∧ source.symbols = some table) ∨
    expression = .constant .symbol .null

/-- A view that a type does not offer answers for no expression of that type, on no row. -/
theorem offers_of_answers (answers : expression.Answers row view) :
    expression.type.offers view = true := by
  cases view with
  | boolean =>
    obtain ⟨word, read⟩ := answers
    refine ColumnType.offers_boolean_iff.mpr (Decidable.byContradiction fun other => ?_)
    unfold readBoolean at read
    rw [if_neg other] at read
    cases read
  | int =>
    obtain ⟨word, read⟩ := answers
    refine ColumnType.offers_int_iff.mpr (Decidable.byContradiction fun other => ?_)
    unfold readInt at read
    rw [if_neg other] at read
    cases read
  | long =>
    obtain ⟨word, read⟩ := answers
    refine ColumnType.offers_long_iff.mpr (Decidable.byContradiction fun other => ?_)
    obtain ⟨notInt, notLong⟩ := not_or.mp other
    unfold readLong at read
    rw [if_neg notInt, if_neg notLong] at read
    cases read
  | date =>
    obtain ⟨word, read⟩ := answers
    refine ColumnType.offers_date_iff.mpr (Decidable.byContradiction fun other => ?_)
    unfold readDate at read
    rw [if_neg other] at read
    cases read
  | double =>
    obtain ⟨word, read⟩ := answers
    refine ColumnType.offers_double_iff.mpr (Decidable.byContradiction fun other => ?_)
    obtain ⟨notDouble, notInteger⟩ := not_or.mp other
    obtain ⟨notInt, notLong⟩ := not_or.mp (mt ColumnType.offers_long_iff.mpr notInteger)
    unfold readDouble at read
    rw [if_neg notDouble, if_neg notLong, if_neg notInt] at read
    cases read
  | code =>
    obtain ⟨code, read⟩ := answers
    cases expression with
    | column type source =>
      cases type with
      | symbol => rfl
      | boolean | int | long | double | date | string => cases read
    | constant type value =>
      cases type with
      | symbol => rfl
      | boolean | int | long | double | date | string => cases read
    | unary | binary => cases read
  | text =>
    obtain ⟨text, read⟩ := answers
    unfold readText at read
    split at read
    · rfl
    · rfl
    · rfl
    · rfl
    · rfl
    · cases read

/-- A symbol that can be read as text has one. -/
theorem hasText_of_answers (answers : expression.Answers row .text)
    (isSymbol : expression.type = .symbol) : expression.HasText := by
  obtain ⟨text, read⟩ := answers
  unfold readText at read
  split at read
  · cases isSymbol
  · cases isSymbol
  · cases isSymbol
  · exact Or.inr rfl
  · next source =>
    cases bound : source.symbols with
    | some table => exact Or.inl ⟨source, table, rfl, bound⟩
    | none =>
      rw [bound] at read
      cases reached : row.readCode source.position <;> rw [reached] at read <;> cases read
  · cases read

theorem resolvesText_of_hasText (hasText : expression.HasText) :
    expression.resolvesText = true := by
  obtain ⟨source, table, rfl, bound⟩ | rfl := hasText
  · simp only [resolvesText, bound, Option.isSome_some, Bool.or_true]
  · rfl

/-- On a row that conforms to it, an expression answers through every view that its type offers,
but a symbol answers with a text only if it has one. -/
theorem answers_iff (typed : expression.WellTyped) (conforms : expression.Conforms row)
    (view : View) :
    expression.Answers row view ↔
      expression.type.offers view = true ∧
        (view = .text → expression.type = .symbol → expression.HasText) := by
  constructor
  · intro answers
    refine ⟨offers_of_answers answers, ?_⟩
    rintro rfl isSymbol
    exact hasText_of_answers answers isSymbol
  · rintro ⟨offered, hasText⟩
    cases view with
    | boolean =>
      obtain ⟨word, read, -⟩ :=
        exists_readBoolean typed conforms (ColumnType.offers_boolean_iff.mp offered)
      exact ⟨word, read⟩
    | int =>
      obtain ⟨word, read, -⟩ := exists_readInt typed conforms (ColumnType.offers_int_iff.mp offered)
      exact ⟨word, read⟩
    | long =>
      obtain ⟨word, read, -⟩ := exists_readLong typed conforms offered
      exact ⟨word, read⟩
    | date =>
      have long := ColumnType.offers_date_iff.mp offered
      obtain ⟨word, read, -⟩ :=
        exists_readLong typed conforms (ColumnType.offers_long_iff.mpr (Or.inr long))
      exact ⟨word, (readDate_of_isLongWord long).trans read⟩
    | double => exact exists_readDouble typed conforms offered
    | code =>
      obtain ⟨code, read, -⟩ :=
        exists_readCode typed conforms (ColumnType.offers_code_iff.mp offered)
      exact ⟨code, read⟩
    | text =>
      have resolves : expression.resolvesText = true := by
        rcases ColumnType.offers_text_iff.mp offered with isString | isSymbol
        · exact resolvesText_of_string isString
        · exact resolvesText_of_hasText (hasText rfl isSymbol)
      exact ⟨_, readText_eq typed conforms offered resolves⟩

/-! ### Values -/

/-- Every expression has a value on every row that conforms to it, and the value is proper. -/
theorem exists_evaluate (typed : expression.WellTyped) (conforms : expression.Conforms row) :
    ∃ value, expression.evaluate row = .ok value ∧ value.Proper expression.type := by
  cases known : expression.type with
  | boolean =>
    obtain ⟨word, read, -⟩ := exists_readBoolean typed conforms known
    exact ⟨.boolean word, evaluate_of_boolean known read, rfl, rfl⟩
  | int =>
    obtain ⟨word, read, -⟩ := exists_readInt typed conforms known
    exact ⟨.ofInt word, evaluate_of_int known read, Value.proper_ofInt word⟩
  | long =>
    obtain ⟨word, read, -⟩ := exists_readLong typed conforms (by rw [known]; rfl)
    exact ⟨.ofLong word, evaluate_of_long known read, Value.proper_ofLong word⟩
  | double =>
    obtain ⟨word, read⟩ := exists_readDouble typed conforms (by rw [known]; rfl)
    exact ⟨.ofDouble word, evaluate_of_double known read, Value.proper_ofDouble word⟩
  | date =>
    obtain ⟨micros, read, -⟩ := exists_readLong typed conforms (by rw [known]; rfl)
    exact ⟨.ofDate micros, evaluate_of_date known read, Value.proper_ofDate micros⟩
  | symbol =>
    obtain ⟨code, read, -⟩ := exists_readCode typed conforms known
    exact ⟨.ofSymbol code, evaluate_of_symbol known read, Value.proper_ofSymbol code⟩
  | string =>
    have read := readText_eq typed conforms (by rw [known]; rfl) (resolvesText_of_string known)
    exact ⟨.ofString _, evaluate_of_string known read, Value.proper_ofString _⟩

/-- The value of an integer expression or a timestamp stands for the number that it means. -/
theorem number?_of_evaluate {value : Value} (typed : expression.WellTyped)
    (conforms : expression.Conforms row) (offered : expression.type.offers .long = true)
    (evaluates : expression.evaluate row = .ok value) :
    value.number? = expression.number? row := by
  cases known : expression.type with
  | int =>
    obtain ⟨word, read, means⟩ := exists_readInt typed conforms known
    rw [evaluate_of_int known read] at evaluates
    cases evaluates
    rw [Value.number?_ofInt, means]
  | long =>
    obtain ⟨word, read, means⟩ := exists_readLong typed conforms offered
    rw [evaluate_of_long known read] at evaluates
    cases evaluates
    rw [Value.number?_ofLong, means]
  | date =>
    obtain ⟨word, read, means⟩ := exists_readLong typed conforms offered
    rw [evaluate_of_date known read] at evaluates
    cases evaluates
    rw [Value.number?_ofDate, means]
  | boolean | double | symbol | string =>
    rw [known] at offered
    cases offered

/-! ### The check against the types of a row -/

/-- Cells of the declared types make a row that conforms to an expression. -/
theorem conforms_of_declares {schema : Schema} {values : List Value}
    (declares : expression.Declares schema) (enough : schema.length ≤ values.length)
    (cells : ∀ (position : Nat) (declared : ColumnType) (value : Value),
      schema[position]? = some declared → values[position]? = some value →
        value.fits declared = true)
    (codes : ∀ leaf ∈ expression.columns, ∀ (table : SymbolTable) (code : Int32),
      leaf.2.symbols = some table → values[leaf.2.position]? = some (.symbol code) →
        table.Holds code) :
    expression.Conforms (.cells values) := by
  intro leaf member
  have declared := declares leaf member
  have inside : leaf.2.position < values.length := by
    obtain ⟨inSchema, -⟩ := List.getElem?_eq_some_iff.mp declared
    omega
  have found := List.getElem?_eq_getElem inside
  refine ⟨values[leaf.2.position], ?_, cells _ _ _ declared found, ?_⟩
  · rw [Row.cell, found]
  · intro table code bound isCode
    rw [isCode] at found
    exact codes leaf member table code bound found

theorem checkFilter_eq_ok_iff {schema : Option Schema} :
    expression.checkFilter schema = .ok () ↔ expression.check schema = .ok .boolean := by
  unfold checkFilter
  cases checked : expression.check schema with
  | error error => exact ⟨nofun, nofun⟩
  | ok type => cases type <;> first | exact ⟨fun _ => rfl, fun _ => rfl⟩ | exact ⟨nofun, nofun⟩

/-- What the check accepts for the types of a row evaluates on the row to a proper value of the
type that the check answers. It answers whether it is NULL, and it answers through exactly the views
that the type offers, except that of the symbols only those that have a text answer with one. A
filter that is accepted answers as a condition. -/
theorem check_sound {schema : Schema} {type : ColumnType} {values : List Value}
    (checked : expression.check (some schema) = .ok type)
    (enough : schema.length ≤ values.length)
    (cells : ∀ (position : Nat) (declared : ColumnType) (value : Value),
      schema[position]? = some declared → values[position]? = some value →
        value.fits declared = true)
    (codes : ∀ leaf ∈ expression.columns, ∀ (table : SymbolTable) (code : Int32),
      leaf.2.symbols = some table → values[leaf.2.position]? = some (.symbol code) →
        table.Holds code) :
    (∃ value, expression.evaluate (.cells values) = .ok value ∧
        value.fits type = true ∧ value.isReserved = false) ∧
      (∃ missing, expression.readNull (.cells values) = .ok missing) ∧
      (∀ view, expression.Answers (.cells values) view ↔
        type.offers view = true ∧ (view = .text → type = .symbol → expression.HasText)) ∧
      (expression.checkFilter (some schema) = .ok () →
        ∃ word, expression.readBoolean (.cells values) = .ok word) := by
  obtain ⟨typed, rfl, declares⟩ := check_eq_ok_iff.mp checked
  have conforms := conforms_of_declares (declares schema rfl) enough cells codes
  refine ⟨exists_evaluate typed conforms, ?_, answers_iff typed conforms, ?_⟩
  · obtain ⟨missing, read, -⟩ := exists_readNull typed conforms
    exact ⟨missing, read⟩
  · intro accepted
    rw [checkFilter_eq_ok_iff, checked] at accepted
    obtain ⟨word, read, -⟩ := exists_readBoolean typed conforms (Except.ok.inj accepted)
    exact ⟨word, read⟩

/-- A filter over an integer and over a symbol with a table answers on a row of both. -/
theorem check_sound_filter :
    ∃ word, (Expr.binary .boolean (.logical .and)
        (.binary .boolean (.comparison .less) (.atPosition 0 .int) (.ofInt 5))
        (.binary .boolean (.comparison .equal) (.bound 1 .schemes) (.ofString "DAY"))).readBoolean
      (.cells [.int 3, .symbol 1]) = .ok word := by
  have checked : (Expr.binary .boolean (.logical .and)
      (.binary .boolean (.comparison .less) (.atPosition 0 .int) (.ofInt 5))
      (.binary .boolean (.comparison .equal) (.bound 1 .schemes) (.ofString "DAY"))).check
        (some [.int, .symbol]) = .ok .boolean := rfl
  have cells (position : Nat) (declared : ColumnType) (value : Value)
      (declares : [ColumnType.int, .symbol][position]? = some declared)
      (found : [Value.int 3, .symbol 1][position]? = some value) : value.fits declared = true := by
    match position with
    | 0 | 1 =>
      cases declares
      cases found
      rfl
    | position + 2 => cases declares
  refine (check_sound checked (by decide) cells ?_).2.2.2 rfl
  intro leaf member table code bound found
  cases member with
  | head => cases bound
  | tail _ rest =>
    cases List.mem_singleton.mp rest
    cases bound
    cases found
    exact Or.inr (by decide)

end Expr

end Columnar
