/-
This file follows bindings through a session: columns are bound to lists of texts and symbol columns
are taken, in any order. A list that makes no dictionary changes nothing, and neither does a binding
at another position or the taking of a column. So a position keeps its table from one successful
binding to the next, and what a column there reads as is decided by the last one before it is taken.
The column holds its table itself: what is bound later reaches the columns that are taken later, and
no other. The column of the schemes asks no binding at all.
-/

import Columnar.Bindings
import Columnar.Expr.Evaluation
import Columnar.Proofs.SymbolTables

namespace Columnar

/-! ### Lists that make a dictionary -/

namespace Dictionary

variable {texts : List String}

/-- No text of the list occurs twice, and there is a code for each. -/
def CanHold (texts : List String) : Prop :=
  texts.Nodup ∧ texts.length < maxSize

theorem ofList_of_canHold (canHold : CanHold texts) :
    ∃ entries, ofList texts = .ok entries ∧ entries.texts = texts := by
  obtain ⟨entries, built⟩ := (exists_ofList_iff canHold.2).mpr canHold.1
  exact ⟨entries, built, texts_of_ofList built⟩

theorem ofList_of_not_canHold (fails : ¬ CanHold texts) : ∃ error, ofList texts = .error error := by
  by_cases small : texts.length < maxSize
  · have repeated : ¬ texts.Nodup := fun distinct => fails ⟨distinct, small⟩
    obtain ⟨index, text, reported, -⟩ := ofList_of_repeat small repeated
    exact ⟨_, reported⟩
  · exact ⟨_, dif_neg small⟩

theorem exists_ofList_iff_canHold : (∃ entries, ofList texts = .ok entries) ↔ CanHold texts := by
  constructor
  · rintro ⟨entries, built⟩
    refine Classical.not_not.mp fun fails => ?_
    obtain ⟨error, reported⟩ := ofList_of_not_canHold fails
    cases built.symm.trans reported
  · intro canHold
    obtain ⟨entries, built, -⟩ := ofList_of_canHold canHold
    exact ⟨entries, built⟩

end Dictionary

/-! ### What a symbol column reads as -/

/-- Wherever the cell at the position is NULL or a symbol, the column reads as the text whose place
in the list is the code. NULL has no text, and any other code is a fault. -/
structure Expr.ResolvesThrough (column : Expr) (position : Nat) (texts : List String) : Prop where
  null (row : Row) : row.cell position = .ok .null → column.readText row = .ok none
  nullCode (row : Row) : row.cell position = .ok (.symbol (-1)) → column.readText row = .ok none
  text (row : Row) (code : Int32) (index : Nat) (text : String) :
    row.cell position = .ok (.symbol code) → code.toInt = index → texts[index]? = some text →
      column.readText row = .ok (some text)
  fault (row : Row) (code : Int32) : row.cell position = .ok (.symbol code) → code ≠ -1 →
    ¬ (0 ≤ code.toInt ∧ code.toInt < texts.length) →
      column.readText row = .error (.unknownCode code texts.length)

namespace Expr

variable {row : Row} {position : Nat} {code : Int32}

theorem readText_bound_of_null (table : SymbolTable) (held : row.cell position = .ok .null) :
    (Expr.bound position table).readText row = .ok none := by
  rw [bound, readText, Row.readCode, held]
  rfl

/-- A column with a table hands the code of its cell to the table. -/
theorem readText_bound_of_symbol (table : SymbolTable)
    (held : row.cell position = .ok (.symbol code)) :
    (Expr.bound position table).readText row = table.text code := by
  rw [bound, readText, Row.readCode, held]
  rfl

theorem resolvesThrough_bound (position : Nat) (table : SymbolTable) :
    (Expr.bound position table).ResolvesThrough position table.texts := by
  constructor
  · intro row held
    exact readText_bound_of_null table held
  · intro row held
    exact readText_bound_of_symbol table held
  · intro row code index text held place found
    rw [readText_bound_of_symbol table held, SymbolTable.text_of_toInt place found]
  · intro row code held notNull outside
    rw [readText_bound_of_symbol table held, SymbolTable.text_of_outside notNull outside]
    rfl

end Expr

namespace Bindings

/-! ### Sessions -/

/-- What is asked of bindings. -/
inductive Request
  /-- Bind the column at a position to the dictionary of a list of texts. -/
  | bind (position : Nat) (texts : List String)
  /-- Take the symbol column at a position. -/
  | take (position : Nat)

/-- Bindings, with the answers that were given when columns were taken, the first one first. -/
structure Session where
  bindings : Bindings
  taken : List (Except TypingError Expr)

namespace Session

/-- No column is bound, and none has been taken. -/
def start : Session :=
  ⟨.empty, []⟩

/-- The session after a request. A list that makes no dictionary leaves it as it was. -/
def serve (session : Session) : Request → Session
  | .bind position texts =>
    match Dictionary.ofList texts with
    | .ok entries =>
      { session with bindings := session.bindings.bind position (.dictionary entries) }
    | .error _ => session
  | .take position =>
    { session with taken := session.taken ++ [session.bindings.symbolColumn position] }

/-- The session after requests, of which the first one comes first. -/
def run (session : Session) (requests : List Request) : Session :=
  requests.foldl serve session

end Session

variable {session : Session} {request : Request} {requests : List Request}
  {position : Nat} {texts : List String}

/-- The request binds the column at the position. -/
def Request.Binds (position : Nat) : Request → Prop
  | .bind other texts => other = position ∧ Dictionary.CanHold texts
  | .take _ => False

/-- None of the requests binds the column at the position. -/
def NeverBound (requests : List Request) (position : Nat) : Prop :=
  ∀ request ∈ requests, ¬ request.Binds position

/-- The last of the requests to bind the column at the position binds it to the texts. -/
def LastBound (requests : List Request) (position : Nat) (texts : List String) : Prop :=
  ∃ earlier later, requests = earlier ++ .bind position texts :: later ∧
    Dictionary.CanHold texts ∧ NeverBound later position

/-- If any request binds a column, there is a last one. -/
theorem exists_lastBound (bound : ¬ NeverBound requests position) :
    ∃ texts, LastBound requests position texts := by
  induction requests with
  | nil => exact absurd (List.forall_mem_nil _) bound
  | cons request rest inductionHypothesis =>
    by_cases never : NeverBound rest position
    · have binds : request.Binds position :=
        Classical.not_not.mp fun idle => bound (List.forall_mem_cons.mpr ⟨idle, never⟩)
      cases request with
      | bind other texts =>
        obtain ⟨rfl, canHold⟩ := binds
        exact ⟨texts, [], rest, rfl, canHold, never⟩
      | take other => cases binds
    · obtain ⟨texts, earlier, later, rfl, canHold, neverLater⟩ := inductionHypothesis never
      exact ⟨texts, request :: earlier, later, rfl, canHold, neverLater⟩

/-! ### What a request does -/

namespace Session

theorem serve_of_built {entries : Dictionary} (built : Dictionary.ofList texts = .ok entries) :
    session.serve (.bind position texts) =
      { session with bindings := session.bindings.bind position (.dictionary entries) } := by
  simp only [serve, built]

theorem serve_of_not_canHold (fails : ¬ Dictionary.CanHold texts) :
    session.serve (.bind position texts) = session := by
  obtain ⟨error, reported⟩ := Dictionary.ofList_of_not_canHold fails
  simp only [serve, reported]

theorem run_append (session : Session) (earlier later : List Request) :
    session.run (earlier ++ later) = (session.run earlier).run later :=
  List.foldl_append

/-- A request that does not bind the column at a position leaves its table there. -/
theorem table?_serve (idle : ¬ request.Binds position) :
    (session.serve request).bindings.table? position = session.bindings.table? position := by
  cases request with
  | bind other texts =>
    by_cases canHold : Dictionary.CanHold texts
    · obtain ⟨entries, built, -⟩ := Dictionary.ofList_of_canHold canHold
      have differs : position ≠ other := fun same => idle ⟨same.symm, canHold⟩
      rw [serve_of_built built]
      exact table?_bind_other session.bindings _ differs
    · rw [serve_of_not_canHold canHold]
  | take other => rfl

/-- What has been answered stays as it was. -/
theorem taken_serve (session : Session) (request : Request) :
    session.taken <+: (session.serve request).taken := by
  cases request with
  | bind position texts =>
    have unchanged : (session.serve (.bind position texts)).taken = session.taken := by
      by_cases canHold : Dictionary.CanHold texts
      · obtain ⟨entries, built, -⟩ := Dictionary.ofList_of_canHold canHold
        rw [serve_of_built built]
      · rw [serve_of_not_canHold canHold]
    exact unchanged.symm ▸ List.prefix_rfl
  | take position => exact List.prefix_append _ _

/-! ### What a run of requests does -/

theorem table?_run (never : NeverBound requests position) :
    (session.run requests).bindings.table? position = session.bindings.table? position := by
  induction requests generalizing session with
  | nil => rfl
  | cons request rest inductionHypothesis =>
    obtain ⟨idle, neverRest⟩ := List.forall_mem_cons.mp never
    exact (inductionHypothesis neverRest).trans (table?_serve idle)

theorem taken_run (session : Session) (requests : List Request) :
    session.taken <+: (session.run requests).taken := by
  induction requests generalizing session with
  | nil => exact List.prefix_rfl
  | cons request rest inductionHypothesis =>
    exact (taken_serve session request).trans (inductionHypothesis (session.serve request))

/-- The last binding of a position gives it the table that it has afterwards. -/
theorem exists_table?_of_lastBound (session : Session)
    (last : LastBound requests position texts) :
    ∃ entries : Dictionary, entries.texts = texts ∧
      (session.run requests).bindings.table? position = some (.dictionary entries) := by
  obtain ⟨earlier, later, rfl, canHold, never⟩ := last
  obtain ⟨entries, built, same⟩ := Dictionary.ofList_of_canHold canHold
  refine ⟨entries, same, ?_⟩
  calc (session.run (earlier ++ .bind position texts :: later)).bindings.table? position
      = (((session.run earlier).serve (.bind position texts)).run later).bindings.table?
          position := by rw [run_append]; rfl
    _ = ((session.run earlier).serve (.bind position texts)).bindings.table? position :=
        table?_run never
    _ = some (.dictionary entries) := by rw [serve_of_built built]; exact table?_bind_self _ _ _

/-- A column that is taken after requests reads as the last list that they bind it to. -/
theorem exists_column_of_lastBound (session : Session)
    (last : LastBound requests position texts) :
    ∃ column, (session.run requests).bindings.symbolColumn position = .ok column ∧
      column.ResolvesThrough position texts := by
  obtain ⟨entries, rfl, known⟩ := exists_table?_of_lastBound session last
  exact ⟨.bound position (.dictionary entries), by simp only [symbolColumn, known],
    Expr.resolvesThrough_bound position (.dictionary entries)⟩

/-- A column is missing if and only if it was never bound. -/
theorem symbolColumn_eq_error_iff :
    (start.run requests).bindings.symbolColumn position = .error (.missingTable position) ↔
      NeverBound requests position := by
  constructor
  · intro missing
    refine Classical.not_not.mp fun bound => ?_
    obtain ⟨texts, last⟩ := exists_lastBound bound
    obtain ⟨column, answers, -⟩ := exists_column_of_lastBound start last
    cases answers.symm.trans missing
  · intro never
    have unbound : (start.run requests).bindings.table? position = none := table?_run never
    simp only [symbolColumn, unbound]

/-- The answer to the taking of a column stays where it was given. -/
theorem getElem?_taken_run (session : Session) (earlier later : List Request) (position : Nat) :
    (session.run (earlier ++ .take position :: later)).taken[(session.run earlier).taken.length]? =
      some ((session.run earlier).bindings.symbolColumn position) := by
  obtain ⟨rest, grown⟩ := taken_run ((session.run earlier).serve (.take position)) later
  have answers : (session.run (earlier ++ .take position :: later)).taken =
      (session.run earlier).taken ++
        (session.run earlier).bindings.symbolColumn position :: rest := by
    rw [run_append]
    exact grown.symm.trans (List.append_assoc _ _ _)
  rw [answers, List.getElem?_append_right (Nat.le_refl _), Nat.sub_self]
  rfl

end Session

/-- Serve requests to bind columns and to take columns, in any order, from when no column is bound.
Afterwards the column at a position is missing if and only if no request has bound it, that is, if
no list of texts for it made a dictionary. Otherwise there is a last list that it was bound to, and
the column reads as the text of this list that stands at the code in the cell, NULL as no text and
any other code as a fault. A column that was taken on the way still reads as the list that was the
last one at that time. The lists that make a dictionary are those for which one is built; a list
with a repeated text is none of them, and it changes nothing. The column of the schemes reads as
their names whatever is bound. -/
theorem columns_resolve_through_last_list (requests : List Request) (position : Nat) :
    ((Session.start.run requests).bindings.symbolColumn position =
        .error (.missingTable position) ↔ NeverBound requests position) ∧
      (¬ NeverBound requests position → ∃ texts, LastBound requests position texts) ∧
      (∀ texts, LastBound requests position texts → ∃ column,
        (Session.start.run requests).bindings.symbolColumn position = .ok column ∧
          column.ResolvesThrough position texts) ∧
      (∀ earlier later texts, requests = earlier ++ .take position :: later →
        LastBound earlier position texts → ∃ column,
          (Session.start.run requests).taken[(Session.start.run earlier).taken.length]? =
              some (.ok column) ∧
            column.ResolvesThrough position texts) ∧
      (∀ texts, (∃ entries, Dictionary.ofList texts = .ok entries) ↔ Dictionary.CanHold texts) ∧
      (∀ texts, ¬ texts.Nodup → (∃ error, Dictionary.ofList texts = .error error) ∧
        Session.start.run (requests ++ [.bind position texts]) = Session.start.run requests) ∧
      (schemeColumn position).ResolvesThrough position ["NONE", "DAY", "MONTH", "YEAR"] := by
  refine ⟨Session.symbolColumn_eq_error_iff, exists_lastBound,
    fun texts => Session.exists_column_of_lastBound Session.start, ?_,
    fun texts => Dictionary.exists_ofList_iff_canHold, ?_,
    Expr.resolvesThrough_bound position .schemes⟩
  · rintro earlier later texts rfl last
    obtain ⟨column, answers, resolves⟩ := Session.exists_column_of_lastBound Session.start last
    refine ⟨column, ?_, resolves⟩
    rw [Session.getElem?_taken_run, answers]
  · intro texts repeated
    have fails : ¬ Dictionary.CanHold texts := fun canHold => repeated canHold.1
    refine ⟨Dictionary.ofList_of_not_canHold fails, ?_⟩
    rw [Session.run_append]
    exact Session.serve_of_not_canHold fails

/-- A column is taken, a list with a repeat fails, and another list is bound in its place. The
column that was taken knows the first list, and one that is taken now knows the last. -/
theorem columns_resolve_through_last_list_rebound :
    ∃ early late, (Session.start.run [.bind 0 ["buy", "sell"], .take 0, .bind 0 ["up", "up"],
          .bind 0 ["bid", "ask", "mid"], .bind 1 ["lot"]]).taken[0]? = some (.ok early) ∧
      (Session.start.run [.bind 0 ["buy", "sell"], .take 0, .bind 0 ["up", "up"],
          .bind 0 ["bid", "ask", "mid"], .bind 1 ["lot"]]).bindings.symbolColumn 0 = .ok late ∧
      early.readText (.cells [.symbol 1]) = .ok (some "sell") ∧
      early.readText (.cells [.symbol 2]) = .error (.unknownCode 2 2) ∧
      late.readText (.cells [.symbol 1]) = .ok (some "ask") ∧
      late.readText (.cells [.symbol 2]) = .ok (some "mid") := by
  obtain ⟨-, -, latest, kept, -⟩ := columns_resolve_through_last_list
    [.bind 0 ["buy", "sell"], .take 0, .bind 0 ["up", "up"], .bind 0 ["bid", "ask", "mid"],
      .bind 1 ["lot"]] 0
  have first : LastBound [.bind 0 ["buy", "sell"]] 0 ["buy", "sell"] :=
    ⟨[], [], rfl, ⟨by decide, by decide⟩, List.forall_mem_nil _⟩
  have last : LastBound [.bind 0 ["buy", "sell"], .take 0, .bind 0 ["up", "up"],
      .bind 0 ["bid", "ask", "mid"], .bind 1 ["lot"]] 0 ["bid", "ask", "mid"] :=
    ⟨[.bind 0 ["buy", "sell"], .take 0, .bind 0 ["up", "up"]], [.bind 1 ["lot"]], rfl,
      ⟨by decide, by decide⟩, List.forall_mem_singleton.mpr fun binds => absurd binds.1 (by decide)⟩
  obtain ⟨early, taken, resolvesEarly⟩ := kept [.bind 0 ["buy", "sell"]] _ _ rfl first
  obtain ⟨late, answers, resolvesLate⟩ := latest _ last
  exact ⟨early, late, taken, answers, resolvesEarly.text _ 1 1 _ rfl rfl rfl,
    resolvesEarly.fault _ 2 rfl (by decide) (by decide), resolvesLate.text _ 1 1 _ rfl rfl rfl,
    resolvesLate.text _ 2 2 _ rfl rfl rfl⟩

end Bindings

end Columnar
