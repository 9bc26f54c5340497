/-
This file proves that an evaluation whose arguments are accepted is the one that is written. A word
after an option that takes a value can be nothing but that value. A word anywhere else adds at most
itself to the operands, and if it does, it changes nothing else; so if two words are all there is
after the options and two operands are wanted, each of them is one.
-/

import Columnar.Command.Arguments

namespace Columnar.Command

namespace Reading

variable {reading next : Reading} {shape : Shape} {flag pending : Flag} {argument value : String}

/-! ### What one record changes -/

/-- While an option waits for its value, no other option is recorded. -/
theorem give_of_pending (waits : reading.pending = some pending) :
    reading.give flag value = .error .misused := by
  rw [give, waits, Option.isSome_some, if_pos rfl]

/-- While an option waits for its value, no other option comes to wait. -/
theorem await_of_pending (waits : reading.pending = some pending) :
    reading.await flag = .error .misused := by
  rw [await, waits, Option.isSome_some, if_pos rfl]

/-- While an option waits for its value, no operand is recorded. -/
theorem operand_of_pending (waits : reading.pending = some pending) :
    reading.operand shape argument = .error .misused := by
  rw [operand, waits, Option.isSome_some, if_pos rfl]

/-- What is given is kept with its option. -/
theorem eq_of_give (read : reading.give flag value = .ok next) :
    next = { reading with given := reading.given ++ [(flag, value)] } := by
  unfold give at read
  split at read
  · cases read
  · split at read
    · cases read
    · split at read <;> cases read
      rfl

theorem operands_give (read : reading.give flag value = .ok next) :
    next.operands = reading.operands := by
  rw [eq_of_give read]

theorem operands_await (read : reading.await flag = .ok next) :
    next.operands = reading.operands := by
  unfold await at read
  split at read <;> cases read
  rfl

theorem operands_shortFlags {letters : List Char}
    (read : reading.shortFlags shape letters = .ok next) : next.operands = reading.operands := by
  induction letters generalizing reading with
  | nil =>
    cases read
    rfl
  | cons letter rest inductionHypothesis =>
    unfold shortFlags at read
    split at read
    · cases read
    · next flag known =>
      split at read
      · split at read
        · exact operands_await read
        · exact operands_give read
        · exact operands_give read
      · cases given : reading.give flag "" with
        | error refusal =>
          rw [given] at read
          cases read
        | ok later =>
          rw [given] at read
          rw [inductionHypothesis read, operands_give given]

/-! ### The value of an option -/

/-- While an option waits for its value, no option is read from letters. -/
theorem shortFlags_of_pending {letter : Char} {letters : List Char}
    (waits : reading.pending = some pending) :
    reading.shortFlags shape (letter :: letters) = .error .misused := by
  unfold shortFlags
  split
  · rfl
  · split
    · split
      · exact await_of_pending waits
      · exact give_of_pending waits
      · exact give_of_pending waits
    · rw [give_of_pending waits]
      rfl

/-- The word after an option that takes a value is recorded as that value, or refused. -/
theorem give_of_word (waits : reading.pending = some pending)
    (read : reading.word shape argument = .ok next) :
    { reading with pending := none }.give pending argument = .ok next := by
  have plain : reading.plain shape argument =
      { reading with pending := none }.give pending argument := by
    rw [Reading.plain, waits]
  unfold word at read
  split at read
  · rw [operand_of_pending waits] at read
    cases read
  · split at read
    · rw [waits] at read
      cases read
    · unfold longFlag at read
      dsimp only at read
      split at read
      · rw [give_of_pending waits] at read
        split at read <;> cases read
      · rw [await_of_pending waits, give_of_pending waits] at read
        split at read <;> cases read
      · split at read
        · rwa [plain] at read
        · cases read
    · split at read
      · rwa [plain] at read
      · rw [shortFlags_of_pending waits] at read
        cases read
    · rwa [plain] at read

/-! ### Operands -/

/-- A word that is an operand changes nothing but the operands. -/
def TakesOperand (reading next : Reading) (argument : String) : Prop :=
  reading.pending = none ∧ next = { reading with operands := reading.operands ++ [argument] }

theorem takesOperand_of_operand (read : reading.operand shape argument = .ok next) :
    reading.TakesOperand next argument := by
  unfold operand at read
  split at read
  · cases read
  · next free =>
    split at read <;> cases read
    exact ⟨Option.not_isSome_iff_eq_none.mp free, rfl⟩

theorem operands_plain (read : reading.plain shape argument = .ok next) :
    next.operands = reading.operands ∨ reading.TakesOperand next argument := by
  unfold plain at read
  split at read
  · have same := operands_give read
    exact Or.inl same
  · exact Or.inr (takesOperand_of_operand read)

/-- A word leaves the operands as they are, unless it is one. -/
theorem operands_word (read : reading.word shape argument = .ok next) :
    next.operands = reading.operands ∨ reading.TakesOperand next argument := by
  unfold word at read
  split at read
  · exact Or.inr (takesOperand_of_operand read)
  · split at read
    · split at read <;> cases read
      exact Or.inl rfl
    · unfold longFlag at read
      dsimp only at read
      split at read
      · split at read
        · exact Or.inl (operands_give read)
        · cases read
      · split at read
        · exact Or.inl (operands_await read)
        · exact Or.inl (operands_give read)
      · split at read
        · exact operands_plain read
        · cases read
    · split at read
      · exact operands_plain read
      · exact Or.inl (operands_shortFlags read)
    · exact operands_plain read

/-- If two words complete two operands, they are the operands and change nothing else. -/
theorem operands_of_two_words {first second : Reading} {left right : String}
    (noOperands : reading.operands = []) (leftRead : reading.word shape left = .ok first)
    (rightRead : first.word shape right = .ok second) (complete : 2 ≤ second.operands.length) :
    second = { reading with operands := [left, right] } := by
  rcases operands_word leftRead with leftSame | ⟨-, rfl⟩
  · rcases operands_word rightRead with rightSame | ⟨-, rfl⟩
    · rw [rightSame, leftSame, noOperands] at complete
      cases complete
    · rw [leftSame, noOperands] at complete
      exact absurd (show 2 ≤ 1 from complete) (by decide)
  · rcases operands_word rightRead with rightSame | ⟨-, rfl⟩
    · rw [rightSame, noOperands] at complete
      exact absurd (show 2 ≤ 1 from complete) (by decide)
    · rw [noOperands]
      rfl

/-- A run of two steps succeeds where the first one does, and then the second one on its result. -/
theorem bind_eq_ok_iff {Error First Second : Type} {first : Except Error First}
    {second : First → Except Error Second} {result : Second} :
    (first >>= second) = .ok result ↔
      ∃ between, first = .ok between ∧ second between = .ok result := by
  cases first with
  | error error => exact ⟨nofun, fun ⟨_, impossible, _⟩ => nomatch impossible⟩
  | ok between =>
    refine ⟨fun run => ⟨between, rfl, run⟩, ?_⟩
    rintro ⟨_, ⟨⟩, run⟩
    exact run

/-- Words that are accepted are read one after the other, and complete the operands. -/
theorem foldlM_word_of_words {arguments : List String} (read : words shape arguments = .ok next) :
    arguments.foldlM (fun reading word => reading.word shape word) start = .ok next ∧
      shape.operands ≤ next.operands.length := by
  obtain ⟨reading, folds, accepts⟩ := bind_eq_ok_iff.mp read
  split at accepts
  · cases accepts
  · next complete =>
    cases accepts
    rw [Bool.or_eq_true, not_or, decide_eq_true_iff, Nat.not_lt] at complete
    exact ⟨folds, complete.2⟩

end Reading

/-! ### Evaluations -/

open Reading

/-- The arguments of an evaluation with its operation and its type. -/
def evaluationArguments (op type left right : String) : List String :=
  ["eval", "-o", op, "-t", type, left, right]

theorem ofArguments_eval (words : List String) :
    ofArguments ("eval" :: words) = ofWords "eval" words := by
  have noOption : "eval".startsWith "-" = false := by simp
  unfold ofArguments ofArgumentsFrom
  rw [noOption]
  rfl

/-- The words of an evaluation, once they are read, hold its operation, its type and its
operands. -/
theorem eq_of_evaluationWords {op type left right : String} {reading : Reading}
    (read : Reading.words .evaluate ["-o", op, "-t", type, left, right] = .ok reading) :
    reading = ⟨[(.op, op), (.type, type)], [left, right], none, false⟩ := by
  obtain ⟨folds, complete⟩ := foldlM_word_of_words read
  simp only [List.foldlM_cons, List.foldlM_nil] at folds
  obtain ⟨opAwaited, opFlag, folds⟩ := bind_eq_ok_iff.mp folds
  obtain ⟨opGiven, opRead, folds⟩ := bind_eq_ok_iff.mp folds
  obtain ⟨typeAwaited, typeFlag, folds⟩ := bind_eq_ok_iff.mp folds
  obtain ⟨typeGiven, typeRead, folds⟩ := bind_eq_ok_iff.mp folds
  obtain ⟨leftRead, leftWord, folds⟩ := bind_eq_ok_iff.mp folds
  obtain ⟨rightRead, rightWord, folds⟩ := bind_eq_ok_iff.mp folds
  cases folds
  obtain rfl : opAwaited = ⟨[], [], some .op, false⟩ := (Except.ok.inj opFlag).symm
  obtain rfl : opGiven = ⟨[(.op, op)], [], none, false⟩ := eq_of_give (give_of_word rfl opRead)
  obtain rfl : typeAwaited = ⟨[(.op, op)], [], some .type, false⟩ :=
    (Except.ok.inj typeFlag).symm
  obtain rfl : typeGiven = ⟨[(.op, op), (.type, type)], [], none, false⟩ :=
    eq_of_give (give_of_word rfl typeRead)
  exact operands_of_two_words rfl leftWord rightWord complete

/-- What is accepted as an evaluation is the one that is written. -/
theorem eq_evaluate_of_accepted {op type left right : String} {command : Command}
    (accepted : ofArguments (evaluationArguments op type left right) = .ok command) :
    command = .evaluate op type left right := by
  rw [evaluationArguments, ofArguments_eval] at accepted
  obtain ⟨reading, read, answers⟩ := bind_eq_ok_iff.mp accepted
  rw [eq_of_evaluationWords read] at answers
  exact (Except.ok.inj answers).symm

end Columnar.Command
