/-
This file proves that words with a reserved one for NULL compute what numbers without bounds mean.
A word stands for no number exactly if it is the reserved one, so the least word never counts as a
number. Sums, differences and products of words wrap around by the modulus of their width, and a
result that wraps onto the reserved word is no value on either side. Quotients of words that are
not NULL never wrap, for only the quotient of the least number by minus one could. The start of a
segment lies within the calendar, which lies well within the words, so it is never taken for NULL.
-/

import Columnar.Proofs.Dates
import Columnar.Proofs.Meaning

namespace Columnar

namespace Word

/-! ### What a word stands for -/

theorem long?_null : long? Null.long = none := rfl

theorem int?_of_ne {word : Int32} (known : word ≠ Null.int) : int? word = some word.toInt :=
  if_neg known

theorem long?_of_ne {word : Int64} (known : word ≠ Null.long) : long? word = some word.toInt :=
  if_neg known

theorem toInt_of_int? {word : Int32} {number : Int} (known : int? word = some number) :
    word.toInt = number := by
  unfold int? at known
  split at known
  · cases known
  · exact Option.some.inj known

theorem toInt_of_long? {word : Int64} {number : Int} (known : long? word = some number) :
    word.toInt = number := by
  unfold long? at known
  split at known
  · cases known
  · exact Option.some.inj known

theorem int?_eq_none_iff {word : Int32} : int? word = none ↔ word = Null.int := by
  unfold int?
  split <;> simp_all

theorem long?_eq_none_iff {word : Int64} : long? word = none ↔ word = Null.long := by
  unfold long?
  split <;> simp_all

theorem code?_eq_none_iff {code : Int32} : code? code = none ↔ code = Null.code := by
  unfold code?
  split <;> simp_all

/-- Words that stand for the same are the same. -/
theorem int?_inj {word other : Int32} : int? word = int? other ↔ word = other := by
  refine ⟨fun same => ?_, congrArg int?⟩
  by_cases missing : other = Null.int
  · rw [missing] at same ⊢
    exact int?_eq_none_iff.mp same
  · have known : word ≠ Null.int := by
      rintro rfl
      exact missing (int?_eq_none_iff.mp same.symm)
    rw [int?_of_ne known, int?_of_ne missing] at same
    exact Int32.toInt_inj.mp (Option.some.inj same)

theorem long?_inj {word other : Int64} : long? word = long? other ↔ word = other := by
  refine ⟨fun same => ?_, congrArg long?⟩
  by_cases missing : other = Null.long
  · rw [missing] at same ⊢
    exact long?_eq_none_iff.mp same
  · have known : word ≠ Null.long := by
      rintro rfl
      exact missing (long?_eq_none_iff.mp same.symm)
    rw [long?_of_ne known, long?_of_ne missing] at same
    exact Int64.toInt_inj.mp (Option.some.inj same)

/-- A word of 32 bits that is not NULL lies strictly above the least number. -/
theorem int_range {word : Int32} (known : word ≠ Null.int) :
    -0x80000000 < word.toInt ∧ word.toInt < 0x80000000 := by
  have lower := Int32.le_toInt word
  have upper := Int32.toInt_lt word
  have notLeast : word.toInt ≠ -0x80000000 := fun least => known (Int32.toInt_inj.mp least)
  omega

/-- A word of 64 bits that is not NULL lies strictly above the least number. -/
theorem long_range {word : Int64} (known : word ≠ Null.long) :
    -0x8000000000000000 < word.toInt ∧ word.toInt < 0x8000000000000000 := by
  have lower := Int64.le_toInt word
  have upper := Int64.toInt_lt word
  have notLeast : word.toInt ≠ -0x8000000000000000 := fun least =>
    known (Int64.toInt_inj.mp least)
  omega

/-- What a word of 32 bits stands for lies strictly within the range of its type. -/
theorem int?_range {word : Int32} {number : Int} (known : int? word = some number) :
    ColumnType.int.least < number ∧ number < -ColumnType.int.least := by
  rw [← toInt_of_int? known]
  refine int_range ?_
  rintro rfl
  cases known

/-- What a word of 64 bits stands for lies strictly within the range of its type. -/
theorem long?_range {word : Int64} {number : Int} (known : long? word = some number) :
    ColumnType.long.least < number ∧ number < -ColumnType.long.least := by
  rw [← toInt_of_long? known]
  refine long_range ?_
  rintro rfl
  cases known

/-- A word of 32 bits stands for a number unless it is the least. -/
theorem int?_eq_ite (word : Int32) :
    int? word = if word.toInt = ColumnType.int.least then none else some word.toInt := by
  unfold int?
  simp only [show word = Null.int ↔ word.toInt = ColumnType.int.least from Int32.toInt_inj.symm]

/-- A word of 64 bits stands for a number unless it is the least. -/
theorem long?_eq_ite (word : Int64) :
    long? word = if word.toInt = ColumnType.long.least then none else some word.toInt := by
  unfold long?
  simp only [show word = Null.long ↔ word.toInt = ColumnType.long.least from
    Int64.toInt_inj.symm]

/-- Whatever wraps to a word of 32 bits means what the word stands for. -/
theorem int?_eq_wrap? {word : Int32} {number : Int}
    (wraps : word.toInt = number.bmod ColumnType.int.modulus) :
    int? word = ColumnType.int.wrap? number := by
  rw [int?_eq_ite, wraps]
  rfl

/-- Whatever wraps to a word of 64 bits means what the word stands for. -/
theorem long?_eq_wrap? {word : Int64} {number : Int}
    (wraps : word.toInt = number.bmod ColumnType.long.modulus) :
    long? word = ColumnType.long.wrap? number := by
  rw [long?_eq_ite, wraps]
  rfl

/-! ### Changing a word -/

/-- Widening keeps the number. -/
theorem long?_widen (word : Int32) : long? (widen word) = int? word := by
  unfold widen
  split
  · next missing =>
    rw [missing]
    rfl
  · next known =>
    have inside : word.toInt64.toInt ≠ ColumnType.long.least := by
      have lower := Int32.le_toInt word
      rw [Int32.toInt_toInt64]
      simp only [ColumnType.least]
      omega
    rw [long?_eq_ite, if_neg inside, Int32.toInt_toInt64, int?_of_ne known]

/-- The negative of a number is never out of range, for the least one is missing. -/
theorem int?_negateInt (word : Int32) : int? (negateInt word) = (int? word).map Int.neg := by
  unfold negateInt
  split
  · next missing =>
    rw [missing]
    rfl
  · next known =>
    have range := int_range known
    have exact : (-word).toInt = -word.toInt := by
      rw [Int32.toInt_neg, Int.bmod_eq_of_le (by omega) (by omega)]
    have inside : (-word).toInt ≠ ColumnType.int.least := by
      rw [exact]
      simp only [ColumnType.least]
      omega
    rw [int?_eq_ite, if_neg inside, exact, int?_of_ne known]
    rfl

theorem long?_negateLong (word : Int64) : long? (negateLong word) = (long? word).map Int.neg := by
  unfold negateLong
  split
  · next missing =>
    rw [missing]
    rfl
  · next known =>
    have range := long_range known
    have exact : (-word).toInt = -word.toInt := by
      rw [Int64.toInt_neg, Int.bmod_eq_of_le (by omega) (by omega)]
    have inside : (-word).toInt ≠ ColumnType.long.least := by
      rw [exact]
      simp only [ColumnType.least]
      omega
    rw [long?_eq_ite, if_neg inside, exact, long?_of_ne known]
    rfl

/-! ### Arithmetic -/

/-- A quotient is no farther from zero than what it divides. -/
theorem natAbs_tdiv_lt {left right : Int} {bound : Nat} (small : left.natAbs < bound) :
    (left.tdiv right).natAbs < bound :=
  Nat.lt_of_le_of_lt (Int.natAbs_tdiv_le_natAbs left right) small

/-- Arithmetic on words of 32 bits means exact arithmetic brought back into range. -/
theorem int?_onInts (op : ArithmeticOp) {left right : Int32} (leftKnown : left ≠ Null.int) :
    int? (op.onInts left right) = op.exact? .int left.toInt right.toInt := by
  cases op with
  | add => exact int?_eq_wrap? (Int32.toInt_add left right)
  | subtract => exact int?_eq_wrap? (Int32.toInt_sub left right)
  | multiply => exact int?_eq_wrap? (Int32.toInt_mul left right)
  | divide =>
    have zero : right = 0 ↔ right.toInt = 0 := Int32.toInt_inj.symm
    simp only [ArithmeticOp.onInts, ArithmeticOp.exact?, zero]
    split
    · rfl
    · have exact := Int32.toInt_div_of_ne_left left right leftKnown
      have inside : (left.toInt.tdiv right.toInt).natAbs < 0x80000000 := by
        have range := int_range leftKnown
        exact natAbs_tdiv_lt (by omega)
      rw [int?_eq_ite, exact, if_neg]
      simp only [ColumnType.least]
      omega

/-- Arithmetic on words of 64 bits means exact arithmetic brought back into range. -/
theorem long?_onLongs (op : ArithmeticOp) {left right : Int64} (leftKnown : left ≠ Null.long) :
    long? (op.onLongs left right) = op.exact? .long left.toInt right.toInt := by
  cases op with
  | add => exact long?_eq_wrap? (Int64.toInt_add left right)
  | subtract => exact long?_eq_wrap? (Int64.toInt_sub left right)
  | multiply => exact long?_eq_wrap? (Int64.toInt_mul left right)
  | divide =>
    have zero : right = 0 ↔ right.toInt = 0 := Int64.toInt_inj.symm
    simp only [ArithmeticOp.onLongs, ArithmeticOp.exact?, zero]
    split
    · rfl
    · have exact := Int64.toInt_div_of_ne_left left right leftKnown
      have inside : (left.toInt.tdiv right.toInt).natAbs < 0x8000000000000000 := by
        have range := long_range leftKnown
        exact natAbs_tdiv_lt (by omega)
      rw [long?_eq_ite, exact, if_neg]
      simp only [ColumnType.least]
      omega

/-- Arithmetic on words of 32 bits, any of which may be NULL. -/
def combineInts (op : ArithmeticOp) (left right : Int32) : Int32 :=
  if left = Null.int ∨ right = Null.int then Null.int else op.onInts left right

/-- Arithmetic on words of 64 bits, any of which may be NULL. -/
def combineLongs (op : ArithmeticOp) (left right : Int64) : Int64 :=
  if left = Null.long ∨ right = Null.long then Null.long else op.onLongs left right

/-- A missing operand leaves no result, and others give the exact one. -/
theorem int?_combineInts (op : ArithmeticOp) (left right : Int32) :
    int? (combineInts op left right) =
      (int? left).bind fun leftNumber =>
        (int? right).bind fun rightNumber => op.exact? .int leftNumber rightNumber := by
  unfold combineInts
  by_cases leftMissing : left = Null.int
  · rw [if_pos (Or.inl leftMissing), leftMissing]
    rfl
  · rw [int?_of_ne leftMissing, Option.bind_some]
    by_cases rightMissing : right = Null.int
    · rw [if_pos (Or.inr rightMissing), rightMissing]
      rfl
    · rw [if_neg (not_or.mpr ⟨leftMissing, rightMissing⟩), int?_of_ne rightMissing,
        Option.bind_some, int?_onInts op leftMissing]

/-- A missing operand leaves no result, and others give the exact one. -/
theorem long?_combineLongs (op : ArithmeticOp) (left right : Int64) :
    long? (combineLongs op left right) =
      (long? left).bind fun leftNumber =>
        (long? right).bind fun rightNumber => op.exact? .long leftNumber rightNumber := by
  unfold combineLongs
  by_cases leftMissing : left = Null.long
  · rw [if_pos (Or.inl leftMissing), leftMissing]
    rfl
  · rw [long?_of_ne leftMissing, Option.bind_some]
    by_cases rightMissing : right = Null.long
    · rw [if_pos (Or.inr rightMissing), rightMissing]
      rfl
    · rw [if_neg (not_or.mpr ⟨leftMissing, rightMissing⟩), long?_of_ne rightMissing,
        Option.bind_some, long?_onLongs op leftMissing]

end Word

/-! ### Segments of time -/

namespace Scheme

open Calendar

/-- A segment starts in the year of the day that it holds, and not after that day. -/
theorem firstDate_bounds (scheme : Scheme) (day : Int) :
    yearStart (yearOf day) ≤ (scheme.firstDate (.ofDay day)).toDay ∧
      (scheme.firstDate (.ofDay day)).toDay ≤ day := by
  have together := CivilDate.toDay_ofDay day
  have start := yearStart_yearOf_le day
  cases scheme with
  | unsplit | day => exact ⟨by rw [firstDate, together]; exact start, Int.le_of_eq together⟩
  | month | year =>
    simp only [firstDate, CivilDate.toDay, CivilDate.ofDay, Nat.add_sub_cancel, Nat.sub_self,
      daysBefore] at together ⊢
    omega

/-- The start of a segment within the calendar is a word and not the least one. -/
theorem start_range (scheme : Scheme) {day : Int} (held : holdsDay day = true) :
    -0x8000000000000000 < (scheme.firstDate (.ofDay day)).toDay * dayMicros ∧
      (scheme.firstDate (.ofDay day)).toDay * dayMicros < 0x8000000000000000 := by
  have bounds := firstDate_bounds scheme day
  have inside : yearStart (-262143) ≤ day ∧ day < yearStart 262143 := by
    simpa [holdsDay] using held
  have first := yearStart_le_yearStart (le_yearOf inside.1)
  have lower : yearStart (-262143) = -96465292 := by decide
  have upper : yearStart 262143 = 95026237 := by decide
  unfold dayMicros
  omega

/-- Flooring a word means flooring the timestamp that it stands for. -/
theorem long?_floor (scheme : Scheme) (word : Int64) :
    Word.long? (scheme.floor word) = (Word.long? word).bind scheme.start? := by
  by_cases missing : word = Null.long
  · rw [missing, Word.long?_null]
    exact congrArg Word.long? (floor_null scheme)
  · rw [Word.long?_of_ne missing, Option.bind_some]
    by_cases unsplit : scheme = .unsplit
    · rw [unsplit, floor_unsplit, Word.long?_of_ne missing]
      rfl
    · have splits : (decide (scheme = .unsplit) || decide (word = Null.date)) = false := by
        simp [unsplit, show word ≠ Null.date from missing]
      simp only [floor, start?, splits, if_neg unsplit, Bool.false_eq_true, if_false]
      split
      · next held =>
        have range := start_range scheme held
        rw [Word.long?_eq_ite, Int64.toInt_ofInt_of_le (by omega) (by omega), if_neg]
        simp only [ColumnType.least]
        omega
      · rfl

end Scheme

end Columnar
