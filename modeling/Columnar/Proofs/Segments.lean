/-
This file proves that the segments of a scheme follow each other without a gap, and that flooring
gives the start of the one that holds a timestamp. A segment is told by what its dates share: the
year, the year and the month, or the whole date. It starts at midnight on its first date and ends
before midnight on the first date of the next one. What flooring does outside the calendar, and
under the scheme without segments, is said as well.
-/

import Columnar.Proofs.Words

namespace Columnar

namespace Calendar

/-- The calendar has the days of the years from -262143 to 262142. -/
theorem holdsDay_iff_year {day : Int} :
    holdsDay day = true ↔ -262143 ≤ yearOf day ∧ yearOf day ≤ 262142 := by
  have start := yearStart_yearOf_le day
  have stop := lt_yearStart_yearOf_succ day
  simp only [holdsDay, Bool.and_eq_true, decide_eq_true_iff]
  constructor
  · rintro ⟨lower, upper⟩
    refine ⟨le_yearOf lower, Int.not_lt.mp fun later => ?_⟩
    have starts := yearStart_le_yearStart (show 262143 ≤ yearOf day by omega)
    omega
  · rintro ⟨lower, upper⟩
    have first := yearStart_le_yearStart lower
    have last := yearStart_le_yearStart (show yearOf day + 1 ≤ 262143 by omega)
    omega

/-- The timestamp lies in the calendar: from the first microsecond of the year -262143 to the last
one of the year 262142. -/
def Holds (micros : Int64) : Prop :=
  -8334601228800000000 ≤ micros.toInt ∧ micros.toInt ≤ 8210266876799999999

/-- The calendar has the days of the timestamps that lie in it, and no others. -/
theorem holdsDay_iff {micros : Int64} :
    holdsDay (micros.toInt / Scheme.dayMicros) = true ↔ Holds micros := by
  have lower : yearStart (-262143) = -96465292 := by decide
  have upper : yearStart 262143 = 95026237 := by decide
  simp only [holdsDay, Holds, Scheme.dayMicros, lower, upper, Bool.and_eq_true, decide_eq_true_iff]
  omega

end Calendar

namespace CivilDate

/-- The date starts at a timestamp: at midnight, in microseconds since the start of 1970. -/
def StartsAt (date : CivilDate) (micros : Int) : Prop :=
  ∃ day, date.FallsOn day ∧ micros = day * Scheme.dayMicros

/-- The date of a timestamp. -/
def ofMicros (micros : Int64) : CivilDate :=
  ofDay (micros.toInt / Scheme.dayMicros)

theorem startsAt_toDay {date : CivilDate} (valid : date.Valid) :
    date.StartsAt (date.toDay * Scheme.dayMicros) :=
  ⟨date.toDay, fallsOn_toDay valid, rfl⟩

end CivilDate

namespace Scheme

open Calendar CivilDate

variable {scheme : Scheme} {date other : CivilDate}

/-! ### Segments of dates -/

/-- The first date of the next segment. -/
def nextDate : Scheme → CivilDate → CivilDate
  | .unsplit, date => date.next
  | .day, date => date.next
  | .month, date => date.nextMonth
  | .year, date => ⟨date.year + 1, 1, 1⟩

/-- What the dates of one segment share. -/
def Shares : Scheme → CivilDate → CivilDate → Prop
  | .unsplit, _, _ => True
  | .day, date, other =>
    date.year = other.year ∧ date.month = other.month ∧ date.day = other.day
  | .month, date, other => date.year = other.year ∧ date.month = other.month
  | .year, date, other => date.year = other.year

theorem valid_firstDate (scheme : Scheme) (valid : date.Valid) : (scheme.firstDate date).Valid := by
  cases scheme with
  | unsplit | day => exact valid
  | month => exact valid_first valid.month_pos valid.month_le
  | year => exact valid_first (Nat.le_refl 1) (by decide)

theorem valid_nextDate (scheme : Scheme) (valid : date.Valid) : (scheme.nextDate date).Valid := by
  cases scheme with
  | unsplit | day => exact valid_next valid
  | month => exact valid_nextMonth date
  | year => exact valid_first (Nat.le_refl 1) (by decide)

/-- The segments split by a scheme share their first date if and only if they are the same. -/
theorem firstDate_eq_iff (splits : scheme ≠ .unsplit) :
    scheme.firstDate date = scheme.firstDate other ↔ scheme.Shares date other := by
  obtain ⟨year, month, day⟩ := date
  obtain ⟨otherYear, otherMonth, otherDay⟩ := other
  cases scheme with
  | unsplit => exact absurd rfl splits
  | day | month | year => simp [firstDate, Shares]

/-- No date comes before the first one of its segment. -/
theorem not_before_firstDate (scheme : Scheme) (valid : date.Valid) :
    ¬ date.Before (scheme.firstDate date) := by
  have month := valid.month_pos
  have day := valid.day_pos
  cases scheme <;> simp only [firstDate, Before] <;> omega

/-- Every date comes before the first one of the next segment. -/
theorem before_nextDate (scheme : Scheme) (date : CivilDate) :
    date.Before (scheme.nextDate date) := by
  cases scheme with
  | unsplit | day => exact before_next date
  | month => exact before_nextMonth date
  | year => exact Or.inl (Int.lt_succ date.year)

/-- A date that is not before the first one of a segment, but before the first one of the next
segment, lies in the segment. -/
theorem firstDate_eq_of_between (scheme : Scheme) (valid : date.Valid) (otherValid : other.Valid)
    (reached : ¬ date.Before (scheme.firstDate other))
    (within : date.Before (scheme.nextDate other)) :
    scheme.firstDate date = scheme.firstDate other := by
  have month := valid.month_pos
  have lastMonth := valid.month_le
  have day := valid.day_pos
  cases scheme with
  | unsplit | day =>
    -- Between a date and the next one there is no other, whatever months they lie in.
    replace reached : ¬ date.Before other := reached
    replace within : date.Before other.next := within
    rw [← toDay_lt_iff valid otherValid] at reached
    rw [← toDay_lt_iff valid (valid_next otherValid), toDay_next otherValid] at within
    have same : date.toDay = other.toDay := by omega
    exact eq_of_toDay_eq valid otherValid same
  | month =>
    simp only [firstDate, nextDate, nextMonth, Before] at reached within
    have sameMonth : date.year = other.year ∧ date.month = other.month := by
      split at within <;> dsimp only at within <;> omega
    simp only [firstDate, sameMonth]
  | year =>
    simp only [firstDate, nextDate, Before] at reached within
    have sameYear : date.year = other.year := by omega
    simp only [firstDate, sameYear]

/-- Of the first dates of segments, none after that of a date's own segment is as early as the
date. -/
theorem toDay_le_firstDate {start : CivilDate} (valid : date.Valid) (startValid : start.Valid)
    (first : scheme.firstDate start = start) (early : start.toDay ≤ date.toDay) :
    start.toDay ≤ (scheme.firstDate date).toDay := by
  refine Int.not_lt.mp fun later => ?_
  have firstValid := valid_firstDate scheme valid
  have nextValid := valid_nextDate scheme valid
  have reached : ¬ start.Before (scheme.firstDate date) := by
    rw [← toDay_lt_iff startValid firstValid]
    omega
  have within : start.Before (scheme.nextDate date) := by
    have next := toDay_lt_of_before valid (before_nextDate scheme date)
    rw [← toDay_lt_iff startValid nextValid]
    omega
  have same := firstDate_eq_of_between scheme startValid valid reached within
  rw [← same, first] at later
  exact absurd later (Int.lt_irrefl _)

/-! ### Flooring -/

section Flooring

variable {micros other : Int64} (splits : scheme ≠ .unsplit)

include splits

/-- In the calendar the floor of a timestamp is the midnight of the first date of its segment. -/
theorem toInt_floor (held : Holds micros) :
    (scheme.floor micros).toInt = (scheme.firstDate (.ofMicros micros)).toDay * dayMicros := by
  have known : micros ≠ Null.long := by
    rintro rfl
    exact absurd held.1 (by decide)
  refine Word.toInt_of_long? ?_
  rw [long?_floor, Word.long?_of_ne known, Option.bind_some, start?, if_neg splits]
  exact if_pos (holdsDay_iff.mpr held)

/-- Outside the calendar there is no floor. -/
theorem floor_of_not_holds (outside : ¬ Holds micros) : scheme.floor micros = Null.date := by
  by_cases missing : micros = Null.date
  · rw [missing, floor_null]
  · refine Word.long?_eq_none_iff.mp ?_
    rw [long?_floor, Word.long?_of_ne missing, Option.bind_some, start?, if_neg splits]
    exact if_neg (mt holdsDay_iff.mp outside)

/-- Two timestamps of the calendar have the same floor if and only if their dates lie in the same
segment. -/
theorem floor_eq_floor_iff (held : Holds micros) (otherHeld : Holds other) :
    scheme.floor micros = scheme.floor other ↔
      scheme.Shares (.ofMicros micros) (.ofMicros other) := by
  have valid := valid_firstDate scheme (valid_ofDay (micros.toInt / dayMicros))
  have otherValid := valid_firstDate scheme (valid_ofDay (other.toInt / dayMicros))
  rw [← Int64.toInt_inj, toInt_floor splits held, toInt_floor splits otherHeld,
    ← firstDate_eq_iff splits]
  constructor
  · intro same
    exact eq_of_toDay_eq valid otherValid (Int.eq_of_mul_eq_mul_right (by decide) same)
  · intro same
    rw [same]

end Flooring

/-- A timestamp lies on its date. -/
theorem micros_bounds (micros : Int64) :
    (CivilDate.ofMicros micros).toDay * dayMicros ≤ micros.toInt ∧
      micros.toInt < ((CivilDate.ofMicros micros).toDay + 1) * dayMicros := by
  rw [ofMicros, toDay_ofDay, dayMicros]
  omega

/-- The floor of a timestamp is the greatest start of a segment that is not after it: the timestamp
comes before the start of the next segment, and timestamps with the same floor are those of one
segment. Outside the calendar there is no floor, and without segments timestamps stay as they
are. -/
theorem floor_greatest_start (scheme : Scheme) (micros : Int64) :
    (scheme = .unsplit → scheme.floor micros = micros) ∧
    (scheme ≠ .unsplit → ¬ Holds micros → scheme.floor micros = Int64.minValue) ∧
    (scheme ≠ .unsplit → Holds micros →
      ∃ date following, date.FallsOn (micros.toInt / dayMicros) ∧
        -262143 ≤ date.year ∧ date.year ≤ 262142 ∧
        (scheme.firstDate date).StartsAt (scheme.floor micros).toInt ∧
        (scheme.nextDate date).StartsAt following ∧
        (scheme.floor micros).toInt ≤ micros.toInt ∧ micros.toInt < following ∧
        (∀ start begin, scheme.firstDate start = start → start.StartsAt begin →
          begin ≤ micros.toInt → begin ≤ (scheme.floor micros).toInt) ∧
        ∀ other otherDate, Holds other → otherDate.FallsOn (other.toInt / dayMicros) →
          (scheme.floor micros = scheme.floor other ↔ scheme.Shares date otherDate)) := by
  refine ⟨?_, floor_of_not_holds, ?_⟩
  · rintro rfl
    exact floor_unsplit micros
  intro splits held
  have valid : (CivilDate.ofMicros micros).Valid := valid_ofDay _
  have firstValid := valid_firstDate scheme valid
  have nextValid := valid_nextDate scheme valid
  have floors := toInt_floor splits held
  have first : (scheme.firstDate (.ofMicros micros)).toDay ≤ (CivilDate.ofMicros micros).toDay :=
    Int.not_lt.mp (mt (toDay_lt_iff valid firstValid).mp (not_before_firstDate scheme valid))
  have next : (CivilDate.ofMicros micros).toDay < (scheme.nextDate (.ofMicros micros)).toDay :=
    toDay_lt_of_before valid (before_nextDate scheme _)
  have within := micros_bounds micros
  obtain ⟨yearLower, yearUpper⟩ := holdsDay_iff_year.mp (holdsDay_iff.mpr held)
  simp only [dayMicros] at floors within
  refine ⟨.ofMicros micros, _, fallsOn_ofDay _, yearLower, yearUpper, ?_,
    startsAt_toDay nextValid, ?_, ?_, ?_, ?_⟩
  · rw [floors]
    exact startsAt_toDay firstValid
  · omega
  · rw [dayMicros]
    omega
  · rintro start begin isFirst ⟨day, falls, rfl⟩ early
    obtain ⟨startValid, rfl⟩ := fallsOn_iff.mp falls
    rw [dayMicros] at early ⊢
    have greatest := toDay_le_firstDate valid startValid isFirst (by omega)
    omega
  · intro other otherDate otherHeld falls
    rw [eq_ofDay_of_fallsOn falls]
    exact floor_eq_floor_iff splits held otherHeld

/-- The last microsecond of 29 February 2024 belongs to the month from 1 February to 1 March. -/
theorem floor_month_of_leap_day :
    ∃ following, CivilDate.StartsAt ⟨2024, 2, 1⟩ (Scheme.month.floor 1709251199999999).toInt ∧
      CivilDate.StartsAt ⟨2024, 3, 1⟩ following ∧ 1709251199999999 < following := by
  have held : Holds 1709251199999999 := by
    unfold Holds
    decide
  obtain ⟨date, following, falls, -, -, starts, next, -, within, -⟩ :=
    (floor_greatest_start .month 1709251199999999).2.2 (by decide) held
  obtain rfl : date = ⟨2024, 2, 29⟩ := (eq_ofDay_of_fallsOn falls).trans (by decide)
  exact ⟨following, starts, next, within⟩

end Scheme

end Columnar
