/-
This file holds the calendar: days counted from 1 January 1970, and the dates they fall on. It is
the Gregorian calendar carried on without end in both directions, with a year 0 and negative years
before it. A year's first day has a closed formula, for the leap days before it can be counted by
three divisions; the year of a day is the one whose first day is the last not after it, and an
estimate by the mean length of a year misses it by at most one.
-/

namespace Columnar

namespace Calendar

/-- Years divisible by 4 have a leap day, except the full centuries not divisible by 400. -/
def isLeap (year : Int) : Bool :=
  year % 4 == 0 && (year % 100 != 0 || year % 400 == 0)

/-- The number of the first day of a year. -/
def yearStart (year : Int) : Int :=
  365 * (year - 1970) + (year - 1) / 4 - (year - 1) / 100 + (year - 1) / 400 - 477

/-- The year of a day. A cycle of 400 years has 146097 days. -/
def yearOf (day : Int) : Int :=
  let estimate := 400 * day / 146097 + 1970
  if day < yearStart estimate then estimate - 1
  else if day < yearStart (estimate + 1) then estimate
  else estimate + 1

/-- The lengths of the months of a year. -/
def monthLengths (leap : Bool) : List Nat :=
  [31, if leap then 29 else 28, 31, 30, 31, 30, 31, 31, 30, 31, 30, 31]

/-- The days of the first months of a year. -/
def daysBefore : List Nat → Nat → Nat
  | _, 0 => 0
  | [], _ + 1 => 0
  | length :: lengths, months + 1 => length + daysBefore lengths months

/-- The count of whole months before the day with the given number in its year, both counted from
zero, and the number of the day in its month. -/
def splitMonths : List Nat → Nat → Nat × Nat
  | [], day => (0, day)
  | length :: lengths, day =>
    if day < length then (0, day)
    else
      let rest := splitMonths lengths (day - length)
      (rest.1 + 1, rest.2)

/-- The days of the years -262143 to 262142, to which the calendar of stored timestamps is
limited. -/
def holdsDay (day : Int) : Bool :=
  yearStart (-262143) ≤ day && day < yearStart 262143

theorem yearStart_succ (year : Int) :
    yearStart (year + 1) = yearStart year + if isLeap year then 366 else 365 := by
  have leap : isLeap year = true ↔ year % 4 = 0 ∧ (year % 100 ≠ 0 ∨ year % 400 = 0) := by
    simp [isLeap]
  unfold yearStart
  split
  · next leapYear =>
    have conditions := leap.mp leapYear
    omega
  · next commonYear =>
    have conditions := mt leap.mpr commonYear
    omega

theorem yearStart_yearOf_le (day : Int) : yearStart (yearOf day) ≤ day := by
  simp only [yearOf]
  split
  · simp only [yearStart] at *; omega
  · split <;> omega

theorem lt_yearStart_yearOf_succ (day : Int) : day < yearStart (yearOf day + 1) := by
  simp only [yearOf]
  split
  · simp only [Int.sub_add_cancel]; assumption
  · split
    · assumption
    · simp only [yearStart] at *; omega

theorem daysBefore_splitMonths (lengths : List Nat) (day : Nat) :
    daysBefore lengths (splitMonths lengths day).1 + (splitMonths lengths day).2 = day := by
  induction lengths generalizing day with
  | nil => simp [splitMonths, daysBefore]
  | cons length lengths inductionHypothesis =>
    unfold splitMonths
    split
    · simp [daysBefore]
    · have together := inductionHypothesis (day - length)
      simp only [daysBefore]
      omega

end Calendar

/-- A date: the month and the day in the month are counted from one. -/
structure CivilDate where
  year : Int
  month : Nat
  day : Nat
deriving DecidableEq, Repr

namespace CivilDate

open Calendar

/-- The date on which a day falls. -/
def ofDay (day : Int) : CivilDate :=
  let year := yearOf day
  let months := splitMonths (monthLengths (isLeap year)) (day - yearStart year).toNat
  ⟨year, months.1 + 1, months.2 + 1⟩

/-- The number of the day that a date falls on. -/
def toDay (date : CivilDate) : Int :=
  yearStart date.year + daysBefore (monthLengths (isLeap date.year)) (date.month - 1) +
    (date.day - 1 : Nat)

theorem toDay_ofDay (day : Int) : (ofDay day).toDay = day := by
  have split := daysBefore_splitMonths (monthLengths (isLeap (yearOf day)))
    (day - yearStart (yearOf day)).toNat
  have start := yearStart_yearOf_le day
  simp only [ofDay, toDay, Nat.add_sub_cancel]
  omega

end CivilDate

end Columnar
