/-
This file proves that the formulas of the calendar count its days. The calendar itself takes one
rule, the date after a date, which asks for no more than the lengths of the months and the leap
days. Counted by this rule from 1 January 1970, in both directions and without end, every day falls
on one date, and the formulas give the date of a day and the day of a date. The days of two dates
stand in the order of their years, months and days, so what is said of dates can be read off these
three numbers.
-/

import Columnar.Calendar

namespace Columnar

namespace Calendar

/-! ### Years and months -/

/-- Later years start on later days. -/
theorem yearStart_le_yearStart {earlier later : Int} (order : earlier ≤ later) :
    yearStart earlier ≤ yearStart later := by
  unfold yearStart
  omega

/-- A day not before the start of a year lies in no earlier year. -/
theorem le_yearOf {year day : Int} (reached : yearStart year ≤ day) : year ≤ yearOf day := by
  have next := lt_yearStart_yearOf_succ day
  refine Int.not_lt.mp fun before => ?_
  have starts := yearStart_le_yearStart (show yearOf day + 1 ≤ year by omega)
  omega

/-- One month more adds its days. -/
theorem daysBefore_succ {lengths : List Nat} {months length : Nat}
    (known : lengths[months]? = some length) :
    daysBefore lengths (months + 1) = daysBefore lengths months + length := by
  induction lengths generalizing months with
  | nil => cases known
  | cons first rest inductionHypothesis =>
    cases months with
    | zero =>
      obtain rfl : first = length := Option.some.inj known
      rw [daysBefore, daysBefore, daysBefore, Nat.add_comm]
    | succ months =>
      rw [daysBefore, inductionHypothesis known, daysBefore, Nat.add_assoc]

/-- More months have no fewer days. -/
theorem daysBefore_le_daysBefore (lengths : List Nat) {months more : Nat} (order : months ≤ more) :
    daysBefore lengths months ≤ daysBefore lengths more := by
  induction lengths generalizing months more with
  | nil => cases months <;> cases more <;> exact Nat.le_refl 0
  | cons first rest inductionHypothesis =>
    cases months with
    | zero => exact Nat.zero_le _
    | succ months =>
      cases more with
      | zero => cases order
      | succ more =>
        exact Nat.add_le_add_left (inductionHypothesis (Nat.le_of_succ_le_succ order)) first

/-- A day among those of all months lies in one of the months. -/
theorem exists_splitMonths {lengths : List Nat} {day : Nat}
    (inside : day < daysBefore lengths lengths.length) :
    ∃ length, lengths[(splitMonths lengths day).1]? = some length ∧
      (splitMonths lengths day).2 < length := by
  induction lengths generalizing day with
  | nil => cases inside
  | cons first rest inductionHypothesis =>
    unfold splitMonths
    split
    · next early => exact ⟨first, rfl, early⟩
    · next late =>
      rw [List.length_cons, daysBefore] at inside
      exact inductionHypothesis (by omega)

/-- The months make up the year. -/
theorem yearStart_succ_eq_months (year : Int) :
    yearStart (year + 1) = yearStart year + daysBefore (monthLengths (isLeap year)) 12 := by
  rw [yearStart_succ]
  cases isLeap year <;> rfl

/-- Every month has a first day. -/
theorem exists_monthLength (leap : Bool) {months : Nat} (inside : months < 12) :
    ∃ length, (monthLengths leap)[months]? = some length ∧ 0 < length := by
  have positive : ∀ leap, ∀ length ∈ monthLengths leap, 0 < length := by decide
  have found : (monthLengths leap)[months]? = some (monthLengths leap)[months] :=
    List.getElem?_eq_getElem inside
  exact ⟨_, found, positive leap _ (List.getElem_mem _)⟩

end Calendar

namespace CivilDate

open Calendar

variable {date other : CivilDate}

/-! ### The calendar, one day after the other -/

/-- The count of the days of the month that a date lies in. -/
def monthLength (date : CivilDate) : Nat :=
  (monthLengths (isLeap date.year)).getD (date.month - 1) 0

/-- The year has such a month, and the month such a day. -/
structure Valid (date : CivilDate) : Prop where
  month_pos : 1 ≤ date.month
  month_le : date.month ≤ 12
  day_pos : 1 ≤ date.day
  day_le : date.day ≤ date.monthLength

/-- The first date of the month after that of a date. -/
def nextMonth (date : CivilDate) : CivilDate :=
  if date.month < 12 then ⟨date.year, date.month + 1, 1⟩ else ⟨date.year + 1, 1, 1⟩

/-- The date after a date. -/
def next (date : CivilDate) : CivilDate :=
  if date.day < date.monthLength then { date with day := date.day + 1 } else date.nextMonth

/-- The day with a number falls on a date, by counting from 1 January 1970. -/
inductive FallsOn : CivilDate → Int → Prop
  | epoch : FallsOn ⟨1970, 1, 1⟩ 0
  | after {date : CivilDate} {day : Int} (falls : FallsOn date day) : FallsOn date.next (day + 1)
  | before {date : CivilDate} {day : Int} (valid : date.Valid) (falls : FallsOn date.next day) :
    FallsOn date (day - 1)

/-! ### Dates that exist -/

theorem getElem?_monthLengths (valid : date.Valid) :
    (monthLengths (isLeap date.year))[date.month - 1]? = some date.monthLength := by
  obtain ⟨length, found, -⟩ := exists_monthLength (isLeap date.year)
    (show date.month - 1 < 12 by have := valid.month_pos; have := valid.month_le; omega)
  rw [monthLength, List.getD_eq_getElem?_getD, found, Option.getD_some]

/-- The first day of a month exists. -/
theorem valid_first {year : Int} {month : Nat} (positive : 1 ≤ month) (atMost : month ≤ 12) :
    Valid ⟨year, month, 1⟩ := by
  obtain ⟨length, found, nonempty⟩ := exists_monthLength (isLeap year)
    (show month - 1 < 12 by omega)
  refine ⟨positive, atMost, Nat.le_refl 1, ?_⟩
  rw [monthLength, List.getD_eq_getElem?_getD, found]
  exact nonempty

theorem valid_nextMonth (date : CivilDate) : date.nextMonth.Valid := by
  unfold nextMonth
  split
  · next earlier => exact valid_first (Nat.le_add_left 1 _) earlier
  · exact valid_first (Nat.le_refl 1) (by decide)

theorem valid_next (valid : date.Valid) : date.next.Valid := by
  unfold next
  split
  · next within => exact ⟨valid.month_pos, valid.month_le, Nat.le_add_left 1 _, within⟩
  · exact valid_nextMonth date

/-- A day lies less than a year after the start of its year. -/
theorem valid_ofDay (day : Int) : (ofDay day).Valid := by
  have start := yearStart_yearOf_le day
  have before := lt_yearStart_yearOf_succ day
  rw [yearStart_succ_eq_months] at before
  have inside : (day - yearStart (yearOf day)).toNat <
      daysBefore (monthLengths (isLeap (yearOf day)))
        (monthLengths (isLeap (yearOf day))).length := by
    show _ < daysBefore (monthLengths (isLeap (yearOf day))) 12
    omega
  obtain ⟨length, found, within⟩ := exists_splitMonths inside
  obtain ⟨months, -⟩ := List.getElem?_eq_some_iff.mp found
  refine ⟨Nat.le_add_left 1 _, months, Nat.le_add_left 1 _, ?_⟩
  rw [monthLength, List.getD_eq_getElem?_getD, ofDay, Nat.add_sub_cancel, found]
  exact within

/-! ### The order of dates -/

/-- The days of the months up to that of a date end with its own month. -/
theorem daysBefore_month (valid : date.Valid) :
    daysBefore (monthLengths (isLeap date.year)) date.month =
      daysBefore (monthLengths (isLeap date.year)) (date.month - 1) + date.monthLength := by
  have month := daysBefore_succ (getElem?_monthLengths valid)
  rwa [Nat.sub_add_cancel valid.month_pos] at month

/-- The day of a date comes before the end of its month. -/
theorem toDay_lt_monthEnd (valid : date.Valid) :
    date.toDay < yearStart date.year +
      daysBefore (monthLengths (isLeap date.year)) date.month := by
  have day := valid.day_pos
  have within := valid.day_le
  rw [daysBefore_month valid, toDay]
  omega

theorem toDay_lt_yearStart_succ (valid : date.Valid) :
    date.toDay < yearStart (date.year + 1) := by
  have before := toDay_lt_monthEnd valid
  have months := daysBefore_le_daysBefore (monthLengths (isLeap date.year)) valid.month_le
  rw [yearStart_succ_eq_months]
  omega

/-- The date comes before the other one. -/
def Before (date other : CivilDate) : Prop :=
  date.year < other.year ∨ date.year = other.year ∧
    (date.month < other.month ∨ date.month = other.month ∧ date.day < other.day)

theorem toDay_lt_of_before (valid : date.Valid) (before : date.Before other) :
    date.toDay < other.toDay := by
  rcases before with earlierYear | ⟨sameYear, earlierMonth | ⟨sameMonth, earlierDay⟩⟩
  · have ends := toDay_lt_yearStart_succ valid
    have starts := yearStart_le_yearStart (show date.year + 1 ≤ other.year by omega)
    unfold toDay at ends ⊢
    omega
  · have ends := toDay_lt_monthEnd valid
    have months := daysBefore_le_daysBefore (monthLengths (isLeap date.year))
      (show date.month ≤ other.month - 1 by omega)
    unfold toDay at ends ⊢
    rw [← sameYear]
    omega
  · have day := valid.day_pos
    unfold toDay
    rw [sameYear, sameMonth]
    omega

theorem before_nextMonth (date : CivilDate) : date.Before date.nextMonth := by
  unfold nextMonth Before
  split <;> dsimp only <;> omega

theorem before_next (date : CivilDate) : date.Before date.next := by
  unfold next
  split
  · exact Or.inr ⟨rfl, Or.inr ⟨rfl, Nat.lt_succ_self _⟩⟩
  · exact before_nextMonth date

/-- The days of two dates stand in the order of the dates. -/
theorem toDay_lt_iff (valid : date.Valid) (otherValid : other.Valid) :
    date.toDay < other.toDay ↔ date.Before other := by
  refine ⟨fun order => ?_, toDay_lt_of_before valid⟩
  refine Classical.byContradiction fun notBefore => ?_
  by_cases after : other.Before date
  · have reverse := toDay_lt_of_before otherValid after
    omega
  · obtain ⟨year, month, day⟩ := date
    obtain ⟨otherYear, otherMonth, otherDay⟩ := other
    simp only [Before] at notBefore after
    obtain rfl : year = otherYear := by omega
    obtain rfl : month = otherMonth := by omega
    obtain rfl : day = otherDay := by omega
    exact absurd order (Int.lt_irrefl _)

/-- No two dates share a day. -/
theorem eq_of_toDay_eq (valid : date.Valid) (otherValid : other.Valid)
    (same : date.toDay = other.toDay) : date = other := by
  have notBefore := mt (toDay_lt_iff valid otherValid).mpr (by omega)
  have notAfter := mt (toDay_lt_iff otherValid valid).mpr (by omega)
  obtain ⟨year, month, day⟩ := date
  obtain ⟨otherYear, otherMonth, otherDay⟩ := other
  simp only [Before] at notBefore notAfter
  obtain rfl : year = otherYear := by omega
  obtain rfl : month = otherMonth := by omega
  obtain rfl : day = otherDay := by omega
  rfl

/-! ### The formulas count -/

/-- The next month begins where the days of a month end. -/
theorem toDay_nextMonth (valid : date.Valid) :
    date.nextMonth.toDay = yearStart date.year +
      daysBefore (monthLengths (isLeap date.year)) date.month := by
  unfold nextMonth
  split
  · simp only [toDay, Nat.add_sub_cancel, Nat.sub_self]
    omega
  · have last : date.month = 12 := Nat.le_antisymm valid.month_le (by omega)
    simp only [toDay, Nat.sub_self, daysBefore, yearStart_succ_eq_months, last]
    omega

/-- The date after a date falls on the next day. -/
theorem toDay_next (valid : date.Valid) : date.next.toDay = date.toDay + 1 := by
  have day := valid.day_pos
  have within := valid.day_le
  unfold next
  split
  · simp only [toDay]
    omega
  · rw [toDay_nextMonth valid, daysBefore_month valid, toDay]
    omega

/-- The date of the next day is the next date. -/
theorem ofDay_succ (day : Int) : ofDay (day + 1) = (ofDay day).next := by
  refine eq_of_toDay_eq (valid_ofDay _) (valid_next (valid_ofDay day)) ?_
  rw [toDay_ofDay, toDay_next (valid_ofDay day), toDay_ofDay]

/-- Every day falls on the date that the formulas give. -/
theorem fallsOn_ofDay (day : Int) : (ofDay day).FallsOn day := by
  have forward (count : Nat) : (ofDay count).FallsOn count := by
    induction count with
    | zero => exact .epoch
    | succ count inductionHypothesis =>
      rw [Int.natCast_succ, ofDay_succ]
      exact .after inductionHypothesis
  have backward (count : Nat) : (ofDay (-count)).FallsOn (-count) := by
    induction count with
    | zero => exact .epoch
    | succ count inductionHypothesis =>
      have step : (-(count : Int)) = -((count + 1 : Nat) : Int) + 1 := by omega
      rw [step, ofDay_succ] at inductionHypothesis
      have before := FallsOn.before (valid_ofDay _) inductionHypothesis
      rwa [Int.add_sub_cancel] at before
  rcases Int.eq_nat_or_neg day with ⟨count, rfl | rfl⟩
  · exact forward count
  · exact backward count

/-- Counting reaches the dates that exist, each on the day that the formulas give. -/
theorem fallsOn_iff {day : Int} : date.FallsOn day ↔ date.Valid ∧ date.toDay = day := by
  constructor
  · intro falls
    induction falls with
    | epoch => exact ⟨valid_first (Nat.le_refl 1) (by decide), by decide⟩
    | after _ inductionHypothesis =>
      obtain ⟨valid, count⟩ := inductionHypothesis
      exact ⟨valid_next valid, by rw [toDay_next valid, count]⟩
    | before valid _ inductionHypothesis =>
      have count := inductionHypothesis.2
      rw [toDay_next valid] at count
      exact ⟨valid, by omega⟩
  · rintro ⟨valid, rfl⟩
    have falls := fallsOn_ofDay date.toDay
    rwa [eq_of_toDay_eq (valid_ofDay _) valid (toDay_ofDay _)] at falls

/-- A day falls on no other date than the one that the formulas give. -/
theorem eq_ofDay_of_fallsOn {day : Int} (falls : date.FallsOn day) : date = ofDay day := by
  obtain ⟨valid, count⟩ := fallsOn_iff.mp falls
  exact eq_of_toDay_eq valid (valid_ofDay day) (by rw [count, toDay_ofDay])

theorem fallsOn_toDay (valid : date.Valid) : date.FallsOn date.toDay :=
  fallsOn_iff.mpr ⟨valid, rfl⟩

end CivilDate

end Columnar
