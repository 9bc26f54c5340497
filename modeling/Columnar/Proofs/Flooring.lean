/-
This file proves the laws that tie two floors together. Flooring a date by two schemes is flooring
it by the coarser one, in whichever order, and the start of a segment has itself the first date of
that segment; so the same holds of timestamps, also of those that have no segment. The order of
timestamps is kept, for a start that is not after a timestamp is not after any later one either, and
a coarser scheme gives the earlier start. Since the calendar repeats itself after 400 years, which
are 146097 days, the floor moves along with a timestamp that is moved by such cycles.
-/

import Columnar.Proofs.Segments

namespace Columnar

namespace Calendar

/-! ### Cycles of 400 years -/

theorem isLeap_add_cycles (year cycles : Int) : isLeap (year + 400 * cycles) = isLeap year := by
  have fourth : (year + 400 * cycles) % 4 = year % 4 := by omega
  have century : (year + 400 * cycles) % 100 = year % 100 := by omega
  have cycle : (year + 400 * cycles) % 400 = year % 400 := by omega
  rw [isLeap, isLeap, fourth, century, cycle]

theorem yearStart_add_cycles (year cycles : Int) :
    yearStart (year + 400 * cycles) = yearStart year + 146097 * cycles := by
  unfold yearStart
  omega

end Calendar

namespace CivilDate

open Calendar

variable {date : CivilDate}

/-- The date after a count of whole cycles of 400 years. -/
def addCycles (date : CivilDate) (cycles : Int) : CivilDate :=
  { date with year := date.year + 400 * cycles }

theorem valid_addCycles (valid : date.Valid) (cycles : Int) : (date.addCycles cycles).Valid := by
  refine ⟨valid.month_pos, valid.month_le, valid.day_pos, ?_⟩
  rw [monthLength, addCycles, isLeap_add_cycles]
  exact valid.day_le

/-- A cycle has 146097 days. -/
theorem toDay_addCycles (date : CivilDate) (cycles : Int) :
    (date.addCycles cycles).toDay = date.toDay + 146097 * cycles := by
  simp only [toDay, addCycles, isLeap_add_cycles, yearStart_add_cycles]
  omega

theorem ofDay_toDay (valid : date.Valid) : ofDay date.toDay = date :=
  (eq_ofDay_of_fallsOn (fallsOn_toDay valid)).symm

theorem ofDay_add_cycles (day cycles : Int) :
    ofDay (day + 146097 * cycles) = (ofDay day).addCycles cycles := by
  rw [← ofDay_toDay (valid_addCycles (valid_ofDay day) cycles), toDay_addCycles, toDay_ofDay]

end CivilDate

namespace Scheme

open Calendar CivilDate

variable {scheme finer coarser : Scheme} {micros other : Int64}

/-! ### Finer and coarser schemes -/

/-- The segments of the first scheme lie within those of the second. The codes count the schemes
from finer to coarser; the one that leaves every timestamp as it is comes first. -/
def Refines (finer coarser : Scheme) : Prop :=
  finer.code ≤ coarser.code

instance (finer coarser : Scheme) : Decidable (finer.Refines coarser) :=
  inferInstanceAs (Decidable (finer.code ≤ coarser.code))

/-- Of two schemes the coarser one gives the first date, in whichever order they are applied. -/
theorem firstDate_firstDate (refines : finer.Refines coarser) (date : CivilDate) :
    coarser.firstDate (finer.firstDate date) = coarser.firstDate date ∧
      finer.firstDate (coarser.firstDate date) = coarser.firstDate date := by
  cases finer <;> cases coarser <;> first | exact ⟨rfl, rfl⟩ | exact absurd refines (by decide)

theorem refines_refl (scheme : Scheme) : scheme.Refines scheme :=
  Int32.le_refl _

/-! ### Floors of floors -/

/-- The floor of a timestamp falls on the first date of its segment. -/
theorem ofMicros_floor (splits : scheme ≠ .unsplit) (held : Holds micros) :
    CivilDate.ofMicros (scheme.floor micros) = scheme.firstDate (.ofMicros micros) := by
  rw [CivilDate.ofMicros, toInt_floor splits held, Int.mul_ediv_cancel _ (by decide)]
  exact ofDay_toDay (valid_firstDate scheme (valid_ofDay _))

/-- A segment starts in the calendar if it lies there. -/
theorem holds_floor (scheme : Scheme) (held : Holds micros) : Holds (scheme.floor micros) := by
  by_cases unsplit : scheme = .unsplit
  · rw [unsplit, floor_unsplit]
    exact held
  · have sameYear (timestamp : Int64) :
        yearOf (timestamp.toInt / dayMicros) = (CivilDate.ofMicros timestamp).year := rfl
    have years := holdsDay_iff_year.mp (holdsDay_iff.mpr held)
    refine holdsDay_iff.mp (holdsDay_iff_year.mpr ?_)
    rw [sameYear] at years ⊢
    rw [ofMicros_floor unsplit held]
    cases scheme <;> exact years

/-- Of two schemes the coarser one gives the floor, in whichever order they are applied. -/
theorem floor_floor (refines : finer.Refines coarser) (micros : Int64) :
    coarser.floor (finer.floor micros) = coarser.floor micros ∧
      finer.floor (coarser.floor micros) = coarser.floor micros := by
  by_cases finerUnsplit : finer = .unsplit
  · rw [finerUnsplit, floor_unsplit, floor_unsplit]
    exact ⟨rfl, rfl⟩
  have coarserSplits : coarser ≠ .unsplit := by
    rintro rfl
    cases finer <;> first | exact finerUnsplit rfl | exact absurd refines (by decide)
  by_cases held : Holds micros
  · obtain ⟨finerFirst, coarserFirst⟩ := firstDate_firstDate refines (.ofMicros micros)
    constructor
    · rw [← Int64.toInt_inj, toInt_floor coarserSplits (holds_floor finer held),
        ofMicros_floor finerUnsplit held, finerFirst, toInt_floor coarserSplits held]
    · rw [← Int64.toInt_inj, toInt_floor finerUnsplit (holds_floor coarser held),
        ofMicros_floor coarserSplits held, coarserFirst, toInt_floor coarserSplits held]
  · rw [floor_of_not_holds finerUnsplit held, floor_of_not_holds coarserSplits held, floor_null,
      floor_null]
    exact ⟨rfl, rfl⟩

/-! ### Order -/

/-- The floor of a timestamp of the calendar is not after it. -/
theorem floor_le (scheme : Scheme) (held : Holds micros) : scheme.floor micros ≤ micros := by
  by_cases unsplit : scheme = .unsplit
  · rw [unsplit, floor_unsplit]
    exact Int64.le_refl micros
  · have first := (firstDate_bounds scheme (micros.toInt / dayMicros)).2
    rw [Int64.le_iff_toInt_le, toInt_floor unsplit held, CivilDate.ofMicros]
    rw [dayMicros] at first ⊢
    omega

/-- The segments of two timestamps of the calendar start in the order of the timestamps. -/
theorem floor_le_floor (scheme : Scheme) (held : Holds micros) (otherHeld : Holds other)
    (order : micros ≤ other) : scheme.floor micros ≤ scheme.floor other := by
  by_cases unsplit : scheme = .unsplit
  · rw [unsplit, floor_unsplit, floor_unsplit]
    exact order
  · have early := floor_le scheme held
    have starts := toInt_floor unsplit held
    have within := (micros_bounds other).2
    rw [Int64.le_iff_toInt_le] at early order ⊢
    have notAfter : (scheme.firstDate (.ofMicros micros)).toDay ≤
        (CivilDate.ofMicros other).toDay := by
      rw [dayMicros] at starts within
      omega
    have first := (firstDate_firstDate (refines_refl scheme) (.ofMicros micros)).1
    have reached := toDay_le_firstDate (valid_ofDay _) (valid_firstDate scheme (valid_ofDay _))
      first notAfter
    rw [starts, toInt_floor unsplit otherHeld]
    exact Int.mul_le_mul_of_nonneg_right reached (by decide)

/-- In the calendar a coarser scheme gives the earlier start. -/
theorem floor_le_floor_of_refines (refines : finer.Refines coarser) (held : Holds micros) :
    coarser.floor micros ≤ finer.floor micros := by
  have early := floor_le coarser (holds_floor finer held)
  rwa [(floor_floor refines micros).1] at early

/-! ### Translation -/

section Translation

variable {moved : Int64} (held : Holds micros) (movedHeld : Holds moved)

include held movedHeld

/-- The floor moves along with a timestamp that is moved by cycles of 146097 days. -/
theorem floor_add_cycles (scheme : Scheme) {cycles : Int}
    (shift : moved.toInt = micros.toInt + 146097 * cycles * dayMicros) :
    (scheme.floor moved).toInt = (scheme.floor micros).toInt + 146097 * cycles * dayMicros := by
  by_cases unsplit : scheme = .unsplit
  · rw [unsplit, floor_unsplit, floor_unsplit, shift]
  · have dates : CivilDate.ofMicros moved = (CivilDate.ofMicros micros).addCycles cycles := by
      rw [CivilDate.ofMicros, shift, Int.add_mul_ediv_right _ _ (by decide), ofDay_add_cycles]
      rfl
    have firstDates : scheme.firstDate ((CivilDate.ofMicros micros).addCycles cycles) =
        (scheme.firstDate (.ofMicros micros)).addCycles cycles := by
      cases scheme <;> rfl
    rw [toInt_floor unsplit held, toInt_floor unsplit movedHeld, dates, firstDates,
      toDay_addCycles, Int.add_mul]

/-- The midnight before a timestamp moves along with it by whole days. -/
theorem floor_add_days {days : Int} (shift : moved.toInt = micros.toInt + days * dayMicros) :
    (Scheme.day.floor moved).toInt = (Scheme.day.floor micros).toInt + days * dayMicros := by
  have splits : Scheme.day ≠ .unsplit := by decide
  rw [toInt_floor splits held, toInt_floor splits movedHeld]
  simp only [firstDate, CivilDate.ofMicros, toDay_ofDay]
  rw [shift, Int.add_mul_ediv_right _ _ (by decide), Int.add_mul]

end Translation

/-- The laws of flooring. A floor is its own floor, under every scheme and for every timestamp; in
the calendar floors keep the order of timestamps, and coarser schemes give earlier starts; of two
schemes applied one after the other the coarser one decides; and in the calendar the floor moves
along with a timestamp by cycles of 146097 days, and by single days where days are the segments. -/
theorem flooring_laws :
    (∀ (scheme : Scheme) (micros : Int64),
      scheme.floor (scheme.floor micros) = scheme.floor micros) ∧
    (∀ (scheme : Scheme) (micros other : Int64), Holds micros → Holds other → micros ≤ other →
      scheme.floor micros ≤ scheme.floor other) ∧
    (∀ micros : Int64, Holds micros → Scheme.year.floor micros ≤ Scheme.month.floor micros ∧
      Scheme.month.floor micros ≤ Scheme.day.floor micros ∧ Scheme.day.floor micros ≤ micros) ∧
    (∀ (finer coarser : Scheme) (micros : Int64), finer.Refines coarser →
      coarser.floor (finer.floor micros) = coarser.floor micros ∧
        finer.floor (coarser.floor micros) = coarser.floor micros) ∧
    (∀ (scheme : Scheme) (cycles : Int) (micros moved : Int64), Holds micros → Holds moved →
      moved.toInt = micros.toInt + 146097 * cycles * dayMicros →
        (scheme.floor moved).toInt = (scheme.floor micros).toInt + 146097 * cycles * dayMicros) ∧
    (∀ (days : Int) (micros moved : Int64), Holds micros → Holds moved →
      moved.toInt = micros.toInt + days * dayMicros →
        (Scheme.day.floor moved).toInt = (Scheme.day.floor micros).toInt + days * dayMicros) := by
  refine ⟨?_, ?_, ?_, ?_, ?_, ?_⟩
  · intro scheme micros
    exact (floor_floor (refines_refl scheme) micros).1
  · intro scheme micros other held otherHeld order
    exact floor_le_floor scheme held otherHeld order
  · intro micros held
    exact ⟨floor_le_floor_of_refines (by decide) held, floor_le_floor_of_refines (by decide) held,
      floor_le .day held⟩
  · intro finer coarser micros refines
    exact floor_floor refines micros
  · intro scheme cycles micros moved held movedHeld shift
    exact floor_add_cycles held movedHeld scheme shift
  · intro days micros moved held movedHeld shift
    exact floor_add_days held movedHeld shift

/-- Noon of 29 February 2000 and of 29 February 1600, a cycle before, lie in months and years that
start a cycle apart. -/
theorem flooring_laws_leap_day :
    (Scheme.month.floor (-11670955200000000)).toInt =
        (Scheme.month.floor 951825600000000).toInt + 146097 * -1 * dayMicros ∧
      Scheme.year.floor (Scheme.month.floor 951825600000000) =
        Scheme.year.floor 951825600000000 ∧
      Scheme.year.floor 951825600000000 ≤ Scheme.month.floor 951825600000000 := by
  have held : Holds 951825600000000 := ⟨by decide, by decide⟩
  have movedHeld : Holds (-11670955200000000) := ⟨by decide, by decide⟩
  obtain ⟨-, -, chain, absorbs, translates, -⟩ := flooring_laws
  exact ⟨translates .month (-1) _ _ held movedHeld (by decide),
    (absorbs .month .year _ (by decide)).1, (chain _ held).1⟩

end Scheme

end Columnar
