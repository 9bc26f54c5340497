/-
This file holds the schemes by which stored data is split into segments of time, and the start of
the segment that a timestamp belongs to. A segment starts at midnight, on the day itself or on the
first day of its month or year. The scheme without segments leaves timestamps as they are, and so
does NULL under every scheme; a timestamp outside the calendar has no segment and gives NULL.
-/

import Columnar.Calendar
import Columnar.Null

namespace Columnar

/-- How stored data is split into segments of time. -/
inductive Scheme
  /-- One segment for all time. -/
  | unsplit
  | day
  | month
  | year
deriving DecidableEq, Repr

/-- A name that no scheme has. -/
structure UnknownScheme where
  name : String
deriving DecidableEq, Repr

/-- The report of an unknown scheme. -/
def UnknownScheme.message (unknown : UnknownScheme) : String :=
  "Unknown partition scheme: " ++ unknown.name

namespace Scheme

/-- Every scheme, in the order of the codes. -/
def all : List Scheme :=
  [.unsplit, .day, .month, .year]

theorem mem_all (scheme : Scheme) : scheme ∈ all := by
  cases scheme <;> decide

/-- The name of a scheme. -/
def name : Scheme → String
  | .unsplit => "NONE"
  | .day => "DAY"
  | .month => "MONTH"
  | .year => "YEAR"

/-- The code of a scheme, which never changes. -/
def code : Scheme → Int32
  | .unsplit => 0
  | .day => 1
  | .month => 2
  | .year => 3

/-- The scheme with a code. -/
def ofCode? (code : Int32) : Option Scheme :=
  all.find? fun scheme => scheme.code == code

/-- The scheme with a name, whatever the case of its letters. -/
def ofName? (text : String) : Option Scheme :=
  all.find? fun scheme => Ascii.sameName scheme.name text

/-- The scheme with a name, or the report that there is none. -/
def ofName (text : String) : Except UnknownScheme Scheme :=
  match ofName? text with
  | some scheme => .ok scheme
  | none => .error ⟨text⟩

/-- The first date of the segment that a date belongs to. -/
def firstDate : Scheme → CivilDate → CivilDate
  | .unsplit, date => date
  | .day, date => date
  | .month, date => { date with day := 1 }
  | .year, date => { date with month := 1, day := 1 }

/-- The microseconds of a day. -/
def dayMicros : Int := 86400000000

/-- The start of the segment that holds a timestamp. -/
def floor (scheme : Scheme) (micros : Int64) : Int64 :=
  if scheme = .unsplit || micros = Null.date then micros
  else
    let day := micros.toInt / dayMicros
    if Calendar.holdsDay day then
      Int64.ofInt ((scheme.firstDate (.ofDay day)).toDay * dayMicros)
    else Null.date

theorem floor_unsplit (micros : Int64) : Scheme.unsplit.floor micros = micros := by
  simp [floor]

theorem floor_null (scheme : Scheme) : scheme.floor Null.date = Null.date := by
  simp [floor]

end Scheme

end Columnar
