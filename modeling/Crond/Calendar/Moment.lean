import Crond.Calendar.Date
import Crond.Calendar.Duration

/-
  Moments of local time, to the nanosecond.

  A moment is a number of nanoseconds from the beginning of 1970, so a difference or a step over
  a midnight, a month end or a leap day is plain arithmetic; `civil` gives the calendar and clock
  fields of a moment, and `ofCivil?` the moment of fields that exist.
-/

namespace Crond.Calendar

def secondsPerDay : Nat := 86400

/-- A moment of local time: nanoseconds from the beginning of 1 January 1970. -/
structure Moment where
  nanos : Int
  deriving DecidableEq, Repr

/-- Calendar and clock fields of a moment. -/
structure Civil where
  date : Date
  hour : Nat
  minute : Nat
  second : Nat
  nano : Nat
  deriving DecidableEq, Repr

namespace Moment

def epoch : Moment := ⟨0⟩

/-- The whole seconds of a moment; those before 1970 are negative. -/
def seconds (t : Moment) : Int := t.nanos / nanosPerSecond

def dayNumber (t : Moment) : Int := t.seconds / secondsPerDay

def secondOfDay (t : Moment) : Nat := (t.seconds % secondsPerDay).toNat

def date (t : Moment) : Date := Date.ofDayNumber t.dayNumber

def hour (t : Moment) : Nat := t.secondOfDay / 3600

def minute (t : Moment) : Nat := t.secondOfDay / 60 % 60

def second (t : Moment) : Nat := t.secondOfDay % 60

/-- The day of the week, 0 for Sunday to 6 for Saturday. -/
def weekday (t : Moment) : Nat := weekdayOf t.dayNumber

def civil (t : Moment) : Civil :=
  ⟨t.date, t.hour, t.minute, t.second, (t.nanos % nanosPerSecond).toNat⟩

/-- The last whole second at or before a moment. -/
def wholeSecond (t : Moment) : Moment := ⟨t.nanos - t.nanos % nanosPerSecond⟩

/-- The last whole millisecond at or before a moment. -/
def wholeMilli (t : Moment) : Moment := ⟨t.nanos - t.nanos % nanosPerMilli⟩

def add (t : Moment) (d : Duration) : Moment := ⟨t.nanos + d.nanos⟩

/-- The moment shown by a clock that is `seconds` ahead. -/
def shift (t : Moment) (seconds : Int) : Moment := ⟨t.nanos + seconds * nanosPerSecond⟩

end Moment

/-- The first and the last year a moment can be given in. -/
def firstYear : Int := -262143

def lastYear : Int := 262142

/-- Whether the fields name a moment. A minute has 60 seconds here, leap seconds are not told. -/
def Civil.exists (c : Civil) : Bool :=
  firstYear ≤ c.date.year && c.date.year ≤ lastYear && c.date.exists &&
    c.hour < 24 && c.minute < 60 && c.second < 60 && c.nano < nanosPerSecond

def Civil.moment (c : Civil) : Moment :=
  ⟨(c.date.dayNumber * secondsPerDay + (3600 * c.hour + 60 * c.minute + c.second : Nat))
    * nanosPerSecond + c.nano⟩

/-- The moment of calendar and clock fields, if there is one. -/
def Moment.ofCivil? (c : Civil) : Option Moment :=
  if c.exists then some c.moment else none

end Crond.Calendar
