import Crond.Calendar.Moment

/-
  Moments as text.
-/

namespace Crond.Calendar

open Text

/-- A number with zeros in front, to at least `width` places. -/
def places (width n : Nat) : String := String.ofList (padded width n)

namespace Moment

/-- The date, as `2022-08-18`. -/
def dateText (t : Moment) : String :=
  "-".intercalate [places 4 t.date.year.toNat, places 2 t.date.month, places 2 t.date.day]

/-- The time of day, as `16:12:56`. -/
def clockText (t : Moment) : String :=
  ":".intercalate [places 2 t.hour, places 2 t.minute, places 2 t.second]

/-- The nanoseconds since the last whole second. -/
def fraction (t : Moment) : Nat := (t.nanos % nanosPerSecond).toNat

/-- Date and time of day, to the millisecond. -/
def logText (t : Moment) : String :=
  t.dateText ++ " " ++ t.clockText ++ "." ++ places 3 (t.fraction / nanosPerMilli)

/-- Date and time of day, the fraction of a second in groups of three digits as far as it goes. -/
def text (t : Moment) : String :=
  let fraction :=
    if t.fraction = 0 then ""
    else if t.fraction % nanosPerMilli = 0 then "." ++ places 3 (t.fraction / nanosPerMilli)
    else if t.fraction % 1000 = 0 then "." ++ places 6 (t.fraction / 1000)
    else "." ++ places 9 t.fraction
  t.dateText ++ " " ++ t.clockText ++ fraction

end Moment

end Crond.Calendar
