/-
  Dates of the proleptic Gregorian calendar and their day numbers.

  Day 0 is 1 January 1970. The calendar repeats after 400 years, which are 146097 days. Years are
  counted from March here, so that the leap day is the last day of its year and every month but
  the last begins a fixed number of days after 1 March.
-/

namespace Crond.Calendar

structure Date where
  year : Int
  month : Nat
  day : Nat
  deriving DecidableEq, Repr

def isLeapYear (year : Int) : Bool :=
  year % 4 = 0 && (year % 100 ≠ 0 || year % 400 = 0)

/-- The number of days of a month, 0 for a number that is no month. -/
def monthLength (year : Int) : Nat → Nat
  | 2 => if isLeapYear year then 29 else 28
  | 4 | 6 | 9 | 11 => 30
  | 1 | 3 | 5 | 7 | 8 | 10 | 12 => 31
  | _ => 0

def Date.exists (d : Date) : Bool := 1 ≤ d.day && d.day ≤ monthLength d.year d.month

/-- Days from 1 March of the year 0 to day 0. -/
def epochOffset : Int := 719468

/-- Days from 1 March to the first day of the month that comes `m` months after March. -/
def daysBefore (m : Nat) : Nat := (153 * m + 2) / 5

def Date.dayNumber (d : Date) : Int :=
  let year := if d.month ≤ 2 then d.year - 1 else d.year
  let dayOfYear := daysBefore ((d.month + 9) % 12) + d.day - 1
  365 * year + year / 4 - year / 100 + year / 400 + dayOfYear - epochOffset

/-- The date of the day with the given offset, in a year that begins in March of `year`. -/
def Date.ofDayOfYear (year : Int) (dayOfYear : Nat) : Date :=
  let m := (5 * dayOfYear + 2) / 153
  let day := dayOfYear - daysBefore m + 1
  if m < 10 then ⟨year, m + 3, day⟩ else ⟨year + 1, m - 9, day⟩

/--
The date with a day number. Within 400 years the days are shared out to centuries of 36524 days,
then to groups of four years of 1461 days, then to years of 365 days; the last part of each may be
one day longer, hence the two caps.
-/
def Date.ofDayNumber (n : Int) : Date :=
  let shifted := n + epochOffset
  let inEra := (shifted % 146097).toNat
  let century := min 3 (inEra / 36524)
  let inCentury := inEra - 36524 * century
  let inGroup := inCentury % 1461
  let yearOfGroup := min 3 (inGroup / 365)
  let year := 400 * (shifted / 146097) + (100 * century + 4 * (inCentury / 1461) + yearOfGroup)
  Date.ofDayOfYear year (inGroup - 365 * yearOfGroup)

/-- The day of the week with a day number: 0 is Sunday. Day 0 is a Thursday. -/
def weekdayOf (n : Int) : Nat := ((n + 4) % 7).toNat

end Crond.Calendar
