import Crond.Text.Numeral

/-
  Lengths of time, to the nanosecond, and their text.
-/

namespace Crond.Calendar

open Text

/-- A length of time in nanoseconds. -/
structure Duration where
  nanos : Nat
  deriving DecidableEq, Repr

def nanosPerSecond : Nat := 1000000000

def nanosPerMilli : Nat := 1000000

namespace Duration

def second : Duration := ⟨nanosPerSecond⟩

/-- The millisecond count of a duration, a begun millisecond counted as a whole one. -/
def millis (d : Duration) : Nat := (d.nanos + nanosPerMilli - 1) / nanosPerMilli

/--
A number of parts of a unit in decimals of the unit, with no superfluous zeros. A unit has as many
parts as a one with `places` zeros behind it says.
-/
def decimal (parts places : Nat) : List Char :=
  let unit := Nat.pow 10 places
  let fraction := (padded places (parts % unit)).reverse.dropWhile (· = '0')
  numeral (parts / unit) ++
    if places = 0 || fraction = [] then [] else '.' :: fraction.reverse

/-- The text of a duration, in the largest unit of which it holds at least one. -/
def text (d : Duration) : String :=
  if nanosPerSecond ≤ d.nanos then String.ofList (decimal d.nanos 9) ++ "s"
  else if nanosPerMilli ≤ d.nanos then String.ofList (decimal d.nanos 6) ++ "ms"
  else if 1000 ≤ d.nanos then String.ofList (decimal d.nanos 3) ++ "µs"
  else String.ofList (decimal d.nanos 0) ++ "ns"

end Duration

end Crond.Calendar
