import Crond.Calendar.Moment

/-
  The six fields of a schedule, in the order in which an expression lists them, with the values
  each may have and the reading of each from a moment.
-/

namespace Crond

open Calendar

/-- A field of a schedule. -/
inductive Field where
  | second
  | minute
  | hour
  | day
  | month
  | weekday
  deriving DecidableEq, Repr

namespace Field

def all : List Field := [second, minute, hour, day, month, weekday]

def name : Field → String
  | second => "second"
  | minute => "minute"
  | hour => "hour"
  | day => "day of month"
  | month => "month"
  | weekday => "day of week"

/-- The smallest legal value. -/
def low : Field → Int
  | second | minute | hour | weekday => 0
  | day | month => 1

/-- The largest legal value. -/
def high : Field → Int
  | second | minute => 59
  | hour => 23
  | day => 31
  | month => 12
  | weekday => 6

/-- What a clock and a calendar show in a field. -/
def reading (t : Moment) : Field → Int
  | second => t.second
  | minute => t.minute
  | hour => t.hour
  | day => t.date.day
  | month => t.date.month
  | weekday => t.weekday

theorem mem_all (f : Field) : f ∈ all := by cases f <;> decide

theorem low_le_high (f : Field) : f.low ≤ f.high := by cases f <;> decide

end Field

end Crond
