import Crond.Schedule.Field
import Crond.Schedule.Pattern

/-
  Schedules: one pattern for each field. A moment is due when every field of it is in the
  pattern of that field; nothing finer than a second is looked at.
-/

namespace Crond

open Calendar

structure Schedule where
  second : Pattern
  minute : Pattern
  hour : Pattern
  day : Pattern
  month : Pattern
  weekday : Pattern
  deriving DecidableEq, Repr

namespace Schedule

/-- The pattern of a field. -/
def pattern (s : Schedule) : Field → Pattern
  | .second => s.second
  | .minute => s.minute
  | .hour => s.hour
  | .day => s.day
  | .month => s.month
  | .weekday => s.weekday

/-- Whether every field of a moment is in its pattern. -/
def isDue (s : Schedule) (t : Moment) : Bool :=
  Field.all.all fun f => (s.pattern f).contains (f.reading t)

theorem isDue_iff (s : Schedule) (t : Moment) :
    s.isDue t = true ↔ ∀ f : Field, (s.pattern f).contains (f.reading t) = true := by
  simp only [isDue, List.all_eq_true]
  exact ⟨fun h f => h f f.mem_all, fun h f _ => h f⟩

end Schedule

end Crond
