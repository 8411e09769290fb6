import Crond.Calendar.Moment

/-
  Ticks: how long a host has to wait for the next one.
-/

namespace Crond

open Calendar

/--
The time until the next whole second, at millisecond precision: from the millisecond that `now`
lies in to one second after the second it lies in. That can never be negative; were it so, a whole
second would stand in.
-/
def tickDelay (now : Moment) : Duration :=
  let wait := (now.wholeSecond.add .second).nanos - now.wholeMilli.nanos
  ⟨if 0 ≤ wait then wait.toNat else nanosPerSecond⟩

end Crond
