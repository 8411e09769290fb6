import Crond.Schedule.Basic
import Crond.Scheduler.Tick
import Crond.Proofs.Calendar.NextSecond

/-
  The delay before a tick, in plain arithmetic.

  A moment is its whole second, its millisecond within that second, and a rest of less than a
  millisecond. The delay is what the milliseconds lack to a full second (`nanos_tickDelay`), so a
  tick that comes after exactly the delay falls on the next whole second plus that rest
  (`nanos_add_tickDelay`). Told in calendar and clock fields: whatever the date and the time of
  day, the delay leads to the next second that a clock shows, and to less than a millisecond
  behind its beginning (`tickDelay_reaches_nextSecond`).
-/

namespace Crond

open Calendar

namespace Calendar.Moment

/-- The nanoseconds since the last whole millisecond. -/
def subMilli (t : Moment) : Int := t.nanos % nanosPerMilli

/-- The beginning of a second. -/
def ofSeconds (s : Int) : Moment := ⟨s * nanosPerSecond⟩

theorem seconds_ofSeconds (s : Int) : (ofSeconds s).seconds = s := by
  unfold ofSeconds seconds nanosPerSecond
  dsimp only
  omega

theorem eq_of_nanos {t u : Moment} (h : t.nanos = u.nanos) : t = u := by
  cases t
  cases u
  exact congrArg Moment.mk h

theorem subMilli_nonneg (t : Moment) : 0 ≤ t.subMilli := by
  unfold subMilli nanosPerMilli
  omega

theorem subMilli_lt (t : Moment) : t.subMilli < nanosPerMilli := by
  unfold subMilli nanosPerMilli
  omega

end Calendar.Moment

/-- Nothing finer than a second decides when a schedule is due. -/
theorem Schedule.isDue_congr (s : Schedule) {t t' : Moment} (h : t.seconds = t'.seconds) :
    s.isDue t = s.isDue t' := by
  have hreading : ∀ f : Field, f.reading t = f.reading t' := by
    intro f
    cases f <;> simp only [Field.reading, Moment.second, Moment.minute, Moment.hour, Moment.date,
      Moment.weekday, Moment.secondOfDay, Moment.dayNumber, h]
  unfold isDue
  simp only [hreading]

/-- The delay is never the stand-in for a negative one: it is one second less the milliseconds. -/
theorem nanos_tickDelay (n : Moment) :
    ((tickDelay n).nanos : Int) =
      nanosPerSecond - (n.nanos % nanosPerSecond - n.subMilli) := by
  unfold tickDelay Moment.wholeSecond Moment.wholeMilli Moment.add Moment.subMilli Duration.second
    nanosPerSecond nanosPerMilli
  dsimp only
  split <;> omega

/-- A tick that is not late falls on the next whole second, plus what milliseconds do not tell. -/
theorem nanos_add_tickDelay (n : Moment) :
    (n.add (tickDelay n)).nanos = (n.seconds + 1) * nanosPerSecond + n.subMilli := by
  have hd := nanos_tickDelay n
  unfold Moment.add
  dsimp only
  rw [hd]
  unfold Moment.seconds nanosPerSecond
  omega

/-! ## In calendar and clock fields -/

/-- The wait from the millisecond to one second after the second is positive, so it is the delay. -/
theorem tickDelay_wait (n : Moment) :
    0 < (n.wholeSecond.add .second).nanos - n.wholeMilli.nanos ∧
      ((tickDelay n).nanos : Int) = (n.wholeSecond.add .second).nanos - n.wholeMilli.nanos := by
  have hd := nanos_tickDelay n
  unfold Moment.subMilli nanosPerSecond nanosPerMilli at hd
  unfold Moment.wholeSecond Moment.wholeMilli Moment.add Duration.second nanosPerSecond
    nanosPerMilli
  dsimp only
  omega

/-- The millisecond is all that the delay depends on. -/
theorem tickDelay_moment {c : Civil} (h : c.nano < nanosPerSecond) :
    tickDelay c.moment = ⟨(1000 - c.nano / nanosPerMilli) * nanosPerMilli⟩ := by
  have hd := nanos_tickDelay c.moment
  have hnanos := c.nanos_moment h
  have hvalue : (tickDelay c.moment).nanos = (1000 - c.nano / nanosPerMilli) * nanosPerMilli := by
    unfold Moment.subMilli at hd
    unfold nanosPerSecond nanosPerMilli at *
    omega
  rw [← hvalue]

theorem nanos_add_tickDelay_moment {c : Civil} (h : c.exists = true) :
    (c.moment.add (tickDelay c.moment)).nanos =
      c.nextSecond.moment.nanos + (c.nano % nanosPerMilli : Nat) := by
  obtain ⟨_, _, _, _, _, _, hnano⟩ := c.exists_iff.mp h
  have hnanos := c.nanos_moment hnano
  rw [nanos_add_tickDelay, Civil.moment_nextSecond h]
  unfold Moment.subMilli
  unfold nanosPerSecond nanosPerMilli at *
  omega

/-- The first whole second behind the one in which a moment lies. -/
theorem wholeSecond_first {c : Civil} (h : c.exists = true) :
    c.nextSecond.moment.wholeSecond = c.nextSecond.moment ∧
      c.moment.wholeSecond.nanos < c.nextSecond.moment.nanos ∧
      ∀ t : Moment, t.wholeSecond = t → c.moment.wholeSecond.nanos < t.nanos →
        c.nextSecond.moment.nanos ≤ t.nanos := by
  have hnext := Civil.moment_nextSecond h
  unfold Moment.seconds at hnext
  unfold Moment.wholeSecond nanosPerSecond at *
  dsimp only
  refine ⟨?_, by omega, fun t ht hlt => ?_⟩
  · have hrest : c.nextSecond.moment.nanos % ((1000000000 : Nat) : Int) = 0 := by omega
    rw [hrest, Int.sub_zero]
  · have hrest := congrArg Moment.nanos ht
    dsimp only at hrest
    omega

/--
For calendar and clock fields that exist, and whose next second exists too: the delay is a whole
number of milliseconds from 1 to 1000, what the millisecond lacks to a full second; the wait is
positive, so nothing stands in for it. The next second is the first whole one behind the second of
`now`, and the delay leads there or less than a millisecond further, with all fields of the next
second and the nanoseconds that a millisecond does not tell. The millisecond alone decides the
delay.
-/
theorem tickDelay_reaches_nextSecond {c : Civil} {now : Moment}
    (hnow : Moment.ofCivil? c = some now) (hlimit : c.nextSecond.date.year ≤ lastYear) :
    (∃ k, (tickDelay now).nanos = k * nanosPerMilli ∧ 1 ≤ k ∧ k ≤ 1000 ∧
      k = 1000 - c.nano / nanosPerMilli) ∧
    (0 < (now.wholeSecond.add .second).nanos - now.wholeMilli.nanos ∧
      ((tickDelay now).nanos : Int) =
        (now.wholeSecond.add .second).nanos - now.wholeMilli.nanos) ∧
    (∃ next, Moment.ofCivil? c.nextSecond = some next ∧
      (next.wholeSecond = next ∧ now.wholeSecond.nanos < next.nanos ∧
        ∀ t : Moment, t.wholeSecond = t → now.wholeSecond.nanos < t.nanos → next.nanos ≤ t.nanos) ∧
      next.nanos ≤ (now.add (tickDelay now)).nanos ∧
      (now.add (tickDelay now)).nanos < next.nanos + nanosPerMilli ∧
      (now.add (tickDelay now) = next ↔ c.nano % nanosPerMilli = 0)) ∧
    (now.add (tickDelay now)).civil = c.nextSecond.withNano (c.nano % nanosPerMilli) ∧
    ∀ c' now', Moment.ofCivil? c' = some now' →
      c'.nano / nanosPerMilli = c.nano / nanosPerMilli → tickDelay now' = tickDelay now := by
  obtain ⟨h, rfl⟩ := Moment.ofCivil?_eq_some_iff.mp hnow
  obtain ⟨_, _, _, _, _, _, hnano⟩ := c.exists_iff.mp h
  have hnext : c.nextSecond.exists = true := Civil.exists_nextSecond h hlimit
  have hadd := nanos_add_tickDelay_moment h
  have hsub : c.nano % nanosPerMilli < nanosPerMilli := Nat.mod_lt _ (by decide)
  refine ⟨⟨1000 - c.nano / nanosPerMilli, ?_, ?_, ?_, rfl⟩, ?_, ?_, ?_, ?_⟩
  · rw [tickDelay_moment hnano]
  · unfold nanosPerSecond at hnano
    unfold nanosPerMilli
    omega
  · exact Nat.sub_le _ _
  · exact tickDelay_wait c.moment
  · refine ⟨c.nextSecond.moment, Moment.ofCivil?_eq_some_iff.mpr ⟨hnext, rfl⟩,
      wholeSecond_first h, by omega, by omega, ?_⟩
    constructor
    · intro heq
      rw [heq] at hadd
      omega
    · intro hrest
      rw [hrest] at hadd
      exact Moment.eq_of_nanos (by omega)
  · have hfields : c.moment.add (tickDelay c.moment) =
        (c.nextSecond.withNano (c.nano % nanosPerMilli)).moment :=
      Moment.eq_of_nanos (hadd.trans (c.moment_nextSecond_withNano _).symm)
    have hlt : c.nano % nanosPerMilli < nanosPerSecond := by
      unfold nanosPerSecond
      unfold nanosPerMilli at hsub ⊢
      omega
    rw [hfields, Civil.civil_moment (Civil.exists_withNano hnext hlt)]
  · intro c' now' hnow' hmilli
    obtain ⟨h', rfl⟩ := Moment.ofCivil?_eq_some_iff.mp hnow'
    obtain ⟨_, _, _, _, _, _, hnano'⟩ := c'.exists_iff.mp h'
    rw [tickDelay_moment hnano, tickDelay_moment hnano', hmilli]

/-- The last millisecond before a leap day, in a year before the year 0. -/
theorem tickDelay_reaches_leapDay :
    let c : Civil := ⟨⟨-4, 2, 28⟩, 23, 59, 59, 999500000⟩
    let c' : Civil := ⟨⟨2022, 8, 18⟩, 16, 12, 0, 999000001⟩
    Moment.ofCivil? c = some c.moment ∧ c.nextSecond.date.year ≤ lastYear ∧
      c.nextSecond = ⟨⟨-4, 2, 29⟩, 0, 0, 0, 0⟩ ∧
      (c.moment.add (tickDelay c.moment)).civil = ⟨⟨-4, 2, 29⟩, 0, 0, 0, 500000⟩ ∧
      (∃ k, (tickDelay c.moment).nanos = k * nanosPerMilli ∧ k = 1) ∧
      Moment.ofCivil? c' = some c'.moment ∧ tickDelay c'.moment = tickDelay c.moment := by
  intro c c'
  have hnow : Moment.ofCivil? c = some c.moment := by decide
  have hlimit : c.nextSecond.date.year ≤ lastYear := by decide
  have hother : Moment.ofCivil? c' = some c'.moment := by decide
  obtain ⟨⟨k, hk, _, _, hmilli⟩, _, _, hcivil, hsame⟩ := tickDelay_reaches_nextSecond hnow hlimit
  exact ⟨hnow, hlimit, by decide, hcivil.trans (by decide), ⟨k, hk, hmilli.trans (by decide)⟩,
    hother, hsame c' _ hother (by decide)⟩

end Crond
