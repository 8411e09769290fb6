import Crond.Proofs.Calendar.Dates

/-
  The next second as a calendar and a clock show it.

  Counting one second on carries into the minute, the hour, the day, the month and the year
  (`Civil.nextSecond`). The fields that come out exist again, and their moment is the whole second
  behind the one counted from: `Date.dayNumber_next` for the day, `Civil.moment_nextSecond` for all
  of it.
-/

namespace Crond.Calendar

namespace Date

/-- The day after. -/
def next (d : Date) : Date :=
  if d.day < monthLength d.year d.month then ⟨d.year, d.month, d.day + 1⟩
  else if d.month < 12 then ⟨d.year, d.month + 1, 1⟩
  else ⟨d.year + 1, 1, 1⟩

variable {d : Date}

theorem monthLength_pos (year : Int) {month : Nat} (hlow : 1 ≤ month) (hhigh : month ≤ 12) :
    1 ≤ monthLength year month := by
  cases hleap : isLeapYear year <;> interval_cases month <;> simp [monthLength, hleap]

theorem exists_next (h : d.exists = true) : d.next.exists = true := by
  obtain ⟨hlow, hhigh⟩ := month_of_exists h
  obtain ⟨hday, hlen⟩ := d.exists_iff.mp h
  unfold next
  split
  · rw [exists_iff]
    dsimp only
    omega
  · split
    · have hpos : 1 ≤ monthLength d.year (d.month + 1) := monthLength_pos _ (by omega) (by omega)
      exact (exists_iff _).mpr ⟨Nat.le_refl 1, hpos⟩
    · have hpos : 1 ≤ monthLength (d.year + 1) 1 := monthLength_pos _ (by decide) (by decide)
      exact (exists_iff _).mpr ⟨Nat.le_refl 1, hpos⟩

/-- The leap day of a year stands at the end of the year from March before. -/
theorem daysToYear_eq_add (year : Int) :
    daysToYear year = daysToYear (year - 1) + if isLeapYear year then 366 else 365 := by
  have hleap := isLeapYear_iff year
  unfold daysToYear
  split
  · rename_i hyear
    obtain ⟨h4, h100⟩ := hleap.mp hyear
    omega
  · rename_i hyear
    rw [hleap] at hyear
    omega

theorem marchDay_month_end (year : Int) {month : Nat} (hlow : 1 ≤ month) (hhigh : month < 12)
    (hother : month ≠ 2) :
    (Date.mk year (month + 1) 1).marchDay =
      (Date.mk year month (monthLength year month)).marchDay + 1 := by
  unfold marchDay daysBefore
  interval_cases month
  case «2» => exact absurd rfl hother
  all_goals simp [monthLength]

/-- The first day of a month comes one day after the last day of the month before. -/
theorem dayNumber_month_end (year : Int) {month : Nat} (hlow : 1 ≤ month) (hhigh : month < 12) :
    (Date.mk year (month + 1) 1).dayNumber =
      (Date.mk year month (monthLength year month)).dayNumber + 1 := by
  rw [dayNumber_eq, dayNumber_eq]
  -- Between February and March a year from March ends, perhaps with a leap day.
  by_cases hmonth : month = 2
  · subst hmonth
    have hmarch : daysToYear (Date.mk year (2 + 1) 1).marchYear =
        daysToYear (year - 1) + if isLeapYear year then 366 else 365 := daysToYear_eq_add year
    have hfirst : (Date.mk year (2 + 1) 1).marchDay = 0 := by simp [marchDay, daysBefore]
    have hfebruary : (Date.mk year 2 (monthLength year 2)).marchYear = year - 1 := rfl
    rw [hmarch, hfirst, hfebruary, monthLength_february]
    cases isLeapYear year
    · have hlast : (Date.mk year 2 28).marchDay = 364 := by simp [marchDay, daysBefore]
      simp only [Bool.false_eq_true, if_false, hlast]
      omega
    · have hlast : (Date.mk year 2 29).marchDay = 365 := by simp [marchDay, daysBefore]
      simp only [if_true, hlast]
      omega
  · have hyear : (Date.mk year (month + 1) 1).marchYear =
        (Date.mk year month (monthLength year month)).marchYear := by
      unfold marchYear
      dsimp only
      split <;> split <;> omega
    rw [hyear, marchDay_month_end year hlow hhigh hmonth]
    omega

theorem dayNumber_year_end (year : Int) :
    (Date.mk (year + 1) 1 1).dayNumber = (Date.mk year 12 31).dayNumber + 1 := by
  have hyear : (Date.mk (year + 1) 1 1).marchYear = year := Int.add_sub_cancel year 1
  have hfirst : (Date.mk (year + 1) 1 1).marchDay = 306 := by simp [marchDay, daysBefore]
  have hlast : (Date.mk year 12 31).marchDay = 305 := by simp [marchDay, daysBefore]
  have hdecember : (Date.mk year 12 31).marchYear = year := rfl
  rw [dayNumber_eq, dayNumber_eq, hyear, hfirst, hlast, hdecember]
  omega

theorem dayNumber_next (h : d.exists = true) : d.next.dayNumber = d.dayNumber + 1 := by
  obtain ⟨hlow, hhigh⟩ := month_of_exists h
  obtain ⟨hday, hlen⟩ := d.exists_iff.mp h
  obtain ⟨year, month, day⟩ := d
  unfold next
  dsimp only at *
  split
  · rw [dayNumber_eq, dayNumber_eq]
    unfold marchYear marchDay
    dsimp only
    omega
  · have hlast : day = monthLength year month := by omega
    split
    · rw [hlast, dayNumber_month_end year hlow (by omega)]
    · have hmonth : month = 12 := by omega
      rw [hlast, hmonth]
      exact dayNumber_year_end year

end Date

namespace Civil

/-- The beginning of the next second. -/
def nextSecond (c : Civil) : Civil :=
  if c.second < 59 then ⟨c.date, c.hour, c.minute, c.second + 1, 0⟩
  else if c.minute < 59 then ⟨c.date, c.hour, c.minute + 1, 0, 0⟩
  else if c.hour < 23 then ⟨c.date, c.hour + 1, 0, 0, 0⟩
  else ⟨c.date.next, 0, 0, 0, 0⟩

variable {c : Civil}

theorem nano_nextSecond (c : Civil) : c.nextSecond.nano = 0 := by
  unfold nextSecond
  split
  · rfl
  · split
    · rfl
    · split <;> rfl

/-- Only the end of the calendar can keep the next second from existing. -/
theorem exists_nextSecond (h : c.exists = true) (hlimit : c.nextSecond.date.year ≤ lastYear) :
    c.nextSecond.exists = true := by
  obtain ⟨hfirst, hlast, hdate, hhour, hminute, hsecond, hnano⟩ := c.exists_iff.mp h
  have hzero : 0 < nanosPerSecond := by decide
  have hstart : 0 < 60 := by decide
  have hnext : firstYear ≤ c.date.next.year := by
    unfold Date.next
    split
    · exact hfirst
    · split
      · exact hfirst
      · dsimp only
        omega
  rw [exists_iff]
  unfold nextSecond at hlimit ⊢
  split
  · exact ⟨hfirst, hlast, hdate, hhour, hminute, by dsimp only; omega, hzero⟩
  · split
    · exact ⟨hfirst, hlast, hdate, hhour, by dsimp only; omega, hstart, hzero⟩
    · split
      · exact ⟨hfirst, hlast, hdate, by dsimp only; omega, hstart, hstart, hzero⟩
      · simp only [*, if_false] at hlimit
        exact ⟨hnext, hlimit, Date.exists_next hdate, Nat.zero_lt_succ 23, hstart, hstart, hzero⟩

theorem nanos_moment (h : c.nano < nanosPerSecond) :
    c.moment.nanos = c.moment.seconds * nanosPerSecond + c.nano := by
  rw [seconds_moment h]
  rfl

/-- The moment of the next second is one second after the second counted from. -/
theorem moment_nextSecond (h : c.exists = true) :
    c.nextSecond.moment.nanos = (c.moment.seconds + 1) * nanosPerSecond := by
  obtain ⟨_, _, hdate, hhour, hminute, hsecond, hnano⟩ := c.exists_iff.mp h
  have hday := Date.dayNumber_next hdate
  rw [seconds_moment hnano]
  unfold nextSecond Civil.moment secondsPerDay nanosPerSecond
  split
  · dsimp only
    omega
  · split
    · dsimp only
      omega
    · split
      · dsimp only
        omega
      · dsimp only
        rw [hday]
        omega

/-- The same second, at another nanosecond. -/
def withNano (c : Civil) (n : Nat) : Civil := ⟨c.date, c.hour, c.minute, c.second, n⟩

theorem moment_nextSecond_withNano (c : Civil) (n : Nat) :
    (c.nextSecond.withNano n).moment.nanos = c.nextSecond.moment.nanos + n := by
  unfold withNano Civil.moment
  dsimp only
  rw [nano_nextSecond]
  omega

theorem exists_withNano (h : c.exists = true) {n : Nat} (hn : n < nanosPerSecond) :
    (c.withNano n).exists = true := by
  obtain ⟨hfirst, hlast, hdate, hhour, hminute, hsecond, _⟩ := c.exists_iff.mp h
  exact (exists_iff _).mpr ⟨hfirst, hlast, hdate, hhour, hminute, hsecond, hn⟩

end Civil

theorem Moment.ofCivil?_eq_some_iff {c : Civil} {t : Moment} :
    Moment.ofCivil? c = some t ↔ c.exists = true ∧ c.moment = t := by
  unfold Moment.ofCivil?
  split <;> simp [*]

end Crond.Calendar
