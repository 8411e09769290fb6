import Mathlib.Tactic.IntervalCases
import Crond.Calendar.Moment

/-
  Dates and their day numbers, there and back.

  A day of a year that begins in March is placed by the century of its 400 years, by the group of
  four years in that century, by the year in that group and by its position in the year. These
  parts make up a day number (`dayNumber_eq`) and are found again in it (`ofDayNumber_eq`), so a
  date is the date of its day number (`ofDayNumber_dayNumber`), and calendar and clock fields are
  the fields of their moment (`civil_moment`).

  In a leap year every month has its largest length. Four years on a date falls five days later in
  the week, so every day of a month falls on every day of the week in one of seven leap years
  (`exists_leapYear_weekday`).
-/

namespace Crond.Calendar

/-! ## Years from March -/

/-- The year in which a date stands, when years begin in March. -/
def Date.marchYear (d : Date) : Int := if d.month ≤ 2 then d.year - 1 else d.year

/-- The number of days from 1 March to a date. -/
def Date.marchDay (d : Date) : Nat := daysBefore ((d.month + 9) % 12) + d.day - 1

/-- The days from 1 March of the year 0 to 1 March of another year. -/
def daysToYear (year : Int) : Int := 365 * year + year / 4 - year / 100 + year / 400

theorem Date.dayNumber_eq (d : Date) :
    d.dayNumber = daysToYear d.marchYear + d.marchDay - epochOffset := rfl

/-- The place of a day in 400 years: the century, the group of four years in it, the year in the
    group and the day in the year. The last year of a group has a leap day at its end, that of
    the last group of a century only in the last century. -/
structure Placed (century group year day : Nat) : Prop where
  century_le : century ≤ 3
  group_le : group ≤ 24
  year_le : year ≤ 3
  day_le : day ≤ 365
  leapDay : day = 365 → year = 3 ∧ (group = 24 → century = 3)

theorem daysToYear_eq (era : Int) {century group year day : Nat}
    (h : Placed century group year day) :
    daysToYear (400 * era + (100 * century + 4 * group + year : Nat)) =
      146097 * era + (36524 * century + 1461 * group + 365 * year : Nat) := by
  obtain ⟨hc, hg, hy, _, _⟩ := h
  unfold daysToYear
  omega

/-- The parts of a day number are found again in it. -/
theorem ofDayNumber_eq {n era : Int} {century group year day : Nat}
    (h : Placed century group year day)
    (hn : n + epochOffset =
      146097 * era + (36524 * century + 1461 * group + 365 * year + day : Nat)) :
    Date.ofDayNumber n =
      Date.ofDayOfYear (400 * era + (100 * century + 4 * group + year : Nat)) day := by
  obtain ⟨hc, hg, hy, hd, hleap⟩ := h
  have hera : (n + epochOffset) / 146097 = era := by omega
  have hinEra : ((n + epochOffset) % 146097).toNat =
      36524 * century + 1461 * group + 365 * year + day := by omega
  have hcentury :
      min 3 ((36524 * century + 1461 * group + 365 * year + day) / 36524) = century := by omega
  have hinCentury : 36524 * century + 1461 * group + 365 * year + day - 36524 * century =
      1461 * group + 365 * year + day := by omega
  have hgroup : (1461 * group + 365 * year + day) / 1461 = group := by omega
  have hinGroup : (1461 * group + 365 * year + day) % 1461 = 365 * year + day := by omega
  have hyear : min 3 ((365 * year + day) / 365) = year := by omega
  have hday : 365 * year + day - 365 * year = day := by omega
  unfold Date.ofDayNumber
  simp only [hera, hinEra, hcentury, hinCentury, hinGroup, hyear, hday]
  congr 1
  omega

/-! ## Dates -/

theorem isLeapYear_iff (year : Int) :
    isLeapYear year = true ↔ year % 4 = 0 ∧ (year % 100 ≠ 0 ∨ year % 400 = 0) := by
  simp [isLeapYear]

theorem Date.exists_iff (d : Date) :
    d.exists = true ↔ 1 ≤ d.day ∧ d.day ≤ monthLength d.year d.month := by
  simp [Date.exists]

theorem monthLength_february (year : Int) :
    monthLength year 2 = if isLeapYear year then 29 else 28 := rfl

/-- A number with days is a month. -/
theorem month_of_monthLength_pos {year : Int} {month : Nat} (h : 0 < monthLength year month) :
    1 ≤ month ∧ month ≤ 12 := by
  unfold monthLength at h
  split at h <;> omega

/-- A month ends before the next one begins. -/
theorem daysBefore_add_monthLength (year : Int) {month : Nat} (hlow : 1 ≤ month)
    (hhigh : month ≤ 12) :
    daysBefore ((month + 9) % 12) + monthLength year month ≤ daysBefore ((month + 9) % 12 + 1) := by
  cases hleap : isLeapYear year <;> interval_cases month <;> simp [monthLength, hleap, daysBefore]

namespace Date

variable {d : Date}

theorem month_of_exists (h : d.exists = true) : 1 ≤ d.month ∧ d.month ≤ 12 := by
  obtain ⟨hday, hlen⟩ := d.exists_iff.mp h
  have hpos : 0 < monthLength d.year d.month := by omega
  exact month_of_monthLength_pos hpos

/-- The last day of a year from March is a leap day. -/
theorem marchDay_le (h : d.exists = true) :
    d.marchDay ≤ 365 ∧ (d.marchDay = 365 → d.month = 2 ∧ isLeapYear d.year = true) := by
  obtain ⟨hlow, hhigh⟩ := month_of_exists h
  obtain ⟨hday, hlen⟩ := d.exists_iff.mp h
  have hnext := daysBefore_add_monthLength d.year hlow hhigh
  unfold marchDay
  by_cases hm : d.month = 2
  · rw [hm] at hlen ⊢
    rw [monthLength_february] at hlen
    unfold daysBefore
    cases hleap : isLeapYear d.year with
    | true =>
      rw [hleap, if_pos rfl] at hlen
      exact ⟨by omega, fun _ => ⟨rfl, rfl⟩⟩
    | false =>
      rw [hleap, if_neg (by decide)] at hlen
      exact ⟨by omega, fun h365 => by omega⟩
  · unfold daysBefore at hnext ⊢
    omega

/-- A date that exists has a place. -/
theorem exists_placed (h : d.exists = true) :
    ∃ (era : Int) (century group year : Nat),
      d.marchYear = 400 * era + (100 * century + 4 * group + year : Nat) ∧
      Placed century group year d.marchDay := by
  obtain ⟨hle, hlast⟩ := marchDay_le h
  have hyear : d.marchYear = 400 * (d.marchYear / 400) +
      (100 * ((d.marchYear % 400).toNat / 100) + 4 * ((d.marchYear % 400).toNat % 100 / 4) +
        (d.marchYear % 400).toNat % 4 : Nat) := by omega
  refine ⟨_, _, _, _, hyear, by omega, by omega, by omega, hle, fun hday => ?_⟩
  obtain ⟨hmonth, hleap⟩ := hlast hday
  have hmarch : d.marchYear = d.year - 1 := if_pos (by omega)
  rw [isLeapYear_iff] at hleap
  omega

theorem ofDayOfYear_marchDay (h : d.exists = true) :
    ofDayOfYear d.marchYear d.marchDay = d := by
  obtain ⟨hlow, hhigh⟩ := month_of_exists h
  obtain ⟨hday, hlen⟩ := d.exists_iff.mp h
  have hwinter : d.month ≤ 2 →
      ¬ (d.month + 9) % 12 < 10 ∧ (d.month + 9) % 12 - 9 = d.month := by omega
  have hsummer : ¬ d.month ≤ 2 →
      (d.month + 9) % 12 < 10 ∧ (d.month + 9) % 12 + 3 = d.month := by omega
  have hnext := daysBefore_add_monthLength d.year hlow hhigh
  -- The month is found from the number of days before it, whatever the day is.
  have hmonth : (5 * d.marchDay + 2) / 153 = (d.month + 9) % 12 := by
    unfold marchDay
    unfold daysBefore at hnext ⊢
    omega
  have hrest : d.marchDay - daysBefore ((d.month + 9) % 12) + 1 = d.day := by
    unfold marchDay
    omega
  unfold ofDayOfYear marchYear
  simp only [hmonth, hrest]
  by_cases hm : d.month ≤ 2
  · obtain ⟨hlast, hback⟩ := hwinter hm
    rw [if_neg hlast, if_pos hm, hback, Int.sub_add_cancel]
  · obtain ⟨hfirst, hback⟩ := hsummer hm
    rw [if_pos hfirst, if_neg hm, hback]

/-- A date is the date of its day number. -/
theorem ofDayNumber_dayNumber (h : d.exists = true) : ofDayNumber d.dayNumber = d := by
  obtain ⟨era, century, group, year, hyear, hplaced⟩ := exists_placed h
  have hn : d.dayNumber + epochOffset =
      146097 * era + (36524 * century + 1461 * group + 365 * year + d.marchDay : Nat) := by
    rw [d.dayNumber_eq, hyear, daysToYear_eq era hplaced]
    omega
  rw [ofDayNumber_eq hplaced hn, ← hyear, ofDayOfYear_marchDay h]

example : ofDayNumber (Date.mk 0 2 29).dayNumber = ⟨0, 2, 29⟩ := by decide

end Date

/-! ## Moments -/

/-- The largest length of a month, that of a leap year. -/
def longestLength (month : Nat) : Nat := monthLength 2000 month

theorem monthLength_le_longestLength (year : Int) (month : Nat) :
    monthLength year month ≤ longestLength month := by
  unfold longestLength monthLength
  split
  · split <;> decide
  all_goals exact Nat.le_refl _

theorem monthLength_le (year : Int) (month : Nat) : monthLength year month ≤ 31 := by
  unfold monthLength
  split
  · split <;> decide
  all_goals decide

theorem monthLength_of_isLeapYear {year : Int} (h : isLeapYear year = true) (month : Nat) :
    monthLength year month = longestLength month := by
  unfold longestLength monthLength
  rw [h]
  rfl

namespace Civil

theorem exists_iff (c : Civil) :
    c.exists = true ↔ firstYear ≤ c.date.year ∧ c.date.year ≤ lastYear ∧ c.date.exists = true ∧
      c.hour < 24 ∧ c.minute < 60 ∧ c.second < 60 ∧ c.nano < nanosPerSecond := by
  simp [Civil.exists, and_assoc]

theorem seconds_moment {c : Civil} (h : c.nano < nanosPerSecond) :
    c.moment.seconds =
      c.date.dayNumber * secondsPerDay + (3600 * c.hour + 60 * c.minute + c.second : Nat) := by
  unfold Moment.seconds Civil.moment
  unfold nanosPerSecond at h ⊢
  dsimp only
  omega

theorem dayNumber_moment {c : Civil} (h : c.exists = true) :
    c.moment.dayNumber = c.date.dayNumber := by
  obtain ⟨_, _, _, hhour, hminute, hsecond, hnano⟩ := c.exists_iff.mp h
  unfold Moment.dayNumber
  rw [seconds_moment hnano]
  unfold secondsPerDay
  omega

theorem secondOfDay_moment {c : Civil} (h : c.exists = true) :
    c.moment.secondOfDay = 3600 * c.hour + 60 * c.minute + c.second := by
  obtain ⟨_, _, _, hhour, hminute, hsecond, hnano⟩ := c.exists_iff.mp h
  unfold Moment.secondOfDay
  rw [seconds_moment hnano]
  unfold secondsPerDay
  omega

/-- Calendar and clock fields are the fields of their moment. -/
theorem civil_moment {c : Civil} (h : c.exists = true) : c.moment.civil = c := by
  obtain ⟨_, _, hdate, _, hminute, hsecond, hnano⟩ := c.exists_iff.mp h
  have hnanos : (c.moment.nanos % nanosPerSecond).toNat = c.nano := by
    unfold Civil.moment
    unfold nanosPerSecond at hnano ⊢
    dsimp only
    omega
  have hclock : (3600 * c.hour + 60 * c.minute + c.second) / 3600 = c.hour ∧
      (3600 * c.hour + 60 * c.minute + c.second) / 60 % 60 = c.minute ∧
      (3600 * c.hour + 60 * c.minute + c.second) % 60 = c.second := by omega
  unfold Moment.civil Moment.date Moment.hour Moment.minute Moment.second
  rw [dayNumber_moment h, secondOfDay_moment h, hnanos, Date.ofDayNumber_dayNumber hdate,
    hclock.1, hclock.2.1, hclock.2.2]

example : (Civil.mk ⟨2022, 8, 18⟩ 16 12 56 92000000).moment.civil =
    ⟨⟨2022, 8, 18⟩, 16, 12, 56, 92000000⟩ := by decide

end Civil

/-! ## Days of the week -/

theorem weekdayOf_lt (n : Int) : weekdayOf n < 7 := by
  unfold weekdayOf
  omega

/-- From a leap year on, a date falls five days later in the week every four years, as long as
    no leap day is left out. -/
theorem dayNumber_leapYears (month day : Nat) {k : Nat} (hk : k ≤ 6) :
    (Date.mk (2000 + 4 * k) month day).dayNumber =
      (Date.mk 2000 month day).dayNumber + 1461 * k := by
  rw [Date.dayNumber_eq, Date.dayNumber_eq]
  unfold daysToYear Date.marchYear Date.marchDay
  dsimp only
  split <;> omega

/-- Every day of a month falls on every day of the week in some leap year. -/
theorem exists_leapYear_weekday {month day : Nat} (hday : 1 ≤ day)
    (hlen : day ≤ longestLength month) (weekday : Nat) (hweekday : weekday < 7) :
    ∃ year : Int, 2000 ≤ year ∧ year ≤ 2024 ∧ (Date.mk year month day).exists = true ∧
      weekdayOf (Date.mk year month day).dayNumber = weekday := by
  -- Three is the inverse of five modulo seven.
  let first : Int := (Date.mk 2000 month day).dayNumber + 4
  let k : Nat := (3 * (weekday - first) % 7).toNat
  have hk : k ≤ 6 := by omega
  refine ⟨2000 + 4 * k, by omega, by omega, ?_, ?_⟩
  · have hleap : isLeapYear (2000 + 4 * k) = true := (isLeapYear_iff _).mpr (by omega)
    rw [Date.exists_iff, monthLength_of_isLeapYear hleap]
    exact ⟨hday, hlen⟩
  · unfold weekdayOf
    rw [dayNumber_leapYears month day hk]
    omega

end Crond.Calendar
