import Crond.Proofs.Calendar.Dates
import Crond.Proofs.Schedule.Canonical
import Crond.Proofs.Schedule.Meaning

/-
  Which expressions are ever due.

  An alternative of a field is the pattern of the field, or a member of it if it is a union. Four
  kinds hold none of the values of their field (`Pattern.isDead`): a span against its order, alone
  or with a step, a step of 0, and steps from 0 that are longer than a field that begins at 1. All
  others hold one (`exists_contains_iff`); here the shape of what is read counts, and that its end
  points keep to the bounds.

  Proved: `isEverDue_parse_iff`. An expression is due at some moment exactly when every field of
  it has an alternative that is not dead and one of its days comes in one of its months, in a leap
  year at least. The day of the
  week forbids nothing, since every day of a month falls on each of them.
-/

namespace Crond

open Calendar

theorem Field.low_eq (f : Field) : f.low = 0 ∨ f.low = 1 := by cases f <;> decide

namespace Pattern

/-! ## Alternatives -/

/-- The patterns of which one has to hold a value. -/
def alternatives : Pattern → List Pattern
  | union ps => ps
  | p => [p]

/-- Whether an alternative of a field holds no value of the field. -/
def isDead (f : Field) : Pattern → Bool
  | span a b => b < a
  | every (span a b) n => n = 0 || b < a
  | every any n => n = 0 || (f.low = 1 && f.high < n.natAbs)
  | every _ n => n = 0
  | _ => false

/-- Whether a pattern holds a value of a field. -/
def Holds (f : Field) (p : Pattern) : Prop :=
  ∃ v : Int, f.low ≤ v ∧ v ≤ f.high ∧ p.contains v = true

theorem divides_zero {n : Int} (hn : n ≠ 0) : divides n 0 = true :=
  (divides_iff n 0).mpr ⟨hn, fun h => absurd h.1 (by decide), Int.dvd_zero n⟩

/-- A value that is on a step of an alternative was counted with a step other than 0. -/
theorem ne_zero_of_contains_every {p : Pattern} {n v : Int}
    (h : (every p n).contains v = true) : n ≠ 0 := by
  rw [contains_every, Bool.and_eq_true] at h
  unfold onStep at h
  split at h
  · exact ((divides_iff n _).mp h.2).1
  · exact absurd h.2 (by decide)

section

variable {f : Field} {n : Int}

theorem holds_any (f : Field) : Holds f any := ⟨f.low, Int.le_refl _, f.low_le_high, rfl⟩

theorem holds_value {c : Int} (hr : (value c).inRange f.low f.high = true) : Holds f (value c) := by
  simp only [inRange, Bool.and_eq_true, decide_eq_true_eq] at hr
  exact ⟨c, hr.1, hr.2, by simp⟩

theorem holds_span_iff {a b : Int} (hr : (span a b).inRange f.low f.high = true) :
    Holds f (span a b) ↔ a ≤ b := by
  simp only [inRange, Bool.and_eq_true, decide_eq_true_eq] at hr
  constructor
  · rintro ⟨v, _, _, hv⟩
    simp only [contains_span, Bool.and_eq_true, decide_eq_true_eq] at hv
    omega
  · intro hab
    exact ⟨a, hr.1, by omega, by simp [hab]⟩

theorem holds_every_value {c : Int} (hr : (value c).inRange f.low f.high = true) (hn : n ≠ 0) :
    Holds f (every (value c) n) := by
  have hlargest : (0 : Int) ≤ largest := by decide
  simp only [inRange, Bool.and_eq_true, decide_eq_true_eq] at hr
  exact ⟨c, hr.1, hr.2, by simp [reaches, onStep, distance?, hlargest, divides_zero hn]⟩

theorem holds_every_span_iff {a b : Int} (hr : (span a b).inRange f.low f.high = true)
    (hn : n ≠ 0) : Holds f (every (span a b) n) ↔ a ≤ b := by
  have hlargest : (0 : Int) ≤ largest := by decide
  simp only [inRange, Bool.and_eq_true, decide_eq_true_eq] at hr
  constructor
  · rintro ⟨v, _, _, hv⟩
    simp only [contains_every, reaches, Bool.and_eq_true, decide_eq_true_eq] at hv
    omega
  · intro hab
    exact ⟨a, hr.1, by omega,
      by simp [reaches, onStep, distance?, hab, hlargest, divides_zero hn]⟩

/-- Steps from 0 reach a field that begins at 0 at once, and one that begins at 1 with the first
    step, if that is not too long. -/
theorem holds_every_any_iff (f : Field) (hn : n ≠ 0) :
    Holds f (every any n) ↔ (f.low = 1 → n.natAbs ≤ f.high) := by
  have hcontains : ∀ v, (every any n).contains v = divides n v := fun v => rfl
  constructor
  · rintro ⟨v, hlow, hhigh, hv⟩ hone
    rw [hcontains, divides_iff] at hv
    have hle := Int.le_of_dvd (by omega) (Int.natAbs_dvd.mpr hv.2.2)
    omega
  · intro hle
    rcases f.low_eq with hlow | hlow
    · exact ⟨0, by omega, by have := f.low_le_high; omega, divides_zero hn⟩
    · refine ⟨n.natAbs, by omega, hle hlow, ?_⟩
      have hsmallest : (smallest : Int) < 0 := by decide
      rw [hcontains, divides_iff]
      exact ⟨hn, by omega, Int.dvd_natAbs_self⟩

end

/-- An alternative of what is read holds a value of its field unless it is dead. -/
theorem holds_term_iff {f : Field} {p : Pattern} (h : p.TermShape f)
    (hr : p.inRange f.low f.high = true) : Holds f p ↔ p.isDead f = false := by
  cases h with
  | base h =>
    cases h with
    | any => exact iff_of_true (holds_any f) rfl
    | value h => exact iff_of_true (holds_value hr) rfl
    | span ha hb => rw [holds_span_iff hr]; simp [isDead]
  | @every p n h hn =>
    by_cases hzero : n = 0
    · subst hzero
      refine iff_of_false ?_ (by cases h <;> simp [isDead])
      rintro ⟨v, _, _, hv⟩
      exact ne_zero_of_contains_every hv rfl
    · cases h with
      | any =>
        rw [holds_every_any_iff f hzero]
        simp [isDead, hzero]
      | value h => exact iff_of_true (holds_every_value hr hzero) (by simp [isDead, hzero])
      | span ha hb => rw [holds_every_span_iff hr hzero]; simp [isDead, hzero]

/-- What is read holds a value of its field exactly when an alternative is not dead. -/
theorem exists_contains_iff {f : Field} {p : Pattern} (h : p.FieldShape f)
    (hr : p.inRange f.low f.high = true) :
    Holds f p ↔ ∃ q ∈ p.alternatives, q.isDead f = false := by
  cases h with
  | term h =>
    have hone : p.alternatives = [p] := by
      cases h with
      | base h => cases h <;> rfl
      | every h hn => rfl
    rw [hone, holds_term_iff h hr]
    simp
  | @union ps hlen h =>
    rw [inRange_union, List.all_eq_true] at hr
    have hunion : Holds f (union ps) ↔ ∃ q ∈ ps, Holds f q := by
      constructor
      · rintro ⟨v, hlow, hhigh, hv⟩
        rw [contains_union, List.any_eq_true] at hv
        obtain ⟨q, hq, hv⟩ := hv
        exact ⟨q, hq, v, hlow, hhigh, hv⟩
      · rintro ⟨q, hq, v, hlow, hhigh, hv⟩
        refine ⟨v, hlow, hhigh, ?_⟩
        rw [contains_union, List.any_eq_true]
        exact ⟨q, hq, hv⟩
    rw [hunion]
    exact exists_congr fun q => and_congr_right fun hq => holds_term_iff (h q hq) (hr q hq)

/-- The values of a field are natural numbers. -/
theorem Holds.exists_nat {f : Field} {p : Pattern} (h : Holds f p) :
    ∃ n : Nat, (n : Int) ≤ f.high ∧ p.contains n = true := by
  obtain ⟨v, hlow, hhigh, hv⟩ := h
  obtain ⟨n, rfl⟩ : ∃ n : Nat, v = n := by
    refine Int.eq_ofNat_of_zero_le ?_
    rcases f.low_eq with hf | hf <;> omega
  exact ⟨n, hhigh, hv⟩

end Pattern

/-! ## Moments -/

theorem Field.reading_moment {c : Civil} (h : c.exists = true) (f : Field) :
    f.reading c.moment = Field.assign (c.second : Int) c.minute c.hour c.date.day c.date.month
      (weekdayOf c.date.dayNumber) f := by
  have hc := Civil.civil_moment h
  cases f with
  | second => exact congrArg (fun c : Civil => (c.second : Int)) hc
  | minute => exact congrArg (fun c : Civil => (c.minute : Int)) hc
  | hour => exact congrArg (fun c : Civil => (c.hour : Int)) hc
  | day => exact congrArg (fun c : Civil => (c.date.day : Int)) hc
  | month => exact congrArg (fun c : Civil => (c.date.month : Int)) hc
  | weekday => exact congrArg (fun n => (weekdayOf n : Int)) (Civil.dayNumber_moment h)

/-- Whatever exists shows legal values in all fields. -/
theorem Field.reading_bounds {c : Civil} (h : c.exists = true) (f : Field) :
    f.low ≤ f.reading c.moment ∧ f.reading c.moment ≤ f.high := by
  obtain ⟨_, _, hdate, hhour, hminute, hsecond, _⟩ := c.exists_iff.mp h
  obtain ⟨hmonth, hmonth'⟩ := Date.month_of_exists hdate
  obtain ⟨hday, hlen⟩ := c.date.exists_iff.mp hdate
  have hlen' := monthLength_le c.date.year c.date.month
  have hweekday := weekdayOf_lt c.date.dayNumber
  rw [reading_moment h]
  cases f <;> simp only [Field.low, Field.high, Field.assign] <;> omega

namespace Schedule

/-- Whether there is a date and a time of day at which a schedule is due. -/
def IsEverDue (s : Schedule) : Prop := ∃ c : Civil, c.exists = true ∧ s.isDue c.moment = true

theorem Canonical.holds_iff {s : Schedule} (h : s.Canonical) (f : Field) :
    (s.pattern f).Holds f ↔ ∃ p ∈ (s.pattern f).alternatives, p.isDead f = false :=
  Pattern.exists_contains_iff (h.shape f) (Pattern.inRange_of_defect (h.defect f))

/-- A schedule is due at some moment if every field holds a value and a day comes in a month. -/
theorem isEverDue_of_holds {s : Schedule} (h : ∀ f : Field, (s.pattern f).Holds f)
    {month day : Nat} (hmonth : s.month.contains month = true) (hday : s.day.contains day = true)
    (hlow : 1 ≤ day) (hlen : day ≤ longestLength month) : s.IsEverDue := by
  obtain ⟨second, hs, hsecond⟩ := (h .second).exists_nat
  obtain ⟨minute, hm, hminute⟩ := (h .minute).exists_nat
  obtain ⟨hour, hh, hhour⟩ := (h .hour).exists_nat
  obtain ⟨weekday, hw, hweekday⟩ := (h .weekday).exists_nat
  simp only [Field.high] at hs hm hh hw
  obtain ⟨year, hfirst, hlast, hdate, hfalls⟩ :=
    exists_leapYear_weekday hlow hlen weekday (by omega)
  have hexists : (Civil.mk ⟨year, month, day⟩ hour minute second 0).exists = true := by
    refine (Civil.exists_iff _).mpr ⟨?_, ?_, hdate, ?_, ?_, ?_, (by decide : 0 < nanosPerSecond)⟩
    · exact Int.le_trans (by decide) hfirst
    · exact Int.le_trans hlast (by decide)
    · dsimp only; omega
    · dsimp only; omega
    · dsimp only; omega
  refine ⟨_, hexists, (s.isDue_iff _).mpr fun f => ?_⟩
  rw [Field.reading_moment hexists]
  cases f with
  | second => exact hsecond
  | minute => exact hminute
  | hour => exact hhour
  | day => exact hday
  | month => exact hmonth
  | weekday => rw [← hfalls] at hweekday; exact hweekday

theorem Canonical.isEverDue_iff {s : Schedule} (h : s.Canonical) :
    s.IsEverDue ↔
      (∀ f : Field, ∃ p ∈ (s.pattern f).alternatives, p.isDead f = false) ∧
      ∃ month day : Nat, s.month.contains month = true ∧ s.day.contains day = true ∧
        1 ≤ day ∧ day ≤ longestLength month := by
  constructor
  · rintro ⟨c, hexists, hdue⟩
    rw [isDue_iff] at hdue
    refine ⟨fun f => (h.holds_iff f).mp ?_, c.date.month, c.date.day, ?_, ?_, ?_⟩
    · obtain ⟨hlow, hhigh⟩ := Field.reading_bounds hexists f
      exact ⟨_, hlow, hhigh, hdue f⟩
    · have hmonth := hdue .month
      rwa [Field.reading_moment hexists] at hmonth
    · have hday := hdue .day
      rwa [Field.reading_moment hexists] at hday
    · obtain ⟨_, _, hdate, _⟩ := c.exists_iff.mp hexists
      obtain ⟨hday, hlen⟩ := c.date.exists_iff.mp hdate
      exact ⟨hday, Nat.le_trans hlen (monthLength_le_longestLength _ _)⟩
  · rintro ⟨halive, month, day, hmonth, hday, hlow, hlen⟩
    exact isEverDue_of_holds (fun f => (h.holds_iff f).mpr (halive f)) hmonth hday hlow hlen

theorem pattern_anyWeekday (s : Schedule) {f : Field} (hf : f ≠ .weekday) :
    ({ s with weekday := .any } : Schedule).pattern f = s.pattern f := by
  cases f with
  | weekday => exact absurd rfl hf
  | _ => rfl

theorem Canonical.anyWeekday {s : Schedule} (h : s.Canonical) :
    ({ s with weekday := .any } : Schedule).Canonical := by
  refine ⟨fun f => ?_, fun f => ?_⟩ <;> by_cases hf : f = .weekday
  · subst hf
    exact .term (.base .any)
  · rw [s.pattern_anyWeekday hf]
    exact h.shape f
  · subst hf
    rfl
  · rw [s.pattern_anyWeekday hf]
    exact h.defect f

/-- An expression is due at some moment exactly when every field has a live alternative and one of
    its days comes in one of its months. A day of the week that is not dead takes nothing away. -/
theorem isEverDue_parse_iff {expression : String} {s : Schedule} (h : parse expression = .ok s) :
    (s.IsEverDue ↔
      (∀ f : Field, ∃ p ∈ (s.pattern f).alternatives, p.isDead f = false) ∧
      ∃ month day : Nat, s.month.contains month = true ∧ s.day.contains day = true ∧
        1 ≤ day ∧ day ≤ longestLength month) ∧
    ((∃ p ∈ s.weekday.alternatives, p.isDead .weekday = false) →
      (s.IsEverDue ↔ ({ s with weekday := .any } : Schedule).IsEverDue)) := by
  have hcanonical : s.Canonical := canonical_of_read h
  refine ⟨hcanonical.isEverDue_iff, fun hweekday => ?_⟩
  rw [hcanonical.isEverDue_iff, hcanonical.anyWeekday.isEverDue_iff]
  refine and_congr_left fun _ => ⟨fun halive f => ?_, fun halive f => ?_⟩ <;>
    by_cases hf : f = .weekday
  · subst hf
    exact ⟨.any, List.mem_cons_self, rfl⟩
  · rw [s.pattern_anyWeekday hf]
    exact halive f
  · subst hf
    exact hweekday
  · rw [← s.pattern_anyWeekday hf]
    exact halive f

/-- The leap day falls on a Monday in some year; the 30th of February comes in none, and steps of
    13 from 0 reach no month. -/
theorem isEverDue_parse_leapDay :
    (∃ s, parse "59 0/7 3-5,9-8 29,31 FEB MON" = .ok s ∧ s.IsEverDue) ∧
    (∃ s, parse "* * * 30-31 2 *" = .ok s ∧ ¬ s.IsEverDue) ∧
    (∃ s, parse "* * * * */-13 *" = .ok s ∧ ¬ s.IsEverDue) := by
  have hleap : parse "59 0/7 3-5,9-8 29,31 FEB MON" =
      .ok ⟨.value 59, .every (.value 0) 7, .union [.span 3 5, .span 9 8],
        .union [.value 29, .value 31], .value 2, .value 1⟩ := by rfl
  have hnever : parse "* * * 30-31 2 *" =
      .ok ⟨.any, .any, .any, .span 30 31, .value 2, .any⟩ := by rfl
  have hsteps : parse "* * * * */-13 *" =
      .ok ⟨.any, .any, .any, .any, .every .any (-13), .any⟩ := by rfl
  refine ⟨⟨_, hleap, ?_⟩, ⟨_, hnever, ?_⟩, ⟨_, hsteps, ?_⟩⟩
  · refine (isEverDue_parse_iff hleap).1.mpr
      ⟨fun f => ?_, 2, 29, by decide, by decide, by decide, by decide⟩
    cases f <;> decide
  · rw [(isEverDue_parse_iff hnever).1]
    rintro ⟨_, month, day, hmonth, hday, _, hlen⟩
    simp only [Pattern.contains_value, Pattern.contains_span, Bool.and_eq_true,
      decide_eq_true_eq] at hmonth hday
    obtain rfl : month = 2 := by omega
    exact absurd hlen (by have : longestLength 2 = 29 := rfl; omega)
  · rw [(isEverDue_parse_iff hsteps).1]
    rintro ⟨halive, _⟩
    exact absurd (halive .month) (by decide)

end Schedule

end Crond
