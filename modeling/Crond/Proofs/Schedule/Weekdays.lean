import Crond.Proofs.Schedule.Grammar

/-
  Lists of weekdays in which Sunday is told as 7.

  7 is folded to 0 value by value, before two values make a range, and the order of the ends is
  checked only of a range that is the whole field. So a range that ends in 7 is refused by itself.
  Inside a list it is taken and ends in 0 (`DayTerm.contains_pattern_iff`): it holds no day, or
  Sunday alone if it begins with 0.

  Proved: `weekday_list_contains`. A list is refused only if it is a single range that ends in 7.
  Of a list that is accepted each term holds the days it means, but for ranges that end in 7;
  `friday_lost_in_list` shows a day that such a range loses.
-/

namespace Crond

open Text

/-- A term of a list of weekdays: one day, or the days from one to another. -/
inductive DayTerm where
  | day (a : Int)
  | days (a b : Int)
  deriving DecidableEq, Repr

namespace DayTerm

/-- Days are numbered from 0 to 7, and those of a range are in strict order. -/
def IsProper : DayTerm → Prop
  | day a => 0 ≤ a ∧ a ≤ 7
  | days a b => 0 ≤ a ∧ a < b ∧ b ≤ 7

/-- Whether a term means a weekday, where Sunday is 0 and may be told as 7. -/
def Means (w : Int) : DayTerm → Prop
  | day a => a % 7 = w
  | days a b => ∃ d, a ≤ d ∧ d ≤ b ∧ d % 7 = w

/-- A range that ends in 7. -/
def EndsInSeven : DayTerm → Prop
  | day _ => False
  | days _ b => b = 7

/-- What a term is read as. -/
def pattern : DayTerm → Pattern
  | day a => .value (foldSunday a)
  | days a b => .span (foldSunday a) (foldSunday b)

end DayTerm

/-- The texts of a term: the days in decimal, with a `-` between those of a range. -/
inductive DayTermText : List Char → DayTerm → Prop
  | day {cs : List Char} {a : Int} (h : NumberText cs a) : DayTermText cs (.day a)
  | days {first last : List Char} {a b : Int} (ha : NumberText first a)
      (hb : NumberText last b) : DayTermText (first ++ '-' :: last) (.days a b)

/-! ## Terms -/

theorem foldSunday_eq_emod {a : Int} (h₀ : 0 ≤ a) (h₇ : a ≤ 7) : foldSunday a = a % 7 := by
  unfold foldSunday
  split <;> omega

theorem DayTermText.termText {cs : List Char} {term : DayTerm} (h : DayTermText cs term) :
    TermText (ValueText .weekday) StepText cs term.pattern := by
  cases h with
  | day h => exact .base (.value (.number h))
  | days ha hb => exact .base (.span (.number ha) (.number hb))

namespace DayTerm

theorem inRange_pattern {term : DayTerm} (h : term.IsProper) :
    term.pattern.inRange Field.weekday.low Field.weekday.high = true := by
  cases term with
  | day a =>
    obtain ⟨h₀, h₇⟩ := h
    simp only [pattern, Pattern.inRange, foldSunday_eq_emod h₀ h₇, Field.low, Field.high,
      Bool.and_eq_true, decide_eq_true_eq]
    omega
  | days a b =>
    obtain ⟨h₀, hab, h₇⟩ := h
    simp only [pattern, Pattern.inRange, foldSunday_eq_emod h₀ (by omega),
      foldSunday_eq_emod (by omega) h₇, Field.low, Field.high, Bool.and_eq_true,
      decide_eq_true_eq]
    omega

/-- A term holds what it means, unless it is a range that ends in 7. -/
theorem contains_pattern_iff {term : DayTerm} (h : term.IsProper) (w : Int) :
    term.pattern.contains w = true ↔
      ¬ term.EndsInSeven ∧ term.Means w ∨ w = 0 ∧ term = .days 0 7 := by
  cases term with
  | day a =>
    obtain ⟨h₀, h₇⟩ := h
    simp [pattern, EndsInSeven, Means, foldSunday_eq_emod h₀ h₇, eq_comm]
  | days a b =>
    obtain ⟨h₀, hab, h₇⟩ := h
    have ha : foldSunday a = a := (foldSunday_eq_emod h₀ (by omega)).trans (by omega)
    simp only [pattern, Pattern.contains_span, ha, foldSunday_eq_emod (by omega) h₇,
      Bool.and_eq_true, decide_eq_true_eq, EndsInSeven, Means, DayTerm.days.injEq]
    by_cases hb : b = 7
    · subst hb
      omega
    · constructor
      · exact fun hw => Or.inl ⟨hb, w, by omega⟩
      · rintro (⟨-, d, hd⟩ | ⟨-, -, rfl⟩) <;> omega

end DayTerm

/-! ## Lists -/

section

variable {texts : List (List Char)} {terms : List DayTerm}

/-- How a list of terms is read. -/
theorem readField?_dayTerms (hne : terms ≠ []) (htexts : List.Forall₂ DayTermText texts terms) :
    readField? Field.weekday.readValue? ([','].intercalate texts) =
      some (.ofTerms (terms.map DayTerm.pattern)) := by
  have hne' : texts ≠ [] := by
    rintro rfl
    exact hne (List.forall₂_nil_left_iff.mp htexts)
  have hterms : List.Forall₂ (TermText (ValueText .weekday) StepText) texts
      (terms.map DayTerm.pattern) :=
    List.forall₂_map_right_iff.mpr (htexts.imp fun _ _ h => h.termText)
  exact ((reads_grammar .weekday).fieldText_iff.mp (.terms hne' hterms)).1

/-- A list is fit for its bounds unless it is a range that ends in 7. -/
theorem defect?_dayTerms_eq_none_iff (hproper : ∀ term ∈ terms, term.IsProper) :
    (Pattern.ofTerms (terms.map DayTerm.pattern)).defect? Field.weekday.low Field.weekday.high =
        none ↔ ∀ a, terms ≠ [.days a 7] := by
  have hrange : (Pattern.ofTerms (terms.map DayTerm.pattern)).inRange
      Field.weekday.low Field.weekday.high = true := by
    rw [Pattern.inRange_ofTerms, List.all_map, List.all_eq_true]
    exact fun term hterm => DayTerm.inRange_pattern (hproper term hterm)
  unfold Pattern.defect?
  rw [if_pos hrange]
  match terms with
  | [] => simp [Pattern.ofTerms]
  | [.day a] => simp [Pattern.ofTerms, DayTerm.pattern]
  | [.days a b] =>
    obtain ⟨h₀, hab, h₇⟩ := hproper _ List.mem_cons_self
    simp only [List.map_cons, List.map_nil, Pattern.ofTerms, DayTerm.pattern]
    rw [foldSunday_eq_emod h₀ (by omega), foldSunday_eq_emod (by omega) h₇]
    simp only [ite_eq_right_iff, reduceCtorEq, imp_false, ne_eq, List.cons.injEq,
      DayTerm.days.injEq, and_true, not_and, forall_eq']
    omega
  | first :: second :: rest => simp [Pattern.ofTerms]

theorem contains_dayTerms_iff (hproper : ∀ term ∈ terms, term.IsProper) (w : Int) :
    (Pattern.ofTerms (terms.map DayTerm.pattern)).contains w = true ↔
      (∃ term ∈ terms, ¬ term.EndsInSeven ∧ term.Means w) ∨ w = 0 ∧ .days 0 7 ∈ terms := by
  rw [Pattern.contains_ofTerms, List.any_map, List.any_eq_true]
  constructor
  · rintro ⟨term, hterm, hw⟩
    rcases (DayTerm.contains_pattern_iff (hproper term hterm) w).mp hw with h | ⟨h, rfl⟩
    · exact Or.inl ⟨term, hterm, h⟩
    · exact Or.inr ⟨h, hterm⟩
  · rintro (⟨term, hterm, h⟩ | ⟨h, hterm⟩)
    · exact ⟨term, hterm, (DayTerm.contains_pattern_iff (hproper term hterm) w).mpr (Or.inl h)⟩
    · exact ⟨_, hterm, (DayTerm.contains_pattern_iff (hproper _ hterm) w).mpr (Or.inr ⟨h, rfl⟩)⟩

/-- The weekdays of a schedule whose expression has a list of terms in the last of its fields. -/
theorem Schedule.weekday_eq_of_parse {expression : String} {s : Schedule}
    (h : Schedule.parse expression = .ok s) {p : Pattern} {field : List Char}
    (hfield : ((trim expression.toList).splitOn ' ')[5]? = some field)
    (hread : readField? Field.weekday.readValue? field = some p) : s.weekday = p := by
  obtain ⟨text, hparts, hf⟩ := Schedule.read_eq_ok_iff.mp h
  rw [hparts] at hfield
  obtain rfl : text .weekday = field := Option.some.inj hfield
  have hweekday := (Field.read_eq_ok_iff.mp (hf .weekday)).1
  rw [hread] at hweekday
  exact (Option.some.inj hweekday).symm

end

/-- Lists of weekdays, numbered from 0 to 7. A list is refused only if it is a single range that
    ends in 7. A schedule with such a list holds what the terms mean, ranges that end in 7 aside;
    of these only `0-7` adds a day, which is Sunday. So without them each term holds the days it
    means. -/
theorem weekday_list_contains {texts : List (List Char)} {terms : List DayTerm}
    (hne : terms ≠ []) (htexts : List.Forall₂ DayTermText texts terms)
    (hproper : ∀ term ∈ terms, term.IsProper) :
    ((∃ p, Field.weekday.read ([','].intercalate texts) = .ok p) ↔ ∀ a, terms ≠ [.days a 7]) ∧
    ∀ (expression : String) (s : Schedule), Schedule.parse expression = .ok s →
      ((trim expression.toList).splitOn ' ')[5]? = some ([','].intercalate texts) →
      (∀ w, s.weekday.contains w = true ↔
        (∃ term ∈ terms, ¬ term.EndsInSeven ∧ term.Means w) ∨ w = 0 ∧ .days 0 7 ∈ terms) ∧
      ((∀ term ∈ terms, ¬ term.EndsInSeven) →
        ∀ w, s.weekday.contains w = true ↔ ∃ term ∈ terms, term.Means w) := by
  have hread := readField?_dayTerms hne htexts
  refine ⟨?_, fun expression s h hfield => ?_⟩
  · rw [← defect?_dayTerms_eq_none_iff hproper]
    constructor
    · rintro ⟨p, hp⟩
      obtain ⟨hp, hdefect⟩ := Field.read_eq_ok_iff.mp hp
      rwa [Option.some.inj (hread.symm.trans hp)]
    · exact fun hdefect => ⟨_, Field.read_eq_ok_iff.mpr ⟨hread, hdefect⟩⟩
  · have hcontains : ∀ w, s.weekday.contains w = true ↔
        (∃ term ∈ terms, ¬ term.EndsInSeven ∧ term.Means w) ∨ w = 0 ∧ .days 0 7 ∈ terms := by
      rw [Schedule.weekday_eq_of_parse h hfield hread]
      exact contains_dayTerms_iff hproper
    refine ⟨hcontains, fun hends w => ?_⟩
    rw [hcontains]
    constructor
    · rintro (⟨term, hterm, -, hw⟩ | ⟨-, hterm⟩)
      · exact ⟨term, hterm, hw⟩
      · exact absurd rfl (hends _ hterm)
    · rintro ⟨term, hterm, hw⟩
      exact Or.inl ⟨term, hterm, hends term hterm, hw⟩

/-- Monday, and two ranges that end in 7: what is left is Monday and Sunday. -/
theorem weekday_list_contains_folded :
    let s : Schedule :=
      ⟨.any, .any, .any, .any, .any, .union [.value 1, .span 5 0, .span 0 0]⟩
    let texts := [['1'], ['5', '-', '7'], ['0', '-', '7']]
    let terms : List DayTerm := [.day 1, .days 5 7, .days 0 7]
    Schedule.parse "* * * * * 1,5-7,0-7" = .ok s ∧
      ((trim "* * * * * 1,5-7,0-7".toList).splitOn ' ')[5]? = some ([','].intercalate texts) ∧
      terms ≠ [] ∧ List.Forall₂ DayTermText texts terms ∧ (∀ term ∈ terms, term.IsProper) ∧
      ∀ w, s.weekday.contains w = true ↔ w = 1 ∨ w = 0 := by
  intro s texts terms
  have h : Schedule.parse "* * * * * 1,5-7,0-7" = .ok s := by rfl
  have hfield : ((trim "* * * * * 1,5-7,0-7".toList).splitOn ' ')[5]? =
      some ([','].intercalate texts) := by rfl
  have hseven : NumberText ['7'] 7 := numberText_iff.mpr (by decide)
  have htexts : List.Forall₂ DayTermText texts terms :=
    .cons (.day (numberText_iff.mpr (by decide)))
      (.cons (.days (numberText_iff.mpr (by decide) : NumberText ['5'] 5) hseven)
        (.cons (.days (numberText_iff.mpr (by decide) : NumberText ['0'] 0) hseven) .nil))
  have hproper : ∀ term ∈ terms, term.IsProper := by simp [terms, DayTerm.IsProper]
  refine ⟨h, hfield, by simp [terms], htexts, hproper, fun w => ?_⟩
  rw [((weekday_list_contains (by simp [terms]) htexts hproper).2 _ s h hfield).1 w]
  simp [terms, DayTerm.EndsInSeven, DayTerm.Means, eq_comm]

/-- A list that is accepted and loses a day: its range from Friday to Sunday, which is told as 7,
    does not hold Friday. -/
theorem friday_lost_in_list :
    ∃ s, Schedule.parse "* * * * * 1,5-7" = .ok s ∧
      ((trim "* * * * * 1,5-7".toList).splitOn ' ')[5]? =
        some ([','].intercalate [['1'], ['5', '-', '7']]) ∧
      List.Forall₂ DayTermText [['1'], ['5', '-', '7']] [.day 1, .days 5 7] ∧
      (∀ term ∈ [DayTerm.day 1, .days 5 7], term.IsProper) ∧
      ¬ (s.weekday.contains 5 = true ↔ ∃ term ∈ [DayTerm.day 1, .days 5 7], term.Means 5) := by
  have hfive : NumberText ['5'] 5 := numberText_iff.mpr (by decide)
  have hseven : NumberText ['7'] 7 := numberText_iff.mpr (by decide)
  have htexts : List.Forall₂ DayTermText [['1'], ['5', '-', '7']] [.day 1, .days 5 7] :=
    .cons (.day (numberText_iff.mpr (by decide))) (.cons (.days hfive hseven) .nil)
  have hmeans : (DayTerm.days 5 7).Means 5 := ⟨5, by decide⟩
  refine ⟨⟨.any, .any, .any, .any, .any, .union [.value 1, .span 5 0]⟩, by rfl, by rfl, htexts,
    by simp [DayTerm.IsProper], fun hiff => ?_⟩
  exact absurd (hiff.mpr ⟨_, by simp, hmeans⟩) (by decide)

end Crond
