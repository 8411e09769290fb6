import Crond.Schedule.Expression
import Crond.Proofs.Text.Numerals
import Crond.Proofs.Text.Trimming

/-
  The texts of numbers and values, and what the readers make of them.

  A number is digits with an optional `+` in front (`NumberText`), a step may also have a `-`
  (`StepText`), and a value is a number or a name of its field (`ValueText`). The readers take all
  of these, and one kind of text more: a number that is too large with something behind its
  digits (`Garbled`), which they take for the largest number.

  Proved: `readNumber?_eq_some_iff` and `readValue?_eq_some_iff`, exactly what is read and as
  what. None of these texts holds white space, a comma or a slash, and which text is which can be
  decided (`stepText_iff`, `valueText_iff`).
-/

namespace Crond

open Text

/-! ## Texts -/

/-- A number without a minus. One that is too large counts as the largest. -/
inductive NumberText : List Char → Int → Prop
  | plain {ds : List Char} (h : IsDigits ds) : NumberText ds (min (decimal ds) largest)
  | plus {ds : List Char} (h : IsDigits ds) : NumberText ('+' :: ds) (min (decimal ds) largest)

/-- A step: a number, or a negative number that is not below the smallest. -/
inductive StepText : List Char → Int → Prop
  | number {cs : List Char} {n : Int} (h : NumberText cs n) : StepText cs n
  | minus {ds : List Char} (h : IsDigits ds) (hn : smallest ≤ -(decimal ds : Int)) :
      StepText ('-' :: ds) (-(decimal ds))

namespace Field

/-- The names of the values of a field. -/
def names : Field → List (List Char × Int)
  | month => monthNames
  | weekday => weekdayNames
  | _ => []

/-- The value that a number stands for in a field. -/
def fold : Field → Int → Int
  | weekday => foldSunday
  | _ => id

end Field

/-- A value of a field: a number or a name. -/
inductive ValueText (f : Field) : List Char → Int → Prop
  | number {cs : List Char} {n : Int} (h : NumberText cs n) : ValueText f cs (f.fold n)
  | name {cs : List Char} {n : Int} (h : (cs, n) ∈ f.names) : ValueText f cs n

/-- A text without the plus in front. -/
def dropPlus : List Char → List Char
  | '+' :: cs => cs
  | cs => cs

/-- A number that is too large, with something behind its digits. -/
def Garbled (cs : List Char) : Prop :=
  largest < decimal (leadingDigits (dropPlus cs)) ∧ ¬ IsDigits (dropPlus cs)

instance (cs : List Char) : Decidable (Garbled cs) := inferInstanceAs (Decidable (_ ∧ _))

/-! ## Numbers -/

theorem readUnsigned?_digits {cs : List Char} (h : IsDigits cs) :
    readUnsigned? cs = some (min (decimal cs : Int) largest) := by
  have hlimit : (largest.toNat : Int) = largest := rfl
  unfold readUnsigned?
  rw [readNumeral_digits _ h]
  by_cases hlt : largest.toNat < decimal cs
  · rw [if_pos hlt]
    exact congrArg some (by omega)
  · rw [if_neg hlt]
    exact congrArg some (by omega)

/-- Of a text that is not digits throughout, those in front are read if they are too large. -/
theorem readUnsigned?_other {cs : List Char} (h : ¬ IsDigits cs) :
    readUnsigned? cs = if largest < decimal (leadingDigits cs) then some largest else none := by
  have hlimit : (largest.toNat : Int) = largest := rfl
  unfold readUnsigned?
  rw [readNumeral_other _ h]
  by_cases hlt : largest.toNat < decimal (leadingDigits cs)
  · rw [if_pos hlt, if_pos (by omega)]
  · rw [if_neg hlt, if_neg (by omega)]

theorem readUnsigned?_eq_some_iff {cs : List Char} {n : Int} :
    readUnsigned? cs = some n ↔
      IsDigits cs ∧ n = min (decimal cs : Int) largest ∨
      n = largest ∧ largest < decimal (leadingDigits cs) ∧ ¬ IsDigits cs := by
  by_cases h : IsDigits cs
  · rw [readUnsigned?_digits h]
    simp [h, eq_comm]
  · rw [readUnsigned?_other h]
    split <;> simp [*, eq_comm]

theorem dropPlus_of_ne {c : Char} (hc : c ≠ '+') (cs : List Char) :
    dropPlus (c :: cs) = c :: cs := by
  unfold dropPlus
  split
  · rename_i h
    exact absurd (List.cons.inj h).1 hc
  · rfl

theorem numberText_iff {cs : List Char} {n : Int} :
    NumberText cs n ↔ IsDigits (dropPlus cs) ∧ n = min (decimal (dropPlus cs) : Int) largest := by
  constructor
  · rintro (⟨h⟩ | ⟨h⟩)
    · have hplus : dropPlus cs = cs := by
        cases cs with
        | nil => rfl
        | cons c cs =>
          refine dropPlus_of_ne ?_ cs
          rintro rfl
          exact absurd (h.2 '+' List.mem_cons_self) (by decide)
      rw [hplus]
      exact ⟨h, rfl⟩
    · exact ⟨h, rfl⟩
  · rintro ⟨h, rfl⟩
    cases cs with
    | nil => exact absurd rfl h.1
    | cons c cs =>
      by_cases hc : c = '+'
      · subst hc
        exact .plus h
      · rw [dropPlus_of_ne hc] at h ⊢
        exact .plain h

theorem readNumber?_of_ne {c : Char} (hc : c ≠ '-') (cs : List Char) :
    readNumber? (c :: cs) = readUnsigned? (dropPlus (c :: cs)) := by
  by_cases hp : c = '+'
  · subst hp
    rfl
  · rw [dropPlus_of_ne hp]
    unfold readNumber?
    split
    · rename_i h
      exact absurd (List.cons.inj h).1 hc
    · rename_i h
      exact absurd (List.cons.inj h).1 hp
    · rfl

theorem readNumber?_minus {cs : List Char} {n : Int} :
    readNumber? ('-' :: cs) = some n ↔
      IsDigits cs ∧ smallest ≤ -(decimal cs : Int) ∧ n = -(decimal cs) := by
  have hlimit : ((-smallest).toNat : Int) = -smallest := rfl
  simp only [readNumber?]
  by_cases h : IsDigits cs
  · rw [readNumeral_digits _ h]
    by_cases hlt : (-smallest).toNat < decimal cs
    · rw [if_pos hlt]
      simp only [reduceCtorEq, h, true_and, false_iff]
      omega
    · rw [if_neg hlt]
      simp only [Option.some.injEq, h, true_and]
      omega
  · rw [readNumeral_other _ h]
    by_cases hlt : (-smallest).toNat < decimal (leadingDigits cs)
    · simp [h, hlt]
    · simp [h, hlt]

/-- A text that starts with a minus is no other number. -/
theorem stepText_minus_iff {cs : List Char} {n : Int} :
    StepText ('-' :: cs) n ↔
      IsDigits cs ∧ smallest ≤ -(decimal cs : Int) ∧ n = -(decimal cs) := by
  constructor
  · rintro (⟨h⟩ | ⟨h, hn⟩)
    · obtain ⟨hds, _⟩ := numberText_iff.mp h
      exact absurd (hds.2 '-' List.mem_cons_self) (by decide)
    · exact ⟨h, hn, rfl⟩
  · rintro ⟨h, hn, rfl⟩
    exact .minus h hn

theorem stepText_iff_numberText {cs : List Char} (hm : ∀ ds, cs ≠ '-' :: ds) {n : Int} :
    StepText cs n ↔ NumberText cs n := by
  constructor
  · rintro (h | ⟨h, hn⟩)
    · exact h
    · exact absurd rfl (hm _)
  · exact .number

theorem not_garbled_minus (cs : List Char) : ¬ Garbled ('-' :: cs) := by
  rintro ⟨h, _⟩
  rw [dropPlus_of_ne (by decide), leadingDigits, List.takeWhile_cons_of_neg (by decide)] at h
  exact absurd h (by decide)

/-- What is read as a number, and as which: the texts of steps and garbled numbers. -/
theorem readNumber?_eq_some_iff {cs : List Char} {n : Int} :
    readNumber? cs = some n ↔ StepText cs n ∨ n = largest ∧ Garbled cs := by
  by_cases hm : ∃ ds, cs = '-' :: ds
  · obtain ⟨ds, rfl⟩ := hm
    rw [readNumber?_minus, stepText_minus_iff]
    simp only [not_garbled_minus, and_false, or_false]
  · have hread : readNumber? cs = readUnsigned? (dropPlus cs) := by
      cases cs with
      | nil => rfl
      | cons c cs => exact readNumber?_of_ne (fun hc => hm ⟨cs, by rw [hc]⟩) cs
    rw [hread, readUnsigned?_eq_some_iff,
      stepText_iff_numberText fun ds h => hm ⟨ds, h⟩, numberText_iff]
    rfl

example : readNumber? (List.replicate 20 '9' ++ ['x']) = some largest := by decide

example : readNumber? ('-' :: List.replicate 20 '9') = none := by decide

/-! ## Values -/

theorem Field.readValue?_eq (f : Field) (cs : List Char) :
    f.readValue? cs = ((f.names.lookup cs).or (readNumber? cs)).map f.fold := by
  cases f with
  | month => exact (congrFun Option.map_id _).symm
  | weekday => rfl
  | _ => exact (congrFun Option.map_id _).symm

/-- Names are no numbers, each has one value, and folding leaves that value alone. -/
theorem Field.names_spec (f : Field) : ∀ e ∈ f.names,
    f.names.lookup e.1 = some e.2 ∧ f.fold e.2 = e.2 ∧ readNumber? e.1 = none := by
  cases f <;> decide

theorem Field.mem_names_of_lookup {f : Field} {cs : List Char} {n : Int}
    (h : f.names.lookup cs = some n) : (cs, n) ∈ f.names := by
  obtain ⟨before, after, hsplit, _⟩ := List.lookup_eq_some_iff.mp h
  rw [hsplit]
  exact List.mem_append_right _ List.mem_cons_self

theorem Field.fold_largest (f : Field) : f.fold largest = largest := by cases f <;> decide

/-- What is read as a value, and as which: the texts of values and garbled numbers. -/
theorem readValue?_eq_some_iff {f : Field} {cs : List Char} (hm : '-' ∉ cs) {n : Int} :
    f.readValue? cs = some n ↔ ValueText f cs n ∨ n = largest ∧ Garbled cs := by
  have hminus : ∀ ds, cs ≠ '-' :: ds := by
    rintro ds rfl
    exact hm List.mem_cons_self
  rw [f.readValue?_eq]
  cases hl : f.names.lookup cs with
  | some m =>
    -- A name is read as what it stands for, and as nothing else.
    obtain ⟨hlookup, hfold, hnone⟩ := f.names_spec _ (Field.mem_names_of_lookup hl)
    simp only [Option.some_or, Option.map_some, hfold, Option.some.injEq]
    constructor
    · rintro rfl
      exact Or.inl (.name (Field.mem_names_of_lookup hl))
    · rintro ((h | h) | h)
      · rw [readNumber?_eq_some_iff.mpr (Or.inl (.number h))] at hnone
        exact absurd hnone (by simp)
      · rw [(f.names_spec _ h).1, Option.some.injEq] at hl
        exact hl.symm
      · rw [readNumber?_eq_some_iff.mpr (Or.inr h)] at hnone
        exact absurd hnone (by simp)
  | none =>
    simp only [Option.none_or, Option.map_eq_some_iff, readNumber?_eq_some_iff,
      stepText_iff_numberText hminus]
    constructor
    · rintro ⟨m, h | ⟨rfl, h⟩, rfl⟩
      · exact Or.inl (.number h)
      · exact Or.inr ⟨f.fold_largest, h⟩
    · rintro ((h | h) | ⟨rfl, h⟩)
      · exact ⟨_, Or.inl h, rfl⟩
      · rw [(f.names_spec _ h).1] at hl
        exact absurd hl (by simp)
      · exact ⟨largest, Or.inr ⟨rfl, h⟩, f.fold_largest⟩

/-! ## Characters -/

theorem NumberText.mem {cs : List Char} {n : Int} (h : NumberText cs n) {c : Char} (hc : c ∈ cs) :
    c.isDigit = true ∨ c = '+' := by
  cases h with
  | plain h => exact Or.inl (h.2 c hc)
  | plus h =>
    rcases List.mem_cons.mp hc with rfl | hc
    · exact Or.inr rfl
    · exact Or.inl (h.2 c hc)

/-- No number, no step and no name holds one of the characters that separate terms or their
    parts; a minus stands only at the front of a step. -/
structure Solid (cs : List Char) : Prop where
  comma : ',' ∉ cs
  slash : '/' ∉ cs

instance (cs : List Char) : Decidable (Solid cs) :=
  decidable_of_iff (',' ∉ cs ∧ '/' ∉ cs) ⟨fun h => ⟨h.1, h.2⟩, fun h => ⟨h.1, h.2⟩⟩

theorem NumberText.solid {cs : List Char} {n : Int} (h : NumberText cs n) :
    Solid cs ∧ '-' ∉ cs := by
  refine ⟨⟨fun hc => ?_, fun hc => ?_⟩, fun hc => ?_⟩ <;>
    exact absurd (h.mem hc) (by decide)

theorem StepText.solid {cs : List Char} {n : Int} (h : StepText cs n) : Solid cs := by
  cases h with
  | number h => exact h.solid.1
  | minus h hn =>
    refine ⟨fun hc => ?_, fun hc => ?_⟩ <;>
      exact absurd (h.2 _ ((List.mem_cons.mp hc).resolve_left (by decide))) (by decide)

theorem ValueText.solid {f : Field} {cs : List Char} {n : Int} (h : ValueText f cs n) :
    Solid cs ∧ '-' ∉ cs := by
  cases h with
  | number h => exact h.solid
  | name h =>
    have hnames : ∀ e ∈ f.names, Solid e.1 ∧ '-' ∉ e.1 := by cases f <;> decide
    exact hnames _ h

theorem isVisible_digits {ds : List Char} (h : IsDigits ds) : IsVisible ds :=
  ⟨h.1, fun c hc => isBlank_of_isDigit (h.2 c hc)⟩

theorem NumberText.isVisible {cs : List Char} {n : Int} (h : NumberText cs n) : IsVisible cs := by
  cases h with
  | plain h => exact isVisible_digits h
  | plus h => exact (isVisible_digits h).cons (by decide)

theorem StepText.isVisible {cs : List Char} {n : Int} (h : StepText cs n) : IsVisible cs := by
  cases h with
  | number h => exact h.isVisible
  | minus h hn => exact (isVisible_digits h).cons (by decide)

theorem ValueText.isVisible {f : Field} {cs : List Char} {n : Int} (h : ValueText f cs n) :
    IsVisible cs := by
  cases h with
  | number h => exact h.isVisible
  | name h =>
    have hnames : ∀ e ∈ f.names, e.1 ≠ [] ∧ ∀ c ∈ e.1, isBlank c = false := by
      cases f <;> decide
    exact ⟨(hnames _ h).1, (hnames _ h).2⟩

/-- In a number there is nothing behind the digits. -/
theorem NumberText.not_garbled {cs : List Char} {n : Int} (h : NumberText cs n) :
    ¬ Garbled cs := fun hg => hg.2 (numberText_iff.mp h).1

theorem StepText.not_garbled {cs : List Char} {n : Int} (h : StepText cs n) : ¬ Garbled cs := by
  cases h with
  | number h => exact h.not_garbled
  | minus h hn => exact not_garbled_minus _

theorem ValueText.not_garbled {f : Field} {cs : List Char} {n : Int} (h : ValueText f cs n) :
    ¬ Garbled cs := by
  cases h with
  | number h => exact h.not_garbled
  | name h =>
    have hnames : ∀ e ∈ f.names, ¬ Garbled e.1 := by cases f <;> decide
    exact hnames _ h

/-! ## Deciding -/

theorem stepText_iff {cs : List Char} {n : Int} :
    StepText cs n ↔ ¬ Garbled cs ∧ readNumber? cs = some n := by
  rw [readNumber?_eq_some_iff]
  constructor
  · exact fun h => ⟨h.not_garbled, Or.inl h⟩
  · rintro ⟨hnot, h⟩
    exact h.resolve_right fun hg => hnot hg.2

theorem valueText_iff {f : Field} {cs : List Char} {n : Int} :
    ValueText f cs n ↔ ('-' ∉ cs ∧ ¬ Garbled cs) ∧ f.readValue? cs = some n := by
  constructor
  · exact fun h => ⟨⟨h.solid.2, h.not_garbled⟩, (readValue?_eq_some_iff h.solid.2).mpr (Or.inl h)⟩
  · rintro ⟨⟨hm, hnot⟩, h⟩
    exact ((readValue?_eq_some_iff hm).mp h).resolve_right fun hg => hnot hg.2

instance (cs : List Char) (n : Int) : Decidable (StepText cs n) :=
  decidable_of_iff _ stepText_iff.symm

instance (f : Field) (cs : List Char) (n : Int) : Decidable (ValueText f cs n) :=
  decidable_of_iff _ valueText_iff.symm

end Crond
