import Crond.Proofs.Schedule.Canonical

/-
  Numbers against the integers that their digits tell.

  A text tells an integer if it is digits with at most one sign in front (`IntegerText`), of any
  size. What is read of a text is decided by that integer and by the digits in front
  (`readNumber?_eq_some_iff_integerText`): the integer itself if it is a word, the largest word as
  soon as digits without a minus are worth more (`TooLargeInFront`), whatever comes behind those
  digits, and nothing otherwise.

  Proved: `readNumber?_saturates`. Above the words numbers saturate, below the words there are
  none; a character that is no digit counts only if it is met in time; zeros in front do not
  count.
-/

namespace Crond

open Text

/-! ## Texts -/

/-- What may stand in front of the digits of an integer. -/
def signs : List (List Char) := [[], ['+'], ['-']]

theorem mem_signs_iff {sign : List Char} :
    sign ∈ signs ↔ sign = [] ∨ sign = ['+'] ∨ sign = ['-'] := by simp [signs]

theorem singleton_mem_signs_iff {c : Char} : [c] ∈ signs ↔ c = '+' ∨ c = '-' := by simp [signs]

/-- An integer of any size: digits, with or without a sign. -/
inductive IntegerText : List Char → Int → Prop
  | plain {ds : List Char} (h : IsDigits ds) : IntegerText ds (decimal ds)
  | plus {ds : List Char} (h : IsDigits ds) : IntegerText ('+' :: ds) (decimal ds)
  | minus {ds : List Char} (h : IsDigits ds) : IntegerText ('-' :: ds) (-(decimal ds))

/-- Some of the digits in front, at most a plus aside, are worth more than the largest word. -/
def TooLargeInFront (cs : List Char) : Prop :=
  ∃ front back, dropPlus cs = front ++ back ∧ (∀ c ∈ front, c.isDigit = true) ∧
    largest < decimal front

theorem tooLargeInFront_iff {cs : List Char} :
    TooLargeInFront cs ↔ largest < decimal (leadingDigits (dropPlus cs)) := by
  have hlimit : ∀ n : Nat, largest < n ↔ largest.toNat < n := by
    intro n
    have hlargest : (largest.toNat : Int) = largest := rfl
    omega
  unfold TooLargeInFront
  simp only [hlimit]
  exact lt_decimal_leadingDigits_iff.symm

theorem integerText_of_isDigits {cs : List Char} (h : IsDigits (dropPlus cs)) :
    IntegerText cs (decimal (dropPlus cs)) := by
  cases cs with
  | nil => exact absurd rfl h.1
  | cons c cs =>
    by_cases hc : c = '+'
    · subst hc
      exact .plus h
    · rw [dropPlus_of_ne hc] at h ⊢
      exact .plain h

/-! ## Reading -/

/-- A number that is read is an integer that fits, or the largest word in place of one that does
    not. -/
theorem NumberText.integerText {cs : List Char} {n : Int} (h : NumberText cs n) :
    IntegerText cs n ∧ IsWord n ∨ n = largest ∧ TooLargeInFront cs := by
  have hword : IsWord n := (StepText.number h).isWord
  obtain ⟨hdigits, rfl⟩ := numberText_iff.mp h
  by_cases hle : (decimal (dropPlus cs) : Int) ≤ largest
  · rw [Int.min_eq_left hle] at hword ⊢
    exact Or.inl ⟨integerText_of_isDigits hdigits, hword⟩
  · have hlt : largest < decimal (dropPlus cs) := Int.not_le.mp hle
    refine Or.inr ⟨Int.min_eq_right (Int.le_of_lt hlt), tooLargeInFront_iff.mpr ?_⟩
    rwa [leadingDigits_eq_self_iff.mpr hdigits.2]

/-- An integer that fits is a step. -/
theorem IntegerText.stepText {cs : List Char} {n : Int} (h : IntegerText cs n) (hn : IsWord n) :
    StepText cs n := by
  cases h with
  | plain h =>
    have hnumber := NumberText.plain h
    rw [Int.min_eq_left hn.le_largest] at hnumber
    exact .number hnumber
  | plus h =>
    have hnumber := NumberText.plus h
    rw [Int.min_eq_left hn.le_largest] at hnumber
    exact .number hnumber
  | minus h => exact .minus h hn.smallest_le

/-- Digits that are too large are read as the largest word, as a number of their own or with
    something behind them. -/
theorem TooLargeInFront.readNumber?_eq {cs : List Char} (h : TooLargeInFront cs) :
    readNumber? cs = some largest := by
  rw [readNumber?_eq_some_iff]
  have hlarge := tooLargeInFront_iff.mp h
  by_cases hdigits : IsDigits (dropPlus cs)
  · rw [leadingDigits_eq_self_iff.mpr hdigits.2] at hlarge
    have hmin : largest = min (decimal (dropPlus cs) : Int) largest :=
      (Int.min_eq_right (Int.le_of_lt hlarge)).symm
    exact Or.inl (.number (numberText_iff.mpr ⟨hdigits, hmin⟩))
  · exact Or.inr ⟨rfl, hlarge, hdigits⟩

/-- What is read, and as which number: the integers that fit, and the texts that are too large in
    front. -/
theorem readNumber?_eq_some_iff_integerText {cs : List Char} {n : Int} :
    readNumber? cs = some n ↔
      IntegerText cs n ∧ IsWord n ∨ n = largest ∧ TooLargeInFront cs := by
  constructor
  · intro h
    rcases readNumber?_eq_some_iff.mp h with hstep | ⟨rfl, hgarbled⟩
    · cases hstep with
      | number hnumber => exact hnumber.integerText
      | minus hdigits hn => exact Or.inl ⟨.minus hdigits, (StepText.minus hdigits hn).isWord⟩
    · exact Or.inr ⟨rfl, tooLargeInFront_iff.mpr hgarbled.1⟩
  · rintro (⟨h, hn⟩ | ⟨rfl, h⟩)
    · exact readNumber?_eq_some_iff.mpr (Or.inl (h.stepText hn))
    · exact h.readNumber?_eq

/-! ### Below the smallest word -/

theorem readNumber?_of_lt_smallest {cs : List Char} {n : Int} (h : IntegerText cs n)
    (hn : n < smallest) : readNumber? cs = none := by
  have hsmallest : smallest < 0 := by decide
  cases h with
  | plain h => omega
  | plus h => omega
  | minus h =>
    refine Option.eq_none_iff_forall_ne_some.mpr fun m hm => ?_
    have hle := (readNumber?_minus.mp hm).2.1
    omega

/-! ### Characters that are no digits -/

theorem not_isDigits_of_other {c : Char} (hc : c.isDigit = false) (ds rest : List Char) :
    ¬ IsDigits (ds ++ c :: rest) := by
  intro h
  have hdigit := h.2 c (List.mem_append_right ds List.mem_cons_self)
  rw [hc] at hdigit
  exact absurd hdigit (by decide)

/-- Such a character ends the digits in front, and the reading with them if they are within the
    limit. -/
theorem readUnsigned?_of_other {ds : List Char} (hds : ∀ d ∈ ds, d.isDigit = true) {c : Char}
    (hc : c.isDigit = false) (hle : decimal ds ≤ largest) (rest : List Char) :
    readUnsigned? (ds ++ c :: rest) = none := by
  have hfront : leadingDigits (ds ++ c :: rest) = ds := by
    rw [leadingDigits_append hds, leadingDigits,
      List.takeWhile_cons_of_neg (by rw [hc]; decide), List.append_nil]
  rw [readUnsigned?_other (not_isDigits_of_other hc ds rest), hfront, if_neg (Int.not_lt.mpr hle)]

theorem readNumber?_unsigned {c : Char} (h : [c] ∉ signs) (cs : List Char) :
    readNumber? (c :: cs) = readUnsigned? (c :: cs) := by
  rw [singleton_mem_signs_iff, not_or] at h
  rw [readNumber?_of_ne h.2, dropPlus_of_ne h.1]

theorem readNumber?_of_isDigit {c : Char} (hc : c.isDigit = true) (cs : List Char) :
    readNumber? (c :: cs) = readUnsigned? (c :: cs) := by
  refine readNumber?_unsigned (fun hsign => ?_) cs
  rcases singleton_mem_signs_iff.mp hsign with rfl | rfl
  · exact absurd hc (by decide)
  · exact absurd hc (by decide)

/-- A character that is neither a digit nor the sign, met while the value is still within the
    words. -/
theorem readNumber?_of_other {sign ds : List Char} (hsign : sign ∈ signs)
    (hds : ∀ d ∈ ds, d.isDigit = true) {c : Char} (hc : c.isDigit = false)
    (hfirst : sign ++ ds = [] → [c] ∉ signs) (hle : sign = ['-'] ∨ decimal ds ≤ largest)
    (rest : List Char) : readNumber? (sign ++ ds ++ c :: rest) = none := by
  rw [List.append_assoc]
  rcases mem_signs_iff.mp hsign with rfl | rfl | rfl
  · have hwithin : (decimal ds : Int) ≤ largest := hle.resolve_left (by decide)
    have hread : readNumber? (ds ++ c :: rest) = readUnsigned? (ds ++ c :: rest) := by
      cases ds with
      | nil => exact readNumber?_unsigned (hfirst rfl) rest
      | cons d ds => exact readNumber?_of_isDigit (hds d List.mem_cons_self) _
    exact hread.trans (readUnsigned?_of_other hds hc hwithin rest)
  · exact readUnsigned?_of_other hds hc (hle.resolve_left (by decide)) rest
  · -- A negative number is digits throughout, whether it fits or not.
    refine Option.eq_none_iff_forall_ne_some.mpr fun n hn => ?_
    exact not_isDigits_of_other hc ds rest (readNumber?_minus.mp hn).1

/-! ### Zeros in front -/

theorem readUnsigned?_zeros (k : Nat) (c : Char) (cs : List Char) :
    readUnsigned? (List.replicate k '0' ++ c :: cs) = readUnsigned? (c :: cs) := by
  unfold readUnsigned?
  rw [readNumeral_zeros]

/-- Zeros between the sign and the first digit. -/
theorem readNumber?_zeros {sign : List Char} (hsign : sign ∈ signs) {c : Char}
    (hc : c.isDigit = true) (k : Nat) (cs : List Char) :
    readNumber? (sign ++ List.replicate k '0' ++ c :: cs) = readNumber? (sign ++ c :: cs) := by
  rw [List.append_assoc]
  rcases mem_signs_iff.mp hsign with rfl | rfl | rfl
  · cases k with
    | zero => rfl
    | succ k =>
      calc readNumber? (List.replicate (k + 1) '0' ++ c :: cs)
        _ = readUnsigned? (List.replicate (k + 1) '0' ++ c :: cs) :=
            readNumber?_of_isDigit (by decide) _
        _ = readUnsigned? (c :: cs) := readUnsigned?_zeros (k + 1) c cs
        _ = readNumber? (c :: cs) := (readNumber?_of_isDigit hc cs).symm
  · exact readUnsigned?_zeros k c cs
  · simp only [List.singleton_append, readNumber?]
    rw [readNumeral_zeros]

/-! ## The law -/

/--
What is read of a text. An integer that is a word is read as it is. A text that is too large in
front is read as the largest word, whatever comes behind. Of any other text nothing is read: not
of an integer below the smallest word, not of nothing or a sign alone, and not of a text with
another character in it that is met before the value is above the words. Zeros in front of a
digit never change what is read.
-/
theorem readNumber?_saturates (cs : List Char) :
    (∀ n, IntegerText cs n → IsWord n → readNumber? cs = some n) ∧
      (TooLargeInFront cs → readNumber? cs = some largest) ∧
      ((∀ n, IntegerText cs n → ¬ IsWord n) → ¬ TooLargeInFront cs → readNumber? cs = none) ∧
      (∀ n, IntegerText cs n → n < smallest → readNumber? cs = none) ∧
      (cs ∈ signs → readNumber? cs = none) ∧
      (∀ sign ∈ signs, ∀ ds c rest, cs = sign ++ ds ++ c :: rest →
        (∀ d ∈ ds, d.isDigit = true) → c.isDigit = false → (sign ++ ds = [] → [c] ∉ signs) →
        (sign = ['-'] ∨ decimal ds ≤ largest) → readNumber? cs = none) ∧
      ∀ sign ∈ signs, ∀ c rest, cs = sign ++ c :: rest → c.isDigit = true →
        ∀ k, readNumber? (sign ++ List.replicate k '0' ++ c :: rest) = readNumber? cs := by
  refine ⟨fun n h hn => ?_, TooLargeInFront.readNumber?_eq, fun hint hlarge => ?_,
    fun n => readNumber?_of_lt_smallest, fun hsign => ?_, ?_, ?_⟩
  · exact readNumber?_eq_some_iff_integerText.mpr (Or.inl ⟨h, hn⟩)
  · refine Option.eq_none_iff_forall_ne_some.mpr fun n hn => ?_
    rcases readNumber?_eq_some_iff_integerText.mp hn with ⟨h, hword⟩ | ⟨_, h⟩
    · exact hint n h hword
    · exact hlarge h
  · have hnone : ∀ sign ∈ signs, readNumber? sign = none := by decide
    exact hnone cs hsign
  · rintro sign hsign ds c rest rfl hds hc hfirst hle
    exact readNumber?_of_other hsign hds hc hfirst hle rest
  · rintro sign hsign c rest rfl hc k
    exact readNumber?_zeros hsign hc k rest

/-- At both ends of the words: the smallest word is read and one below it is not, one above the
    largest word is read as the largest whatever comes behind, and a letter behind the digits of
    the largest itself is met in time. -/
theorem readNumber?_saturates_ends :
    let below := "-9223372036854775809".toList
    let lowest := "-9223372036854775808".toList
    let digits := "9223372036854775807".toList
    let above := "+9223372036854775808x".toList
    (IntegerText lowest smallest ∧ IsWord smallest ∧ readNumber? lowest = some smallest) ∧
      (TooLargeInFront above ∧ readNumber? above = some largest) ∧
      ((∀ n, IntegerText ['x'] n → ¬ IsWord n) ∧ ¬ TooLargeInFront ['x'] ∧
        readNumber? ['x'] = none) ∧
      (IntegerText below (smallest - 1) ∧ smallest - 1 < smallest ∧ readNumber? below = none) ∧
      (['-'] ∈ signs ∧ readNumber? ['-'] = none) ∧
      ([] ∈ signs ∧ decimal digits = largest ∧ readNumber? (digits ++ ['x']) = none) ∧
      ∀ k, readNumber? ('+' :: List.replicate k '0' ++ digits) = some largest := by
  intro below lowest digits above
  have hdigits : IsDigits digits := by decide
  have hmagnitude : IsDigits (digits.dropLast ++ ['8']) := by decide
  have hlowest : IntegerText lowest smallest := .minus hmagnitude
  have hbelow : IntegerText below (smallest - 1) :=
    .minus (by decide : IsDigits (digits.dropLast ++ ['9']))
  have hlargest : IntegerText ('+' :: digits) largest := .plus hdigits
  have habove : TooLargeInFront above :=
    ⟨digits.dropLast ++ ['8'], ['x'], by decide, hmagnitude.2, by decide⟩
  have hletter : ∀ n, IntegerText ['x'] n → ¬ IsWord n := by
    rintro n (⟨h⟩ | _ | _)
    exact absurd (h.2 'x' List.mem_cons_self) (by decide)
  have hsmall : ¬ TooLargeInFront ['x'] := by
    rw [tooLargeInFront_iff]
    decide
  have hbehind : readNumber? (digits ++ ['x']) = none := by
    obtain ⟨-, -, -, -, -, hother, -⟩ := readNumber?_saturates (digits ++ ['x'])
    exact hother [] (by decide) digits 'x' [] rfl hdigits.2 (by decide) (by decide)
      (Or.inr (by decide))
  have hzeros : ∀ k, readNumber? ('+' :: List.replicate k '0' ++ digits) = some largest := by
    intro k
    obtain ⟨hinteger, -, -, -, -, -, hzeros⟩ := readNumber?_saturates ('+' :: digits)
    rw [← hinteger largest hlargest (by decide)]
    exact hzeros ['+'] (by decide) '9' digits.tail rfl (by decide) k
  exact ⟨⟨hlowest, by decide, (readNumber?_saturates lowest).1 _ hlowest (by decide)⟩,
    ⟨habove, (readNumber?_saturates above).2.1 habove⟩,
    ⟨hletter, hsmall, (readNumber?_saturates ['x']).2.2.1 hletter hsmall⟩,
    ⟨hbelow, by decide, (readNumber?_saturates below).2.2.2.1 _ hbelow (by decide)⟩,
    ⟨by decide, (readNumber?_saturates ['-']).2.2.2.2.1 (by decide)⟩,
    ⟨by decide, by decide, hbehind⟩, hzeros⟩

end Crond
