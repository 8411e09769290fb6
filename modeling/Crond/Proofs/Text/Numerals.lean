import Mathlib.Data.List.TakeWhile
import Crond.Text.Numeral

/-
  Reading a numeral, told by the digits alone.

  A text of digits has a value (`decimal`). Reading ends in that value if the text is digits
  throughout and the value is within the limit (`readNumeral_eq_value_iff`); it finds the number
  too large exactly when the digits in front are, whatever comes behind them
  (`readNumeral_eq_tooLarge_iff`). So of a text of digits the value decides
  (`readNumeral_digits`), and of any other text that of the digits in front
  (`readNumeral_other`). Some of the digits are enough to be too large
  (`lt_decimal_leadingDigits_iff`), and zeros in front never are (`readNumeral_zeros`).

  The numerals that are written are the texts of digits without superfluous zeros: such a text is
  the numeral of its value (`numeral_decimal`).
-/

namespace Crond.Text

/-- One digit or more, and nothing else. -/
def IsDigits (cs : List Char) : Prop := cs ≠ [] ∧ ∀ c ∈ cs, c.isDigit = true

instance (cs : List Char) : Decidable (IsDigits cs) :=
  decidable_of_iff (cs ≠ [] ∧ cs.all Char.isDigit = true) (by unfold IsDigits; simp)

/-- The value of a text of digits. -/
def decimal (cs : List Char) : Nat := Nat.ofDigitChars 10 cs 0

/-- The digits in front. -/
def leadingDigits (cs : List Char) : List Char := cs.takeWhile Char.isDigit

theorem leadingDigits_eq_self_iff {cs : List Char} :
    leadingDigits cs = cs ↔ ∀ c ∈ cs, c.isDigit = true := List.takeWhile_eq_self_iff

theorem le_ofDigitChars (sofar : Nat) (cs : List Char) :
    sofar ≤ Nat.ofDigitChars 10 cs sofar := by
  induction cs generalizing sofar with
  | nil => exact Nat.le_of_eq Nat.ofDigitChars_nil.symm
  | cons c cs ih =>
    rw [Nat.ofDigitChars_cons]
    have := ih (10 * sofar + (c.toNat - '0'.toNat))
    omega

theorem readDigits_cons_digit (limit sofar : Nat) {c : Char} (hc : c.isDigit = true)
    (cs : List Char) :
    readDigits limit sofar (c :: cs) =
      if limit < 10 * sofar + (c.toNat - '0'.toNat) then .tooLarge
      else readDigits limit (10 * sofar + (c.toNat - '0'.toNat)) cs := by
  have hd : digit? c = some (c.toNat - '0'.toNat) := if_pos hc
  simp only [readDigits, hd]

theorem readDigits_cons_other (limit sofar : Nat) {c : Char} (hc : c.isDigit = false)
    (cs : List Char) : readDigits limit sofar (c :: cs) = .malformed := by
  have hd : digit? c = none := if_neg (by rw [hc]; decide)
  simp only [readDigits, hd]

theorem readDigits_eq_value_iff {limit sofar n : Nat} {cs : List Char} (h : sofar ≤ limit) :
    readDigits limit sofar cs = .value n ↔
      (∀ c ∈ cs, c.isDigit = true) ∧ Nat.ofDigitChars 10 cs sofar = n ∧ n ≤ limit := by
  induction cs generalizing sofar with
  | nil =>
    simp only [readDigits, Reading.value.injEq, Nat.ofDigitChars_nil]
    constructor
    · rintro rfl
      exact ⟨fun _ hc => absurd hc List.not_mem_nil, rfl, h⟩
    · exact fun hn => hn.2.1
  | cons c cs ih =>
    rw [List.forall_mem_cons, Nat.ofDigitChars_cons]
    cases hc : c.isDigit with
    | false =>
      rw [readDigits_cons_other _ _ hc]
      simp
    | true =>
      rw [readDigits_cons_digit _ _ hc]
      have hle := le_ofDigitChars (10 * sofar + (c.toNat - '0'.toNat)) cs
      split
      · constructor
        · intro hn
          exact absurd hn (by simp)
        · intro hn
          omega
      · rw [ih (by omega)]
        simp only [true_and]

theorem readDigits_eq_tooLarge_iff {limit sofar : Nat} {cs : List Char} (h : sofar ≤ limit) :
    readDigits limit sofar cs = .tooLarge ↔
      limit < Nat.ofDigitChars 10 (leadingDigits cs) sofar := by
  induction cs generalizing sofar with
  | nil =>
    simp only [readDigits, leadingDigits, List.takeWhile_nil, Nat.ofDigitChars_nil]
    constructor
    · intro hr
      exact absurd hr (by simp)
    · intro hlt
      omega
  | cons c cs ih =>
    cases hc : c.isDigit with
    | false =>
      rw [readDigits_cons_other _ _ hc, leadingDigits, List.takeWhile_cons_of_neg (by simp [hc]),
        Nat.ofDigitChars_nil]
      constructor
      · intro hr
        exact absurd hr (by simp)
      · intro hlt
        omega
    | true =>
      rw [readDigits_cons_digit _ _ hc, leadingDigits, List.takeWhile_cons_of_pos hc,
        Nat.ofDigitChars_cons]
      have hle := le_ofDigitChars (10 * sofar + (c.toNat - '0'.toNat)) (leadingDigits cs)
      unfold leadingDigits at hle
      split
      · constructor
        · intro _
          omega
        · exact fun _ => rfl
      · exact ih (by omega)

theorem readNumeral_eq_value_iff {limit n : Nat} {cs : List Char} :
    readNumeral limit cs = .value n ↔ IsDigits cs ∧ decimal cs = n ∧ n ≤ limit := by
  cases cs with
  | nil => simp [readNumeral, IsDigits]
  | cons c cs =>
    rw [readNumeral, readDigits_eq_value_iff (Nat.zero_le _)]
    unfold IsDigits decimal
    simp

theorem readNumeral_eq_tooLarge_iff {limit : Nat} {cs : List Char} :
    readNumeral limit cs = .tooLarge ↔ limit < decimal (leadingDigits cs) := by
  cases cs with
  | nil => simp [readNumeral, leadingDigits, decimal, Nat.ofDigitChars_nil]
  | cons c cs =>
    rw [readNumeral, readDigits_eq_tooLarge_iff (Nat.zero_le _)]
    rfl

theorem readNumeral_digits (limit : Nat) {cs : List Char} (h : IsDigits cs) :
    readNumeral limit cs = if limit < decimal cs then .tooLarge else .value (decimal cs) := by
  split
  · rename_i hlt
    rw [readNumeral_eq_tooLarge_iff, leadingDigits_eq_self_iff.mpr h.2]
    exact hlt
  · rename_i hlt
    exact readNumeral_eq_value_iff.mpr ⟨h, rfl, Nat.not_lt.mp hlt⟩

theorem readNumeral_other (limit : Nat) {cs : List Char} (h : ¬ IsDigits cs) :
    readNumeral limit cs =
      if limit < decimal (leadingDigits cs) then .tooLarge else .malformed := by
  cases hr : readNumeral limit cs with
  | value n => exact absurd (readNumeral_eq_value_iff.mp hr).1 h
  | tooLarge => rw [if_pos (readNumeral_eq_tooLarge_iff.mp hr)]
  | malformed =>
    rw [if_neg]
    intro hlt
    rw [readNumeral_eq_tooLarge_iff.mpr hlt] at hr
    exact absurd hr (by simp)

/-! ### What settles the outcome -/

theorem decimal_le_append (front back : List Char) : decimal front ≤ decimal (front ++ back) := by
  unfold decimal
  rw [Nat.ofDigitChars_append]
  exact le_ofDigitChars _ back

theorem leadingDigits_append {front : List Char} (h : ∀ c ∈ front, c.isDigit = true)
    (back : List Char) : leadingDigits (front ++ back) = front ++ leadingDigits back :=
  List.takeWhile_append_of_pos h

/-- The digits in front are too large as soon as some of them are. -/
theorem lt_decimal_leadingDigits_iff {limit : Nat} {cs : List Char} :
    limit < decimal (leadingDigits cs) ↔
      ∃ front back, cs = front ++ back ∧ (∀ c ∈ front, c.isDigit = true) ∧
        limit < decimal front := by
  constructor
  · intro hlt
    exact ⟨leadingDigits cs, cs.dropWhile Char.isDigit, List.takeWhile_append_dropWhile.symm,
      fun _ hc => List.mem_takeWhile_imp hc, hlt⟩
  · rintro ⟨front, back, rfl, hfront, hlt⟩
    rw [leadingDigits_append hfront]
    exact Nat.lt_of_lt_of_le hlt (decimal_le_append front _)

/-- A zero in front of the first other digit leaves the value so far at 0. -/
theorem readDigits_cons_zero (limit : Nat) (cs : List Char) :
    readDigits limit 0 ('0' :: cs) = readDigits limit 0 cs := by
  rw [readDigits_cons_digit limit 0 (by decide), Nat.mul_zero, Nat.zero_add, Nat.sub_self,
    if_neg (Nat.not_lt_zero limit)]

theorem readDigits_zeros (limit k : Nat) (cs : List Char) :
    readDigits limit 0 (List.replicate k '0' ++ cs) = readDigits limit 0 cs := by
  induction k with
  | zero => rfl
  | succ k ih => rw [List.replicate_succ, List.cons_append, readDigits_cons_zero, ih]

/-- Zeros in front change nothing, unless there is nothing behind them. -/
theorem readNumeral_zeros (limit k : Nat) (c : Char) (cs : List Char) :
    readNumeral limit (List.replicate k '0' ++ c :: cs) = readNumeral limit (c :: cs) := by
  cases k with
  | zero => rfl
  | succ k => exact readDigits_zeros limit (k + 1) (c :: cs)

/-! ## Numerals as they are written -/

theorem isDigits_numeral (n : Nat) : IsDigits (numeral n) :=
  ⟨Nat.toDigits_ne_nil, fun _ hc => Nat.isDigit_of_mem_toDigits (by decide) (by decide) hc⟩

theorem decimal_numeral (n : Nat) : decimal (numeral n) = n :=
  Nat.ofDigitChars_toDigits (by decide) (by decide)

/-- Digits with no zero in front, except for the one of zero itself. -/
def IsNumeral (cs : List Char) : Prop := IsDigits cs ∧ (cs.head? = some '0' → cs = ['0'])

theorem digit_bounds {c : Char} (h : c.isDigit = true) :
    '0'.toNat ≤ c.toNat ∧ c.toNat - '0'.toNat < 10 := by
  obtain ⟨hlow, hhigh⟩ := Char.isDigit_iff_toNat.mp h
  have hnine : '9'.toNat = '0'.toNat + 9 := by decide
  omega

theorem digitChar_value {c : Char} (h : c.isDigit = true) :
    Nat.digitChar (c.toNat - '0'.toNat) = c := by
  obtain ⟨hlow, hlt⟩ := digit_bounds h
  have hzero : '0'.toNat = 48 := by decide
  apply Char.toNat_inj.mp
  rw [Nat.toNat_digitChar_of_lt_ten hlt]
  omega

theorem numeral_of_lt_ten {n : Nat} (h : n < 10) : numeral n = [Nat.digitChar n] :=
  Nat.toDigits_of_lt_base h

theorem numeral_of_ten_le {n : Nat} (h : 10 ≤ n) :
    numeral n = numeral (n / 10) ++ [Nat.digitChar (n % 10)] :=
  Nat.toDigits_of_base_le (by decide) h

/-- Digits behind a number other than zero are behind its numeral. -/
theorem numeral_ofDigitChars {sofar : Nat} (h : 0 < sofar) {cs : List Char}
    (hcs : ∀ c ∈ cs, c.isDigit = true) :
    numeral (Nat.ofDigitChars 10 cs sofar) = numeral sofar ++ cs := by
  induction cs generalizing sofar with
  | nil => rw [Nat.ofDigitChars_nil, List.append_nil]
  | cons c cs ih =>
    rw [List.forall_mem_cons] at hcs
    obtain ⟨_, hlt⟩ := digit_bounds hcs.1
    have hquotient : (10 * sofar + (c.toNat - '0'.toNat)) / 10 = sofar := by omega
    have hrest : (10 * sofar + (c.toNat - '0'.toNat)) % 10 = c.toNat - '0'.toNat := by omega
    rw [Nat.ofDigitChars_cons, ih (by omega) hcs.2, numeral_of_ten_le (by omega), hquotient,
      hrest, digitChar_value hcs.1, List.append_assoc, List.singleton_append]

theorem numeral_decimal {cs : List Char} (h : IsNumeral cs) : numeral (decimal cs) = cs := by
  obtain ⟨⟨hne, hdigits⟩, hhead⟩ := h
  cases cs with
  | nil => exact absurd rfl hne
  | cons c cs =>
    by_cases hc : c = '0'
    · subst hc
      rw [hhead rfl]
      rfl
    · -- The first digit is a number of its own, and the others stand behind its numeral.
      rw [List.forall_mem_cons] at hdigits
      obtain ⟨hlow, hlt⟩ := digit_bounds hdigits.1
      have hpos : 0 < c.toNat - '0'.toNat := by
        have hother : c.toNat ≠ '0'.toNat := fun heq => hc (Char.toNat_inj.mp heq)
        omega
      rw [decimal, Nat.ofDigitChars_cons, Nat.mul_zero, Nat.zero_add,
        numeral_ofDigitChars hpos hdigits.2, numeral_of_lt_ten hlt, digitChar_value hdigits.1,
        List.singleton_append]

theorem head?_numeral {n : Nat} (h : 0 < n) : (numeral n).head? ≠ some '0' := by
  induction n using Nat.strongRecOn with
  | ind n ih =>
    by_cases hn : n < 10
    · rw [numeral_of_lt_ten hn, List.head?_singleton]
      intro hzero
      have hchar : Nat.digitChar n = '0' := Option.some.inj hzero
      have hvalue := Nat.toNat_digitChar_of_lt_ten hn
      rw [hchar] at hvalue
      have h48 : '0'.toNat = 48 := by decide
      omega
    · obtain ⟨d, ds, hcons⟩ := List.exists_cons_of_ne_nil (isDigits_numeral (n / 10)).1
      have hfront := ih (n / 10) (by omega) (by omega)
      rw [hcons, List.head?_cons] at hfront
      rw [numeral_of_ten_le (by omega), hcons, List.cons_append, List.head?_cons]
      exact hfront

theorem isNumeral_numeral (n : Nat) : IsNumeral (numeral n) := by
  refine ⟨isDigits_numeral n, fun hhead => ?_⟩
  by_cases hn : 0 < n
  · exact absurd hhead (head?_numeral hn)
  · rw [Nat.eq_zero_of_not_pos hn]
    rfl

end Crond.Text
