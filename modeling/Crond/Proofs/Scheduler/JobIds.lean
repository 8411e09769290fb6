import Mathlib.Algebra.Group.Nat.Defs
import Crond.Scheduler.JobId
import Crond.Proofs.Text.Numerals

/-
  Job ids and their texts, one for one.

  A text is read as an id exactly if it is `job` followed by a numeral as it is written
  (`Text.IsNumeral`) of a number below 2^64 (`read?_eq_some_iff`). Such a numeral is that of its
  value, so the texts that are read are the texts of the ids, each read as its own id, and all
  others are handed back as invalid: `parse_eq_ok_iff_text`.
-/

namespace Crond.JobId

open Text

theorem isCanonical_iff (ds : List Char) :
    isCanonical ds = true ↔
      (∀ c ∈ ds, c.isDigit = true) ∧ (ds.head? = some '0' → ds = ['0']) := by
  simp only [isCanonical, Bool.and_eq_true, Bool.or_eq_true, List.all_eq_true, decide_eq_true_eq,
    ne_eq]
  constructor
  · rintro ⟨hdigits, rfl | hhead⟩
    · exact ⟨hdigits, fun _ => rfl⟩
    · exact ⟨hdigits, fun hzero => absurd hzero hhead⟩
  · rintro ⟨hdigits, hzero⟩
    by_cases hhead : ds.head? = some '0'
    · exact ⟨hdigits, .inl (hzero hhead)⟩
    · exact ⟨hdigits, .inr hhead⟩

/-- What is read behind `job`. -/
theorem read?_job_eq_some_iff {ds : List Char} {id : JobId} :
    read? ('j' :: 'o' :: 'b' :: ds) = some id ↔
      IsNumeral ds ∧ decimal ds = id.number ∧ id.number ≤ limit := by
  have hread : read? ('j' :: 'o' :: 'b' :: ds) = some id ↔
      isCanonical ds = true ∧ readNumeral limit ds = .value id.number := by
    obtain ⟨n⟩ := id
    simp only [read?]
    split
    · cases readNumeral limit ds <;> simp [*]
    · simp [*]
  rw [hread, isCanonical_iff, readNumeral_eq_value_iff]
  constructor
  · rintro ⟨⟨_, hzero⟩, hdigits, hvalue, hle⟩
    exact ⟨⟨hdigits, hzero⟩, hvalue, hle⟩
  · rintro ⟨⟨hdigits, hzero⟩, hvalue, hle⟩
    exact ⟨⟨hdigits.2, hzero⟩, hdigits, hvalue, hle⟩

theorem exists_job_of_read? {cs : List Char} {id : JobId} (h : read? cs = some id) :
    ∃ ds, cs = 'j' :: 'o' :: 'b' :: ds := by
  unfold read? at h
  split at h
  · exact ⟨_, rfl⟩
  · exact absurd h (by simp)

theorem read?_eq_some_iff {cs : List Char} {id : JobId} :
    read? cs = some id ↔
      ∃ ds, cs = 'j' :: 'o' :: 'b' :: ds ∧ IsNumeral ds ∧ decimal ds = id.number ∧
        id.number ≤ limit := by
  constructor
  · intro h
    obtain ⟨ds, rfl⟩ := exists_job_of_read? h
    exact ⟨ds, rfl, read?_job_eq_some_iff.mp h⟩
  · rintro ⟨ds, rfl, h⟩
    exact read?_job_eq_some_iff.mpr h

/-- The texts that are read are those that are rendered. -/
theorem read?_eq_some_iff_render {cs : List Char} {id : JobId} :
    read? cs = some id ↔ id.number ≤ limit ∧ id.render = cs := by
  rw [read?_eq_some_iff]
  unfold render
  constructor
  · rintro ⟨ds, rfl, hnumeral, hvalue, hle⟩
    rw [← hvalue, numeral_decimal hnumeral]
    exact ⟨hvalue ▸ hle, rfl⟩
  · rintro ⟨hle, rfl⟩
    exact ⟨numeral id.number, rfl, isNumeral_numeral _, decimal_numeral _, hle⟩

theorem parse_eq_ok_iff {s : String} {id : JobId} :
    parse s = .ok id ↔ read? s.toList = some id := by
  unfold parse
  cases read? s.toList <;> simp

theorem parse_eq_error_iff {s : String} {e : Invalid} :
    parse s = .error e ↔ read? s.toList = none ∧ e = ⟨s⟩ := by
  unfold parse
  cases read? s.toList <;> simp [eq_comm]

theorem text_eq_iff {id : JobId} {s : String} : id.text = s ↔ id.render = s.toList := by
  unfold text
  rw [← String.toList_inj, String.toList_ofList]

theorem le_limit_iff (n : Nat) : n ≤ limit ↔ n < 2 ^ 64 := by
  unfold limit
  omega

/-- Digits are the characters from 0 to 9 in ASCII. -/
theorem isDigit_iff (c : Char) : c.isDigit = true ↔ '0' ≤ c ∧ c ≤ '9' := by
  rw [Char.isDigit_iff_toNat, Char.le_def, Char.le_def]
  rfl

/--
A text is read as an id below 2^64 if and only if it is the text of that id. Such texts are `job`
followed by digits with no superfluous zero in front and a value below 2^64; any other text is
invalid, and is kept whole in the error. No two texts are read as one id.
-/
theorem parse_eq_ok_iff_text (s : String) :
    (∀ id, parse s = .ok id ↔ id.number < 2 ^ 64 ∧ id.text = s) ∧
      (∀ e, parse s = .error e ↔ e = ⟨s⟩ ∧ ∀ id : JobId, id.number < 2 ^ 64 → id.text ≠ s) ∧
      ((∃ id, parse s = .ok id) ↔
        ∃ ds, s.toList = 'j' :: 'o' :: 'b' :: ds ∧ ds ≠ [] ∧ (∀ c ∈ ds, '0' ≤ c ∧ c ≤ '9') ∧
          (ds.head? = some '0' → ds = ['0']) ∧ decimal ds < 2 ^ 64) ∧
      ∀ t id, parse s = .ok id → parse t = .ok id → s = t := by
  have hok : ∀ (t : String) (id : JobId),
      parse t = .ok id ↔ id.number < 2 ^ 64 ∧ id.text = t := by
    intro t id
    rw [parse_eq_ok_iff, read?_eq_some_iff_render, le_limit_iff, text_eq_iff]
  refine ⟨hok s, fun e => ?_, ?_, fun t id hs ht => ?_⟩
  · rw [parse_eq_error_iff, and_comm, Option.eq_none_iff_forall_ne_some]
    refine and_congr_right fun _ => forall_congr' fun id => ?_
    rw [ne_eq, ← parse_eq_ok_iff, hok s id, not_and]
  · simp only [parse_eq_ok_iff, read?_eq_some_iff, le_limit_iff, IsNumeral, IsDigits, isDigit_iff]
    constructor
    · rintro ⟨id, ds, hs, ⟨⟨hne, hdigits⟩, hzero⟩, hvalue, hlt⟩
      exact ⟨ds, hs, hne, hdigits, hzero, hvalue ▸ hlt⟩
    · rintro ⟨ds, hs, hne, hdigits, hzero, hlt⟩
      exact ⟨⟨decimal ds⟩, ds, hs, ⟨⟨hne, hdigits⟩, hzero⟩, rfl, hlt⟩
  · exact ((hok s id).mp hs).2.symm.trans ((hok t id).mp ht).2

/-- Around the largest id: its own text is read, while a zero more in front, a sign, a blank or a
    number one larger make it invalid. -/
theorem parse_text_largest :
    parse "job18446744073709551615" = .ok ⟨18446744073709551615⟩ ∧
      (∀ s ∈ ["job018446744073709551615", "job+18446744073709551615",
          "job18446744073709551615 ", "job18446744073709551616", "job"],
        parse s = .error ⟨s⟩) ∧
      ∀ t, parse t = .ok ⟨18446744073709551615⟩ → "job18446744073709551615" = t := by
  have hread : parse "job18446744073709551615" = .ok ⟨18446744073709551615⟩ :=
    ((parse_eq_ok_iff_text _).1 _).mpr ⟨by decide, by decide +kernel⟩
  refine ⟨hread, ?_, fun t ht => (parse_eq_ok_iff_text _).2.2.2 t _ hread ht⟩
  decide +kernel

end Crond.JobId
