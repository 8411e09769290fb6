import Crond.Proofs.Schedule.Canonical
import Crond.Proofs.Schedule.Meaning

/-
  Membership worked out in 64-bit words.

  A checked difference is none where no word holds it (`Word.checkedSub`). The remainder itself is
  a trap where the divisor is 0 or no word holds the quotient (`Word.rem`); a checked remainder
  looks for the two first, and is none there (`Word.checkedRem`). `Pattern.evaluate` tells
  membership with comparisons and these operations alone.

  Proved: `evaluate_eq_ok`, for words nothing traps, and the answer is that of `contains`; and
  with it `contains_iff_mem_meaning`, what membership in words has to do with the meaning of a
  pattern over all integers.
-/

namespace Crond

/-! ## Words -/

/-- What ends a computation with words. -/
inductive Trap where
  | overflow
  | zeroDivisor
  deriving DecidableEq, Repr

namespace Word

/-- The difference, if a word holds it. -/
def checkedSub (a b : Int) : Option Int := if IsWord (a - b) then some (a - b) else none

/-- The remainder of the division that rounds towards 0. It is formed with the quotient. -/
def rem (a b : Int) : Except Trap Int :=
  if b = 0 then .error .zeroDivisor
  else if IsWord (a.tdiv b) then .ok (a.tmod b) else .error .overflow

/-- The remainder, if the divisor is not 0 and a word holds the quotient. -/
def checkedRem (a b : Int) : Except Trap (Option Int) :=
  if b = 0 ∨ (a = smallest ∧ b = -1) then .ok none
  else do
    let r ← rem a b
    return some r

/-- The one quotient of words that is no word is that of the smallest by -1. -/
theorem isWord_tdiv {a b : Int} (ha : IsWord a) (hb : b ≠ 0) (h : ¬ (a = smallest ∧ b = -1)) :
    IsWord (a.tdiv b) := by
  have hsmallest : smallest = -9223372036854775808 := rfl
  have hlargest : largest = 9223372036854775807 := rfl
  obtain ⟨hlow, hhigh⟩ := ha
  by_cases hone : b.natAbs = 1
  · rcases (show b = 1 ∨ b = -1 by omega) with rfl | rfl
    · rw [Int.tdiv_one]
      exact ⟨hlow, hhigh⟩
    · rw [Int.tdiv_neg, Int.tdiv_one]
      exact ⟨by omega, by omega⟩
  · -- A divisor of two or more halves the distance from 0 at least.
    have hquotient : (a.tdiv b).natAbs = a.natAbs / b.natAbs := Int.natAbs_tdiv a b
    have hhalf : a.natAbs / b.natAbs ≤ a.natAbs / 2 := Nat.div_le_div_left (by omega) (by decide)
    exact ⟨by omega, by omega⟩

theorem rem_eq_ok {a b : Int} (ha : IsWord a) (hb : b ≠ 0) (h : ¬ (a = smallest ∧ b = -1)) :
    rem a b = .ok (a.tmod b) := by
  unfold rem
  rw [if_neg hb, if_pos (isWord_tdiv ha hb h)]

/-- A checked remainder never traps. -/
theorem checkedRem_eq_ok {a : Int} (ha : IsWord a) (b : Int) :
    checkedRem a b =
      .ok (if b = 0 ∨ (a = smallest ∧ b = -1) then none else some (a.tmod b)) := by
  unfold checkedRem
  by_cases h : b = 0 ∨ (a = smallest ∧ b = -1)
  · rw [if_pos h, if_pos h]
  · rw [if_neg h, if_neg h, rem_eq_ok ha (fun hb => h (.inl hb)) fun hb => h (.inr hb)]
    rfl

end Word

namespace Pattern

/-! ## Membership -/

/-- The numbers that stand in a pattern itself, and not only in a part of it. -/
def numbers : Pattern → List Int
  | value c => [c]
  | span a b => [a, b]
  | every _ n => [n]
  | any | union _ => []

/-- All numbers in a pattern are words. -/
def InWords (p : Pattern) : Prop := ∀ q ∈ p.parts, ∀ n ∈ q.numbers, IsWord n

instance (p : Pattern) : Decidable p.InWords :=
  inferInstanceAs (Decidable (∀ q ∈ p.parts, ∀ n ∈ q.numbers, IsWord n))

/-- How far a value lies above the anchor of a base, if it does and a word can tell. -/
def offset? (base : Pattern) (v : Int) : Option Int :=
  match base with
  | any => some v
  | value anchor | span anchor _ => if anchor ≤ v then Word.checkedSub v anchor else none
  | every _ _ | union _ => none

/-- Whether a value is on a step from the anchor of a base, in words. -/
def evaluateStep (base : Pattern) (v n : Int) : Except Trap Bool :=
  match base.offset? v with
  | none => .ok false
  | some d => do
    let r ← Word.checkedRem d n
    return r = some 0

mutual

/-- Membership in words. The members of a union are asked in turn, up to the first that holds
    the value. -/
def evaluate : Pattern → Int → Except Trap Bool
  | any, _ => .ok true
  | value c, v => .ok (v = c)
  | span first last, v => .ok (first ≤ v && v ≤ last)
  | every base n, v => if base.reaches v then base.evaluateStep v n else .ok false
  | union members, v => evaluateAny members v

def evaluateAny : List Pattern → Int → Except Trap Bool
  | [], _ => .ok false
  | p :: ps, v => do
    if ← p.evaluate v then return true else evaluateAny ps v

end

theorem offset?_anchored (anchor v : Int) :
    (if anchor ≤ v then Word.checkedSub v anchor else none) =
      if anchor ≤ v ∧ v - anchor ≤ largest then some (v - anchor) else none := by
  have hsmallest : smallest ≤ 0 := by decide
  by_cases hle : anchor ≤ v
  · have hword : IsWord (v - anchor) ↔ anchor ≤ v ∧ v - anchor ≤ largest :=
      ⟨fun h => ⟨hle, h.2⟩, fun h => ⟨by omega, h.2⟩⟩
    rw [if_pos hle, Word.checkedSub, if_congr hword rfl rfl]
  · rw [if_neg hle, if_neg fun h => hle h.1]

theorem offset?_eq_distance? (base : Pattern) (v : Int) : base.offset? v = base.distance? v := by
  cases base with
  | any => rfl
  | value a => exact offset?_anchored a v
  | span a b => exact offset?_anchored a v
  | every base n => rfl
  | union ps => rfl

/-- A distance that is told is a word. -/
theorem isWord_of_offset?_eq_some {base : Pattern} {v d : Int} (hv : IsWord v)
    (h : base.offset? v = some d) : IsWord d := by
  have hanchored : ∀ anchor, (if anchor ≤ v then Word.checkedSub v anchor else none) = some d →
      IsWord d := by
    intro anchor h
    obtain ⟨-, h⟩ := Option.ite_none_right_eq_some.mp h
    obtain ⟨hword, hd⟩ := Option.ite_none_right_eq_some.mp h
    rwa [Option.some.inj hd] at hword
  cases base with
  | any => rwa [← Option.some.inj h]
  | value a => exact hanchored a h
  | span a b => exact hanchored a h
  | every base n => exact absurd h nofun
  | union ps => exact absurd h nofun

theorem checkedRem_eq_some_zero_iff {d n : Int} :
    (if n = 0 ∨ (d = smallest ∧ n = -1) then none else some (d.tmod n)) = some 0 ↔
      divides n d = true := by
  rw [divides_iff, Option.ite_none_left_eq_some, not_or, and_assoc, Option.some.injEq,
    ← Int.dvd_iff_tmod_eq_zero]

theorem evaluateStep_eq_ok (base : Pattern) {v : Int} (hv : IsWord v) (n : Int) :
    base.evaluateStep v n = .ok (base.onStep v n) := by
  unfold evaluateStep onStep
  rw [← offset?_eq_distance?]
  cases hd : base.offset? v with
  | none => rfl
  | some d =>
    dsimp only
    rw [Word.checkedRem_eq_ok (isWord_of_offset?_eq_some hv hd)]
    refine congrArg Except.ok ?_
    rw [Bool.eq_iff_iff, decide_eq_true_eq, checkedRem_eq_some_zero_iff]

theorem evaluateAny_eq_ok {ps : List Pattern} {v : Int}
    (h : ∀ p ∈ ps, p.evaluate v = .ok (p.contains v)) :
    evaluateAny ps v = .ok (anyContains ps v) := by
  induction ps with
  | nil => rfl
  | cons p ps ih =>
    rw [List.forall_mem_cons] at h
    rw [evaluateAny, h.1, anyContains]
    cases p.contains v with
    | true => rfl
    | false => exact ih h.2

/-- No operation on words traps, and the answer is that of membership. -/
theorem evaluate_eq_ok (p : Pattern) {v : Int} (hv : IsWord v) :
    p.evaluate v = .ok (p.contains v) := by
  induction p using induction_parts with
  | any => rfl
  | value c => rfl
  | span a b => rfl
  | every base n ih =>
    rw [evaluate, contains_every, evaluateStep_eq_ok base hv n]
    cases base.reaches v <;> rfl
  | union ps ih => exact evaluateAny_eq_ok ih

/-- Membership in the arithmetic of words. A pattern holds the values of its meaning but for those
    beyond words, and telling so never traps. From 0 on nothing is beyond words if no steps begin
    below 0. Patterns that are told apart by signs of steps alone hold the same values, the
    smallest word aside. -/
theorem contains_iff_mem_meaning (p : Pattern) :
    (∀ v, p.contains v = true ↔ v ∈ p.meaning beyondWords) ∧
    (p.InWords → ∀ v, IsWord v → p.evaluate v = .ok (p.contains v)) ∧
    (p.AnchoredFromZero → ∀ v, 0 ≤ v → v ≤ largest →
      (p.contains v = true ↔ v ∈ p.meaning nothing)) ∧
    ∀ q : Pattern, q.unsigned = p.unsigned → ∀ v, v ≠ smallest →
      (q.contains v = true ↔ p.contains v = true) := by
  refine ⟨p.contains_iff, fun _ v hv => evaluate_eq_ok p hv, fun h v hv hle => ?_,
    fun q hq v hv => ?_⟩
  · rw [p.contains_iff, mem_meaning_iff_of_nonneg h hv hle]
  · rw [← contains_unsigned hv q, hq, contains_unsigned hv p]

/-- The smallest word is a multiple of -1, but its quotient is beyond words. The largest one is no
    exception, whatever the signs of the steps are, and neither are steps that do not count. -/
theorem contains_iff_mem_meaning_smallest :
    let p : Pattern := .union [.every .any (-1), .every (.value 3) smallest, .every (.span 0 9) 0]
    let q : Pattern := .union [.every .any 1, .every (.value 3) smallest, .every (.span 0 9) 0]
    p.InWords ∧ p.AnchoredFromZero ∧ q.unsigned = p.unsigned ∧
      smallest ∉ p.meaning beyondWords ∧ smallest ∈ p.meaning nothing ∧
      p.evaluate smallest = .ok false ∧ p.evaluate largest = .ok true ∧
      largest ∈ p.meaning nothing ∧ q.contains largest = true ∧ q.contains smallest = true := by
  intro p q
  obtain ⟨hmeaning, heval, hzero, hsigns⟩ := contains_iff_mem_meaning p
  have hwords : p.InWords := by decide
  have hanchored : p.AnchoredFromZero := by decide
  have hunsigned : q.unsigned = p.unsigned := by decide
  have hlargest : p.contains largest = true := by decide
  have hmultiple : smallest ∈ p.meaning nothing :=
    mem_meaning_union.mpr ⟨.every .any (-1), List.mem_cons_self,
      ⟨by decide, -smallest, by decide⟩, Set.notMem_empty _⟩
  exact ⟨hwords, hanchored, hunsigned, (hmeaning smallest).not.mp (by decide), hmultiple,
    heval hwords smallest (by decide), (heval hwords largest (by decide)).trans (by rw [hlargest]),
    (hzero hanchored largest (by decide) (by decide)).mp hlargest,
    (hsigns q hunsigned largest (by decide)).mpr hlargest, by decide⟩

end Pattern

end Crond
