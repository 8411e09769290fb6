import Mathlib.Algebra.Divisibility.Basic
import Mathlib.Algebra.Ring.Int.Defs
import Mathlib.Data.Set.Lattice
import Crond.Schedule.Pattern

/-
  What a pattern means: a set of integers.

  The meaning is told over all integers, by the constructors alone (`Pattern.meaning`). A value may
  be taken away from the steps of a base; `beyondWords` are those that membership takes away, since
  no word tells their distance or the quotient of it.

  Proved:
  * `contains_iff`: a pattern holds the values of its meaning that are not beyond words.
  * `mem_meaning_iff_of_nonneg`: if no steps begin below 0, nothing from 0 on is beyond words.
  * `contains_unsigned`: the signs of the steps count for nothing but the smallest word.
-/

namespace Crond.Pattern

/-! ## Parts -/

/-- Induction over a pattern and the patterns in it. -/
@[elab_as_elim]
theorem induction_parts {motive : Pattern → Prop} (any : motive any)
    (value : ∀ c, motive (value c)) (span : ∀ a b, motive (span a b))
    (every : ∀ base n, motive base → motive (every base n))
    (union : ∀ ps, (∀ p ∈ ps, motive p) → motive (union ps)) (p : Pattern) : motive p :=
  @Pattern.rec motive (fun ps => ∀ p ∈ ps, motive p) any value span every union
    (List.forall_mem_nil _) (fun _ _ hp hps => List.forall_mem_cons.mpr ⟨hp, hps⟩) p

mutual

/-- A pattern and the patterns in it. -/
def parts : Pattern → List Pattern
  | any => [any]
  | value c => [value c]
  | span a b => [span a b]
  | every base n => every base n :: base.parts
  | union ps => union ps :: partsOfAll ps

def partsOfAll : List Pattern → List Pattern
  | [] => []
  | p :: ps => p.parts ++ partsOfAll ps

end

theorem self_mem_parts (p : Pattern) : p ∈ p.parts := by
  cases p <;> exact List.mem_cons_self

theorem mem_parts_base {base q : Pattern} (n : Int) (h : q ∈ base.parts) :
    q ∈ (every base n).parts := List.mem_cons_of_mem _ h

theorem mem_parts_member {ps : List Pattern} {p q : Pattern} (hp : p ∈ ps) (h : q ∈ p.parts) :
    q ∈ (union ps).parts := by
  have hall : q ∈ partsOfAll ps := by
    induction ps with
    | nil => exact absurd hp List.not_mem_nil
    | cons p' ps ih =>
      rw [partsOfAll, List.mem_append]
      rcases List.mem_cons.mp hp with rfl | hp
      · exact Or.inl h
      · exact Or.inr (ih hp)
  exact List.mem_cons_of_mem _ hall

/-! ## Meaning -/

/-- The values to which steps from a base lead: the multiples of the step where nothing anchors
    them, and else the values from the anchor upwards, in a span up to its end. A step of 0 leads
    nowhere, and so do steps from anything else than a base. -/
def stepsFrom (n : Int) : Pattern → Set Int
  | any => {v | n ≠ 0 ∧ ∃ k : Int, v = k * n}
  | value c => {v | n ≠ 0 ∧ ∃ k : Nat, v = c + k * n.natAbs}
  | span a b => {v | n ≠ 0 ∧ ∃ k : Nat, v = a + k * n.natAbs} ∩ {v | a ≤ v ∧ v ≤ b}
  | every _ _ | union _ => ∅

mutual

/-- The set of a pattern, where `lost` is taken away from the steps of a base. -/
def meaning (lost : Pattern → Int → Set Int) : Pattern → Set Int
  | any => Set.univ
  | value c => {c}
  | span a b => {v | a ≤ v ∧ v ≤ b}
  | every base n => base.stepsFrom n \ lost base n
  | union ps => meaningOfAll lost ps

def meaningOfAll (lost : Pattern → Int → Set Int) : List Pattern → Set Int
  | [] => ∅
  | p :: ps => p.meaning lost ∪ meaningOfAll lost ps

end

/-- Nothing is taken away: the meaning over all integers. -/
def nothing : Pattern → Int → Set Int := fun _ _ => ∅

/-- The values whose distance from the anchor is too large for a word, and the one value whose
    quotient by a step is. -/
def beyondWords : Pattern → Int → Set Int
  | any, n => {v | v = smallest ∧ n = -1}
  | value a, _ | span a _, _ => {v | largest < v - a}
  | every _ _, _ | union _, _ => ∅

theorem meaning_union (lost : Pattern → Int → Set Int) (ps : List Pattern) :
    (union ps).meaning lost = ⋃ p ∈ ps, p.meaning lost := by
  change meaningOfAll lost ps = _
  induction ps with
  | nil => simp [meaningOfAll]
  | cons p ps ih => rw [meaningOfAll, ih]; simp

theorem mem_meaning_union {lost : Pattern → Int → Set Int} {ps : List Pattern} {v : Int} :
    v ∈ (union ps).meaning lost ↔ ∃ p ∈ ps, v ∈ p.meaning lost := by
  rw [meaning_union]
  simp

/-! ## Membership -/

theorem divides_iff (n d : Int) :
    divides n d = true ↔ n ≠ 0 ∧ ¬ (d = smallest ∧ n = -1) ∧ n ∣ d := by
  simp only [divides, Int.dvd_iff_emod_eq_zero, Bool.and_eq_true, decide_eq_true_eq, and_assoc,
    Bool.not_eq_true', ← Bool.not_eq_true]

/-- Steps upwards from an anchor, told by divisibility. -/
theorem exists_steps_iff {a n v : Int} :
    (∃ k : Nat, v = a + k * n.natAbs) ↔ a ≤ v ∧ n ∣ v - a := by
  constructor
  · rintro ⟨k, rfl⟩
    have hnonneg : 0 ≤ (k : Int) * n.natAbs :=
      Int.mul_nonneg (Int.natCast_nonneg k) (Int.natCast_nonneg n.natAbs)
    have hdistance : a + k * n.natAbs - a = k * n.natAbs := by omega
    rw [hdistance]
    exact ⟨by omega, Int.dvd_mul_of_dvd_right Int.dvd_natAbs_self⟩
  · rintro ⟨hle, hdvd⟩
    obtain ⟨k, hk⟩ := Int.natAbs_dvd_natAbs.mpr hdvd
    refine ⟨k, ?_⟩
    have hdistance : v - a = ((n.natAbs * k : Nat) : Int) := by omega
    rw [Int.natCast_mul, Int.mul_comm] at hdistance
    omega

/-- What is on a step above an anchor, in the arithmetic of words. -/
theorem anchored_iff {a n v : Int} :
    (a ≤ v ∧ v - a ≤ largest) ∧ divides n (v - a) = true ↔
      (n ≠ 0 ∧ ∃ k : Nat, v = a + k * n.natAbs) ∧ ¬ largest < v - a := by
  have hsmallest : smallest < 0 := by decide
  rw [divides_iff, exists_steps_iff]
  constructor
  · rintro ⟨⟨hle, hfar⟩, hn, _, hdvd⟩
    exact ⟨⟨hn, hle, hdvd⟩, by omega⟩
  · rintro ⟨⟨hn, hle, hdvd⟩, hfar⟩
    exact ⟨⟨hle, by omega⟩, hn, by omega, hdvd⟩

theorem onStep_of_anchor {base : Pattern} {a n v : Int}
    (h : base.distance? v = if a ≤ v ∧ v - a ≤ largest then some (v - a) else none) :
    base.onStep v n = true ↔ (a ≤ v ∧ v - a ≤ largest) ∧ divides n (v - a) = true := by
  unfold onStep
  rw [h]
  by_cases hd : a ≤ v ∧ v - a ≤ largest
  · rw [if_pos hd]
    exact (and_iff_right hd).symm
  · rw [if_neg hd]
    exact iff_of_false Bool.false_ne_true fun h => hd h.1

/-- Steps from a base hold what they mean, but for what is beyond words. -/
theorem contains_every_iff (base : Pattern) (n v : Int) :
    (every base n).contains v = true ↔ v ∈ base.stepsFrom n \ beyondWords base n := by
  rw [contains_every, Bool.and_eq_true]
  cases base with
  | any =>
    change true = true ∧ divides n v = true ↔
      (n ≠ 0 ∧ ∃ k, v = k * n) ∧ ¬ (v = smallest ∧ n = -1)
    rw [divides_iff, dvd_iff_exists_eq_mul_left]
    tauto
  | value a =>
    change decide (a ≤ v) = true ∧ _ ↔
      (n ≠ 0 ∧ ∃ k : Nat, v = a + k * n.natAbs) ∧ ¬ largest < v - a
    rw [onStep_of_anchor rfl, ← anchored_iff, decide_eq_true_eq]
    exact and_iff_right_of_imp fun h => h.1.1
  | span a b =>
    change (decide (a ≤ v) && decide (v ≤ b)) = true ∧ _ ↔
      ((n ≠ 0 ∧ ∃ k : Nat, v = a + k * n.natAbs) ∧ a ≤ v ∧ v ≤ b) ∧ ¬ largest < v - a
    rw [onStep_of_anchor rfl, anchored_iff, Bool.and_eq_true, decide_eq_true_eq, decide_eq_true_eq]
    tauto
  | every base m => exact iff_of_false (fun h => Bool.false_ne_true h.1) fun h => h.1
  | union ps => exact iff_of_false (fun h => Bool.false_ne_true h.1) fun h => h.1

/-- A pattern holds the values of its meaning that are not beyond words. -/
theorem contains_iff (p : Pattern) (v : Int) :
    p.contains v = true ↔ v ∈ p.meaning beyondWords := by
  induction p using induction_parts with
  | any => exact iff_of_true rfl trivial
  | value c => rw [contains_value, decide_eq_true_eq]; rfl
  | span a b =>
    rw [contains_span, Bool.and_eq_true, decide_eq_true_eq, decide_eq_true_eq]
    rfl
  | every base n => exact contains_every_iff base n v
  | union ps ih =>
    rw [contains_union, List.any_eq_true, mem_meaning_union]
    exact exists_congr fun p => and_congr_right fun hp => ih p hp

/-! ## From 0 on -/

/-- The number from which the steps of a pattern begin, if they begin from one. -/
def anchor? : Pattern → Option Int
  | every (value a) _ | every (span a _) _ => some a
  | _ => none

/-- No steps begin below 0. -/
def AnchoredFromZero (p : Pattern) : Prop := ∀ q ∈ p.parts, ∀ a ∈ q.anchor?, 0 ≤ a

instance (p : Pattern) : Decidable p.AnchoredFromZero :=
  inferInstanceAs (Decidable (∀ q ∈ p.parts, ∀ a ∈ q.anchor?, 0 ≤ a))

/-- What is taken away from no part of a pattern is not taken away from it. -/
theorem mem_meaning_congr {lost lost' : Pattern → Int → Set Int} {p : Pattern} {v : Int}
    (h : ∀ base n, every base n ∈ p.parts → (v ∈ lost base n ↔ v ∈ lost' base n)) :
    v ∈ p.meaning lost ↔ v ∈ p.meaning lost' := by
  induction p using induction_parts with
  | any => exact Iff.rfl
  | value c => exact Iff.rfl
  | span a b => exact Iff.rfl
  | every base n ih =>
    exact and_congr_right fun _ => not_congr (h base n (self_mem_parts _))
  | union ps ih =>
    rw [mem_meaning_union, mem_meaning_union]
    exact exists_congr fun p => and_congr_right fun hp =>
      ih p hp fun base n hpart => h base n (mem_parts_member hp hpart)

theorem mem_meaning_iff_of_nonneg {p : Pattern} (h : p.AnchoredFromZero) {v : Int} (hv : 0 ≤ v)
    (hle : v ≤ largest) : v ∈ p.meaning beyondWords ↔ v ∈ p.meaning nothing := by
  have hsmallest : smallest < 0 := by decide
  refine mem_meaning_congr fun base n hpart => iff_of_false ?_ (Set.notMem_empty v)
  have hanchor := h _ hpart
  cases base with
  | any =>
    rintro ⟨hv', _⟩
    omega
  | value a =>
    have ha : 0 ≤ a := hanchor a rfl
    change ¬ largest < v - a
    omega
  | span a b =>
    have ha : 0 ≤ a := hanchor a rfl
    change ¬ largest < v - a
    omega
  | every base m => exact Set.notMem_empty v
  | union ps => exact Set.notMem_empty v

/-! ## Signs of steps -/

mutual

/-- A pattern with its steps without their signs. -/
def unsigned : Pattern → Pattern
  | any => any
  | value c => value c
  | span a b => span a b
  | every base n => every base.unsigned n.natAbs
  | union ps => union (unsignedAll ps)

def unsignedAll : List Pattern → List Pattern
  | [] => []
  | p :: ps => p.unsigned :: unsignedAll ps

end

theorem unsignedAll_eq_map (ps : List Pattern) : unsignedAll ps = ps.map unsigned := by
  induction ps with
  | nil => rfl
  | cons p ps ih => rw [unsignedAll, ih, List.map_cons]

/-- The sign of a step does not tell where it leads. -/
theorem stepsFrom_unsigned (base : Pattern) (n : Int) :
    base.unsigned.stepsFrom n.natAbs = base.stepsFrom n := by
  have hzero : (n.natAbs : Int) ≠ 0 ↔ n ≠ 0 := by omega
  ext v
  cases base with
  | any =>
    have hmultiple : (∃ k : Int, v = k * n.natAbs) ↔ ∃ k : Int, v = k * n := by
      rw [← dvd_iff_exists_eq_mul_left, ← dvd_iff_exists_eq_mul_left]
      exact Int.natAbs_dvd
    exact and_congr hzero hmultiple
  | value a => exact and_congr_left' hzero
  | span a b => exact and_congr_left' (and_congr_left' hzero)
  | every base m => exact Iff.rfl
  | union ps => exact Iff.rfl

/-- The sign of a step decides only whether the smallest word is beyond words. -/
theorem mem_beyondWords_unsigned {v : Int} (h : v ≠ smallest) (base : Pattern) (n : Int) :
    v ∈ beyondWords base.unsigned n.natAbs ↔ v ∈ beyondWords base n := by
  cases base with
  | any => exact iff_of_false (fun hv => h hv.1) fun hv => h hv.1
  | _ => exact Iff.rfl

theorem contains_unsigned {v : Int} (h : v ≠ smallest) (p : Pattern) :
    p.unsigned.contains v = true ↔ p.contains v = true := by
  induction p using induction_parts with
  | any => exact Iff.rfl
  | value c => exact Iff.rfl
  | span a b => exact Iff.rfl
  | every base n =>
    rw [unsigned, contains_every_iff, contains_every_iff, stepsFrom_unsigned]
    exact and_congr_right fun _ => not_congr (mem_beyondWords_unsigned h base n)
  | union ps ih =>
    rw [unsigned, unsignedAll_eq_map, contains_union, contains_union, List.any_map,
      List.any_eq_true, List.any_eq_true]
    exact exists_congr fun p => and_congr_right fun hp => ih p hp

end Crond.Pattern
