/-
  Patterns: sets of integers as a field of a schedule describes them.

  A pattern is everything, one value, a span of values, every n-th value counted from an anchor,
  or a union. `contains` decides membership in the arithmetic of 64-bit words: a value further
  from its anchor than a word can tell is not reached. `inRange` and `defect?` check a pattern
  against the bounds of a field; they look at end points only.
-/

namespace Crond

/-- The largest number a field can hold. -/
def largest : Int := 9223372036854775807

/-- The smallest number a field can hold. -/
def smallest : Int := -9223372036854775808

inductive Pattern where
  | any
  | value (v : Int)
  | span (first last : Int)
  | every (base : Pattern) (step : Int)
  | union (members : List Pattern)
  deriving Repr, Inhabited

namespace Pattern

/-! ### Equality -/

mutual

def decEq : (p q : Pattern) → Decidable (p = q)
  | any, any => isTrue rfl
  | value v, value w => decidable_of_iff (v = w) (by simp)
  | span a b, span c d => decidable_of_iff (a = c ∧ b = d) (by simp)
  | every p m, every q n =>
    have := decEq p q
    decidable_of_iff (p = q ∧ m = n) (by simp)
  | union ps, union qs =>
    have := decEqAll ps qs
    decidable_of_iff (ps = qs) (by simp)
  | any, value _ | any, span _ _ | any, every _ _ | any, union _
  | value _, any | value _, span _ _ | value _, every _ _ | value _, union _
  | span _ _, any | span _ _, value _ | span _ _, every _ _ | span _ _, union _
  | every _ _, any | every _ _, value _ | every _ _, span _ _ | every _ _, union _
  | union _, any | union _, value _ | union _, span _ _ | union _, every _ _ =>
    isFalse (by simp)

def decEqAll : (ps qs : List Pattern) → Decidable (ps = qs)
  | [], [] => isTrue rfl
  | p :: ps, q :: qs =>
    have := decEq p q
    have := decEqAll ps qs
    decidable_of_iff (p = q ∧ ps = qs) (by simp)
  | [], _ :: _ | _ :: _, [] => isFalse (by simp)

end

instance : DecidableEq Pattern := decEq

/-! ### Steps -/

/-- The patterns from which steps can be counted. -/
def isBase : Pattern → Bool
  | any | value _ | span _ _ => true
  | every _ _ | union _ => false

/-- A stepped pattern, if steps can be counted from `base`. -/
def stepped? (base : Pattern) (step : Int) : Option Pattern :=
  if base.isBase then some (every base step) else none

/-- How far a value lies above the anchor of a base, as far as a word can tell. -/
def distance? (base : Pattern) (v : Int) : Option Int :=
  match base with
  | any => some v
  | value anchor | span anchor _ =>
    if anchor ≤ v ∧ v - anchor ≤ largest then some (v - anchor) else none
  | every _ _ | union _ => none

/-- Whether a step divides a distance. A remainder that a word cannot hold is none. -/
def divides (step distance : Int) : Bool :=
  step ≠ 0 && !(distance = smallest && step = -1) && distance % step = 0

/-- Whether a value is a whole number of steps away from the anchor of a base. -/
def onStep (base : Pattern) (v step : Int) : Bool :=
  match base.distance? v with
  | some d => divides step d
  | none => false

/-- Whether a base lets a value be tested against a step at all. -/
def reaches (base : Pattern) (v : Int) : Bool :=
  match base with
  | any => true
  | value anchor => anchor ≤ v
  | span first last => first ≤ v && v ≤ last
  | every _ _ | union _ => false

/-! ### Membership and range -/

mutual

def contains : Pattern → Int → Bool
  | any, _ => true
  | value c, v => v = c
  | span first last, v => first ≤ v && v ≤ last
  | every base step, v => base.reaches v && base.onStep v step
  | union members, v => anyContains members v

def anyContains : List Pattern → Int → Bool
  | [], _ => false
  | p :: ps, v => p.contains v || anyContains ps v

end

mutual

/-- Whether the end points of a pattern lie within bounds. -/
def inRange : Pattern → Int → Int → Bool
  | any, _, _ => true
  | value c, lo, hi => lo ≤ c && c ≤ hi
  | span first last, lo, hi => lo ≤ first && last ≤ hi
  | every base _, lo, hi => base.inRange lo hi
  | union members, lo, hi => allInRange members lo hi

def allInRange : List Pattern → Int → Int → Bool
  | [], _, _ => true
  | p :: ps, lo, hi => p.inRange lo hi && allInRange ps lo hi

end

/-- What can be wrong with a pattern for given bounds. -/
inductive Defect where
  | notInRange
  | badSpan
  deriving DecidableEq, Repr

/--
The defect of a pattern for given bounds. The ends of a span must be in strict order where the
span is the whole pattern; inside a union or under a step their order is free.
-/
def defect? (p : Pattern) (lo hi : Int) : Option Defect :=
  if p.inRange lo hi then
    match p with
    | span first last => if last ≤ first then some .badSpan else none
    | _ => none
  else some .notInRange

theorem anyContains_eq_any (ps : List Pattern) (v : Int) :
    anyContains ps v = ps.any (·.contains v) := by
  induction ps with
  | nil => rfl
  | cons p ps ih => simp [anyContains, ih]

theorem allInRange_eq_all (ps : List Pattern) (lo hi : Int) :
    allInRange ps lo hi = ps.all (·.inRange lo hi) := by
  induction ps with
  | nil => rfl
  | cons p ps ih => simp [allInRange, ih]

@[simp] theorem contains_any (v : Int) : any.contains v = true := rfl

@[simp] theorem contains_value (c v : Int) : (value c).contains v = decide (v = c) := rfl

@[simp] theorem contains_span (a b v : Int) :
    (span a b).contains v = (decide (a ≤ v) && decide (v ≤ b)) := rfl

@[simp] theorem contains_every (p : Pattern) (n v : Int) :
    (every p n).contains v = (p.reaches v && p.onStep v n) := rfl

@[simp] theorem contains_union (ps : List Pattern) (v : Int) :
    (union ps).contains v = ps.any (·.contains v) := anyContains_eq_any ps v

@[simp] theorem inRange_union (ps : List Pattern) (lo hi : Int) :
    (union ps).inRange lo hi = ps.all (·.inRange lo hi) := allInRange_eq_all ps lo hi

/-- The values of a pattern from `lo` to `hi`, in ascending order. -/
def valuesIn (p : Pattern) (lo hi : Int) : List Int :=
  ((List.range (hi + 1 - lo).toNat).map fun (i : Nat) => lo + (i : Int)).filter p.contains

end Pattern

end Crond
