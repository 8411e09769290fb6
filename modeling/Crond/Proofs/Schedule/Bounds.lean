import Crond.Proofs.Schedule.FirstFault
import Crond.Proofs.Schedule.Meaning

/-
  What the check of bounds promises.

  The check looks at end points, membership at values. End points within the bounds keep every
  value within them, whatever the order of the ends and the steps are, unless a part of the
  pattern has no end point above: everything, or steps from a value (`isUnbounded`). Where all
  parts hold their own end points, values, spans in order and unions of these (`holdsItsEnds`),
  the check refuses nothing that keeps to the bounds.

  Proved: `defect?_bounds`. Both directions for every pattern, the one cause of a bad span, and
  what follows for a field of an accepted expression in whose text there is no `*` and no value
  with a step.
-/

namespace Crond

open Text

namespace Pattern

/-! ## Patterns -/

/-- Everything, or steps from a value: no end point bounds these from above. -/
def isUnbounded : Pattern → Bool
  | any | every (value _) _ => true
  | _ => false

/-- Values, spans whose ends are in order, and unions. -/
def holdsItsEnds : Pattern → Bool
  | value _ | union _ => true
  | span a b => a ≤ b
  | any | every _ _ => false

variable {p : Pattern} {lo hi : Int}

/-- What a pattern within bounds contains is within them. -/
theorem bounds_of_contains (hparts : ∀ q ∈ p.parts, q.isUnbounded = false)
    (h : p.inRange lo hi = true) {v : Int} (hv : p.contains v = true) : lo ≤ v ∧ v ≤ hi := by
  induction p using induction_parts with
  | any => exact absurd (hparts any (self_mem_parts _)) (by decide)
  | value c =>
    simp only [inRange, contains_value, Bool.and_eq_true, decide_eq_true_eq] at h hv
    rw [hv]
    exact h
  | span a b =>
    simp only [inRange, contains_span, Bool.and_eq_true, decide_eq_true_eq] at h hv
    omega
  | every base n ih =>
    -- Only a base reaches a value, and the only base here is a span.
    rw [contains_every, Bool.and_eq_true] at hv
    cases base with
    | any => exact absurd (hparts any (mem_parts_base n (self_mem_parts _))) (by decide)
    | value c =>
      exact absurd (hparts (every (value c) n) (self_mem_parts _)) (by simp [isUnbounded])
    | span a b =>
      simp only [inRange, reaches, Bool.and_eq_true, decide_eq_true_eq] at h hv
      omega
    | every base m => exact absurd hv.1 (by simp [reaches])
    | union ps => exact absurd hv.1 (by simp [reaches])
  | union ps ih =>
    rw [contains_union, List.any_eq_true] at hv
    rw [inRange_union, List.all_eq_true] at h
    obtain ⟨q, hq, hv⟩ := hv
    exact ih q hq (fun r hr => hparts r (mem_parts_member hq hr)) (h q hq) hv

/-- A pattern that holds its end points is within bounds if what it contains is. -/
theorem inRange_of_bounds (hparts : ∀ q ∈ p.parts, q.holdsItsEnds = true)
    (h : ∀ v, p.contains v = true → lo ≤ v ∧ v ≤ hi) : p.inRange lo hi = true := by
  induction p using induction_parts with
  | any => exact absurd (hparts any (self_mem_parts _)) (by decide)
  | value c =>
    have hc := h c (by simp)
    simpa [inRange] using hc
  | span a b =>
    have hab : a ≤ b := by simpa [holdsItsEnds] using hparts (span a b) (self_mem_parts _)
    have ha := h a (by simpa using hab)
    have hb := h b (by simpa using hab)
    simp only [inRange, Bool.and_eq_true, decide_eq_true_eq]
    exact ⟨ha.1, hb.2⟩
  | every base n ih =>
    exact absurd (hparts (every base n) (self_mem_parts _)) (by simp [holdsItsEnds])
  | union ps ih =>
    rw [inRange_union, List.all_eq_true]
    intro q hq
    refine ih q hq (fun r hr => hparts r (mem_parts_member hq hr)) fun v hv => h v ?_
    rw [contains_union, List.any_eq_true]
    exact ⟨q, hq, hv⟩

end Pattern

/-! ## Fields -/

/-- A term with a step behind a single value. -/
def IsSteppedValue (term : List Char) : Prop :=
  '/' ∈ term ∧ '-' ∉ term.takeWhile (· ≠ '/')

instance (term : List Char) : Decidable (IsSteppedValue term) :=
  inferInstanceAs (Decidable (_ ∧ _))

theorem isSteppedValue_append {base : List Char} (hslash : '/' ∉ base) (hminus : '-' ∉ base)
    (step : List Char) : IsSteppedValue (base ++ '/' :: step) := by
  refine ⟨List.mem_append_right _ List.mem_cons_self, ?_⟩
  rw [List.takeWhile_append_of_pos (decide_ne_of_not_mem hslash),
    List.takeWhile_cons_of_neg (by decide), List.append_nil]
  exact hminus

section

variable {value? : List Char → Option Int} {cs : List Char} {p : Pattern}

theorem not_unbounded_of_readBase? (hstar : value? ['*'] = none) (hcs : '*' ∉ cs)
    (h : readBase? value? cs = some p) : ∀ q ∈ p.parts, q.isUnbounded = false := by
  rcases (readBase?_eq_some_iff hstar).mp h with
    ⟨rfl, -⟩ | ⟨-, n, -, rfl⟩ | ⟨first, last, -, -, -, a, b, -, -, rfl⟩
  · exact absurd List.mem_cons_self hcs
  · exact List.forall_mem_singleton.mpr rfl
  · exact List.forall_mem_singleton.mpr rfl

theorem not_unbounded_of_readTerm? (hstar : value? ['*'] = none) (hcs : '*' ∉ cs)
    (hstep : ¬ IsSteppedValue cs) (h : readTerm? value? cs = some p) :
    ∀ q ∈ p.parts, q.isUnbounded = false := by
  rcases (readTerm?_eq_some_iff hstar).mp h with
    ⟨-, hbase⟩ | ⟨base, step, rfl, hslash, -, q, n, hbase, -, rfl⟩
  · exact not_unbounded_of_readBase? hstar hcs hbase
  · have hparts := not_unbounded_of_readBase? hstar
      (fun hc => hcs (List.mem_append_left _ hc)) hbase
    refine List.forall_mem_cons.mpr ⟨?_, hparts⟩
    rcases (readBase?_eq_some_iff hstar).mp hbase with
      ⟨rfl, -⟩ | ⟨hminus, -⟩ | ⟨first, last, -, -, -, a, b, -, -, rfl⟩
    · exact absurd (List.mem_append_left _ List.mem_cons_self) hcs
    · exact absurd (isSteppedValue_append hslash hminus step) hstep
    · rfl

end

/-- What an accepted field without a `*` and without a value with a step contains. -/
theorem Field.bounds_of_read {f : Field} {cs : List Char} {p : Pattern}
    (h : f.read cs = .ok p) (hstar : '*' ∉ cs)
    (hstep : ∀ term ∈ cs.splitOn ',', ¬ IsSteppedValue term) {v : Int}
    (hv : p.contains v = true) : f.low ≤ v ∧ v ≤ f.high := by
  obtain ⟨hread, hdefect⟩ := Field.read_eq_ok_iff.mp h
  obtain ⟨ps, hps, rfl⟩ := readField?_eq_some_iff.mp hread
  have hrange := Pattern.inRange_of_defect hdefect
  rw [Pattern.inRange_ofTerms, List.all_eq_true] at hrange
  rw [Pattern.contains_ofTerms, List.any_eq_true] at hv
  obtain ⟨q, hq, hv⟩ := hv
  obtain ⟨term, hterm, hread⟩ := exists_of_mem_right hps hq
  have hstar' : '*' ∉ term := fun hc => hstar (mem_of_mem_splitOn hterm hc)
  exact Pattern.bounds_of_contains
    (not_unbounded_of_readTerm? f.readValue?_star hstar' (hstep term hterm) hread) (hrange q hq) hv

/-- The check of bounds against membership. A pattern that passes contains nothing outside of the
    bounds, unless a part of it is everything or steps from a value. A pattern that holds its end
    points is in range if it contains nothing outside. A bad span is found where a pattern in range
    is a span whose ends are not in strict order. So a field of an accepted expression that tells
    no `*` and no value with a step contains only values of the field. -/
theorem defect?_bounds :
    (∀ (p : Pattern) (lo hi : Int), p.defect? lo hi = none →
      (∀ q ∈ p.parts, q.isUnbounded = false) →
        ∀ v, p.contains v = true → lo ≤ v ∧ v ≤ hi) ∧
    (∀ (p : Pattern) (lo hi : Int), (∀ q ∈ p.parts, q.holdsItsEnds = true) →
      (∀ v, p.contains v = true → lo ≤ v ∧ v ≤ hi) →
        p.inRange lo hi = true ∧ p.defect? lo hi ≠ some .notInRange) ∧
    (∀ (p : Pattern) (lo hi : Int), p.defect? lo hi = some .badSpan ↔
      p.inRange lo hi = true ∧ ∃ a b, p = .span a b ∧ b ≤ a) ∧
    ∀ (expression : String) (s : Schedule) (text : Field → List Char),
      Schedule.parse expression = .ok s →
      (trim expression.toList).splitOn ' ' = Field.all.map text →
      ∀ f : Field, '*' ∉ text f → (∀ term ∈ (text f).splitOn ',', ¬ IsSteppedValue term) →
        ∀ v, (s.pattern f).contains v = true → f.low ≤ v ∧ v ≤ f.high := by
  refine ⟨fun p lo hi h hparts v hv => ?_, fun p lo hi hparts h => ?_,
    fun p lo hi => Pattern.defect?_eq_badSpan_iff,
    fun expression s text h htext f hstar hstep v => ?_⟩
  · exact Pattern.bounds_of_contains hparts (Pattern.inRange_of_defect h) hv
  · have hrange := Pattern.inRange_of_bounds hparts h
    refine ⟨hrange, fun hdefect => ?_⟩
    rw [Pattern.defect?_eq_notInRange_iff.mp hdefect] at hrange
    exact Bool.false_ne_true hrange
  · have hread := (Schedule.read_eq_ok_iff_fields htext).mp h f
    exact Field.bounds_of_read hread hstar hstep

/-- A span against its order passes with both ends outside of the bounds, and adds nothing. The
    seconds of the expression have two such spans, one with a step. -/
theorem defect?_bounds_reversed :
    let p : Pattern := .union [.span 30 (-5), .every (.span 2 8) (-3), .union [.value 7, .span 4 1]]
    let q : Pattern := .union [.value 23, .union [.span 0 9, .span 5 5]]
    let text : Field → List Char :=
      Field.assign "5,90-3,7-1/2".toList ['*'] ['*'] ['*'] ['*'] ['*']
    p.defect? 0 23 = none ∧ (∀ r ∈ p.parts, r.isUnbounded = false) ∧
      (∀ v, p.contains v = true → 0 ≤ v ∧ v ≤ 23) ∧
      (∀ r ∈ q.parts, r.holdsItsEnds = true) ∧ (∀ v, q.contains v = true → 0 ≤ v ∧ v ≤ 23) ∧
      q.inRange 0 23 = true ∧
      ∃ s, Schedule.parse "5,90-3,7-1/2 * * * * *" = .ok s ∧
        (trim "5,90-3,7-1/2 * * * * *".toList).splitOn ' ' = Field.all.map text ∧
        ∀ v, s.second.contains v = true → 0 ≤ v ∧ v ≤ 59 := by
  intro p q text
  obtain ⟨hsound, hcomplete, -, hfield⟩ := defect?_bounds
  have hparts : ∀ r ∈ p.parts, r.isUnbounded = false := by decide
  have hends : ∀ r ∈ q.parts, r.holdsItsEnds = true := by decide
  have hq : ∀ v, q.contains v = true → 0 ≤ v ∧ v ≤ 23 := by
    intro v hv
    simp [q] at hv
    omega
  let s : Schedule :=
    ⟨.union [.value 5, .span 90 3, .every (.span 7 1) 2], .any, .any, .any, .any, .any⟩
  have hparse : Schedule.parse "5,90-3,7-1/2 * * * * *" = .ok s := by rfl
  have htext : (trim "5,90-3,7-1/2 * * * * *".toList).splitOn ' ' = Field.all.map text := by rfl
  have hstep : ∀ term ∈ (text .second).splitOn ',', ¬ IsSteppedValue term := by decide
  exact ⟨by decide, hparts, hsound p 0 23 (by decide) hparts, hends, hq,
    (hcomplete q 0 23 hends hq).1, s, hparse, htext,
    hfield _ s text hparse htext .second (by decide) hstep⟩

end Crond
