import Crond.Proofs.Schedule.Reading
import Crond.Proofs.Schedule.Values

/-
  The schedules that expressions tell.

  A base is everything, a value or a span, a term is a base or a base with a step, and the pattern
  of a field is one term or a union of two and more (`Pattern.BaseShape`, `TermShape`,
  `FieldShape`). The end points of a base are those that a text of the field can name
  (`Field.EndPoint`): none is negative, and none of them is a Sunday told as 7. A schedule is
  `Canonical` if all its patterns are of this kind and keep to the bounds of their fields.

  Proved: `canonical_of_read`, whatever is read is canonical. It goes level by level, as the
  readers do.
-/

namespace Crond

open Text

/-! ## Shapes -/

/-- A number that a 64-bit word holds. -/
structure IsWord (n : Int) : Prop where
  smallest_le : smallest ≤ n
  le_largest : n ≤ largest

instance (n : Int) : Decidable (IsWord n) :=
  decidable_of_iff (smallest ≤ n ∧ n ≤ largest) ⟨fun h => ⟨h.1, h.2⟩, fun h => ⟨h.1, h.2⟩⟩

/-- An end point that a text of the field names as it stands. -/
structure Field.EndPoint (f : Field) (n : Int) : Prop where
  nonneg : 0 ≤ n
  le_largest : n ≤ largest
  ne_seven : f = .weekday → n ≠ 7

instance (f : Field) (n : Int) : Decidable (f.EndPoint n) :=
  decidable_of_iff (0 ≤ n ∧ n ≤ largest ∧ (f = .weekday → n ≠ 7))
    ⟨fun h => ⟨h.1, h.2.1, h.2.2⟩, fun h => ⟨h.1, h.2, h.3⟩⟩

namespace Pattern

/-- Everything, a value or a span, with end points of the field. -/
inductive BaseShape (f : Field) : Pattern → Prop
  | any : BaseShape f .any
  | value {c : Int} (h : f.EndPoint c) : BaseShape f (.value c)
  | span {a b : Int} (ha : f.EndPoint a) (hb : f.EndPoint b) : BaseShape f (.span a b)

/-- A base, or a base with a step. Any word is a step. -/
inductive TermShape (f : Field) : Pattern → Prop
  | base {p : Pattern} (h : BaseShape f p) : TermShape f p
  | every {p : Pattern} {n : Int} (h : BaseShape f p) (hn : IsWord n) : TermShape f (.every p n)

/-- A term, or a union of two terms and more. -/
inductive FieldShape (f : Field) : Pattern → Prop
  | term {p : Pattern} (h : TermShape f p) : FieldShape f p
  | union {ps : List Pattern} (hlen : 2 ≤ ps.length) (h : ∀ p ∈ ps, TermShape f p) :
      FieldShape f (.union ps)

end Pattern

/-- The schedules that expressions tell. -/
structure Schedule.Canonical (s : Schedule) : Prop where
  shape : ∀ f : Field, (s.pattern f).FieldShape f
  defect : ∀ f : Field, (s.pattern f).defect? f.low f.high = none

/-! ## Values -/

theorem isWord_largest : IsWord largest := ⟨by decide, Int.le_refl _⟩

theorem NumberText.bounds {cs : List Char} {n : Int} (h : NumberText cs n) :
    0 ≤ n ∧ n ≤ largest := by
  obtain ⟨_, rfl⟩ := numberText_iff.mp h
  have hlargest : 0 ≤ largest := by decide
  omega

theorem StepText.isWord {cs : List Char} {n : Int} (h : StepText cs n) : IsWord n := by
  have hsmallest : smallest ≤ 0 := by decide
  have hlargest : 0 ≤ largest := by decide
  cases h with
  | number h =>
    obtain ⟨hnonneg, hle⟩ := h.bounds
    exact ⟨by omega, hle⟩
  | minus h hn => exact ⟨hn, by omega⟩

/-- What is read as a step is a word, a garbled number included. -/
theorem isWord_of_readNumber? {cs : List Char} {n : Int} (h : readNumber? cs = some n) :
    IsWord n := by
  rcases readNumber?_eq_some_iff.mp h with h | ⟨rfl, _⟩
  · exact h.isWord
  · exact isWord_largest

namespace Field

/-- Folding leaves no 7, and keeps other numbers. -/
theorem endPoint_fold (f : Field) {n : Int} (h : 0 ≤ n) (hle : n ≤ largest) :
    f.EndPoint (f.fold n) := by
  cases f with
  | weekday =>
    change Field.weekday.EndPoint (foldSunday n)
    unfold foldSunday
    split
    · decide
    · exact ⟨h, hle, fun _ => by assumption⟩
  | _ => exact ⟨h, hle, fun he => absurd he (by decide)⟩

theorem EndPoint.fold_eq {f : Field} {n : Int} (h : f.EndPoint n) : f.fold n = n := by
  cases f with
  | weekday => exact if_neg (h.ne_seven rfl)
  | _ => rfl

theorem endPoint_of_mem_names {f : Field} {e : List Char × Int} (h : e ∈ f.names) :
    f.EndPoint e.2 := by
  have hnames : ∀ e ∈ f.names, f.EndPoint e.2 := by cases f <;> decide
  exact hnames e h

end Field

theorem ValueText.endPoint {f : Field} {cs : List Char} {n : Int} (h : ValueText f cs n) :
    f.EndPoint n := by
  cases h with
  | number h => exact f.endPoint_fold h.bounds.1 h.bounds.2
  | name h => exact Field.endPoint_of_mem_names h

/-- What is read as a value is an end point, a garbled number included. -/
theorem endPoint_of_readValue? {f : Field} {cs : List Char} (hm : '-' ∉ cs) {n : Int}
    (h : f.readValue? cs = some n) : f.EndPoint n := by
  rcases (readValue?_eq_some_iff hm).mp h with h | ⟨rfl, _⟩
  · exact h.endPoint
  · have hlargest := f.endPoint_fold (n := largest) (by decide) (Int.le_refl _)
    rwa [f.fold_largest] at hlargest

/-! ## Patterns -/

namespace Pattern

variable {f : Field} {cs : List Char} {p : Pattern}

theorem baseShape_of_readBase? (h : readBase? f.readValue? cs = some p) : p.BaseShape f := by
  rcases (readBase?_eq_some_iff f.readValue?_star).mp h with
    ⟨_, rfl⟩ | ⟨hm, n, hn, rfl⟩ | ⟨first, last, _, hm, hm', a, b, ha, hb, rfl⟩
  · exact .any
  · exact .value (endPoint_of_readValue? hm hn)
  · exact .span (endPoint_of_readValue? hm ha) (endPoint_of_readValue? hm' hb)

theorem termShape_of_readTerm? (h : readTerm? f.readValue? cs = some p) : p.TermShape f := by
  rcases (readTerm?_eq_some_iff f.readValue?_star).mp h with
    ⟨_, h⟩ | ⟨base, step, _, _, _, q, n, hq, hn, rfl⟩
  · exact .base (baseShape_of_readBase? h)
  · exact .every (baseShape_of_readBase? hq) (isWord_of_readNumber? hn)

theorem fieldShape_ofTerms {ps : List Pattern} (hne : ps ≠ []) (h : ∀ q ∈ ps, q.TermShape f) :
    (ofTerms ps).FieldShape f := by
  match ps with
  | [] => exact absurd rfl hne
  | [q] => exact .term (h q List.mem_cons_self)
  | q :: q' :: qs => exact .union (by simp) h

theorem fieldShape_of_readField? (h : readField? f.readValue? cs = some p) : p.FieldShape f := by
  obtain ⟨ps, hps, rfl⟩ := readField?_eq_some_iff.mp h
  refine fieldShape_ofTerms ?_ fun q hq => ?_
  · -- A text has one part at least.
    rintro rfl
    exact List.splitOn_ne_nil ',' cs (List.forall₂_nil_right_iff.mp hps)
  · obtain ⟨text, _, hread⟩ := exists_of_mem_right hps hq
    exact termShape_of_readTerm? hread

end Pattern

namespace Schedule

/-- Whatever is read is canonical. -/
theorem canonical_of_read {cs : List Char} {s : Schedule} (h : read cs = .ok s) :
    s.Canonical := by
  obtain ⟨text, _, hf⟩ := read_eq_ok_iff.mp h
  refine ⟨fun f => ?_, fun f => ?_⟩
  · exact Pattern.fieldShape_of_readField? (Field.read_eq_ok_iff.mp (hf f)).1
  · exact (Field.read_eq_ok_iff.mp (hf f)).2

end Schedule

end Crond
