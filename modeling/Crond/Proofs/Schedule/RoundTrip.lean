import Crond.Schedule.Printer
import Crond.Proofs.Schedule.Canonical
import Crond.Proofs.Schedule.Grammar
import Crond.Proofs.Text.Trimming

/-
  Expressions written and read back.

  What is rendered belongs to the grammar (`baseText_render`, `termText_render`,
  `fieldText_render`), and its six parts are words without white space, so that neither trimming
  nor splitting touches them. Hence a canonical schedule is read back from its text
  (`read_render`), and as whatever is read is canonical, these are all schedules that are:
  `parse_render_eq_ok_iff`.
-/

namespace Crond

open Text

/-! ## Numerals -/

theorem numberText_signedNumeral {n : Int} (h : 0 ≤ n) (hle : n ≤ largest) :
    NumberText (signedNumeral n) n := by
  obtain ⟨m, rfl⟩ := Int.eq_ofNat_of_zero_le h
  have htext : NumberText (numeral m) (min (decimal (numeral m)) largest) :=
    .plain (isDigits_numeral m)
  rwa [decimal_numeral, Int.min_eq_left hle] at htext

theorem stepText_signedNumeral {n : Int} (h : IsWord n) : StepText (signedNumeral n) n := by
  cases n with
  | ofNat m => exact .number (numberText_signedNumeral (Int.natCast_nonneg m) h.le_largest)
  | negSucc m =>
    have hvalue : -(decimal (numeral (m + 1)) : Int) = Int.negSucc m := by
      rw [decimal_numeral]
      rfl
    have htext : StepText ('-' :: numeral (m + 1)) (-(decimal (numeral (m + 1)))) :=
      .minus (isDigits_numeral (m + 1)) (hvalue ▸ h.smallest_le)
    rwa [hvalue] at htext

theorem valueText_signedNumeral {f : Field} {n : Int} (h : f.EndPoint n) :
    ValueText f (signedNumeral n) n := by
  have htext : ValueText f (signedNumeral n) (f.fold n) :=
    .number (numberText_signedNumeral h.nonneg h.le_largest)
  rwa [h.fold_eq] at htext

/-! ## Rendered patterns are of the grammar -/

namespace Pattern

variable {f : Field} {p : Pattern}

theorem baseText_render (h : p.BaseShape f) : BaseText (ValueText f) p.render p := by
  cases h with
  | any => exact .any
  | value h => exact .value (valueText_signedNumeral h)
  | span ha hb => exact .span (valueText_signedNumeral ha) (valueText_signedNumeral hb)

theorem termText_render (h : p.TermShape f) : TermText (ValueText f) StepText p.render p := by
  cases h with
  | base h => exact .base (baseText_render h)
  | every h hn => exact .stepped (baseText_render h) (stepText_signedNumeral hn)

theorem map_render_ne_nil {ps : List Pattern} (hlen : 2 ≤ ps.length) : ps.map render ≠ [] := by
  rw [ne_eq, List.map_eq_nil_iff]
  rintro rfl
  exact absurd hlen (by decide)

theorem fieldText_render (h : p.FieldShape f) : FieldText (ValueText f) StepText p.render p := by
  cases h with
  | term h =>
    have htext : FieldText (ValueText f) StepText ([','].intercalate [p.render]) (ofTerms [p]) :=
      .terms (by simp) (.cons (termText_render h) .nil)
    rwa [List.intercalate_singleton] at htext
  | @union ps hlen h =>
    have hunion : ofTerms ps = .union ps := by
      match ps with
      | [] => exact absurd hlen (by decide)
      | [q] => exact absurd hlen (by simp)
      | q :: q' :: qs => rfl
    have hterms : List.Forall₂ (TermText (ValueText f) StepText) (ps.map render) ps :=
      List.forall₂_map_left_iff.mpr (List.forall₂_same.mpr fun q hq => termText_render (h q hq))
    rw [render, renderAll_eq_map, ← hunion]
    exact .terms (map_render_ne_nil hlen) hterms

/-! ## Rendered patterns hold no white space -/

theorem isVisible_signedNumeral (n : Int) : IsVisible (signedNumeral n) := by
  cases n with
  | ofNat m => exact isVisible_digits (isDigits_numeral m)
  | negSucc m => exact (isVisible_digits (isDigits_numeral (m + 1))).cons (by decide)

theorem isVisible_render_base (h : p.BaseShape f) : IsVisible p.render := by
  cases h with
  | any => exact isVisible_singleton (by decide)
  | value h => exact isVisible_signedNumeral _
  | span ha hb =>
    exact (isVisible_signedNumeral _).join (by decide) (isVisible_signedNumeral _)

theorem isVisible_render_term (h : p.TermShape f) : IsVisible p.render := by
  cases h with
  | base h => exact isVisible_render_base h
  | every h hn => exact (isVisible_render_base h).join (by decide) (isVisible_signedNumeral _)

theorem isVisible_render (h : p.FieldShape f) : IsVisible p.render := by
  cases h with
  | term h => exact isVisible_render_term h
  | @union ps hlen h =>
    rw [render, renderAll_eq_map]
    refine IsVisible.intercalate (map_render_ne_nil hlen) (by decide) fun part hpart => ?_
    obtain ⟨q, hq, rfl⟩ := List.mem_map.mp hpart
    exact isVisible_render_term (h q hq)

end Pattern

namespace Schedule

theorem read_render {s : Schedule} (h : s.Canonical) : read s.render = .ok s := by
  have hwords : ∀ part ∈ Field.all.map fun f => (s.pattern f).render, IsVisible part := by
    intro part hpart
    obtain ⟨f, _, rfl⟩ := List.mem_map.mp hpart
    exact Pattern.isVisible_render (h.shape f)
  have hspace : ∀ part ∈ Field.all.map fun f => (s.pattern f).render, ' ' ∉ part :=
    fun part hpart hc => absurd ((hwords part hpart).not_blank ' ' hc) (by decide)
  have hparts : (trim s.render).splitOn ' ' = Field.all.map fun f => (s.pattern f).render := by
    unfold render
    rw [trim_intercalate ' ' hwords]
    exact List.splitOn_intercalate ' ' hspace (by simp [Field.all])
  have htext : ExpressionText ValueText StepText s.render s :=
    ⟨fun f => (s.pattern f).render, hparts,
      fun f => ⟨Pattern.fieldText_render (h.shape f), h.defect f⟩⟩
  exact ((Reads.expressionText_iff reads_grammar).mp htext).1

/-- The schedules that are read back from their text are the canonical ones, and just these are
    what expressions tell. -/
theorem parse_render_eq_ok_iff (s : Schedule) :
    (parse (String.ofList s.render) = .ok s ↔ s.Canonical) ∧
    ((∃ expression, parse expression = .ok s) ↔ s.Canonical) := by
  have hback : s.Canonical → parse (String.ofList s.render) = .ok s := by
    intro h
    unfold parse
    rw [String.toList_ofList]
    exact read_render h
  refine ⟨⟨canonical_of_read, hback⟩, ?_, fun h => ⟨_, hback h⟩⟩
  rintro ⟨expression, h⟩
  exact canonical_of_read h

/-- Spans against their order, steps that are negative or 0, and the smallest and the largest
    step, in lists of two and more. -/
theorem parse_render_unordered_spans :
    let s : Schedule :=
      ⟨.union [.every (.span 9 5) smallest, .any, .value 0], .span 0 59, .every .any 0,
        .union [.value 31, .span 31 1], .any, .union [.span 6 0, .every (.value 3) largest]⟩
    s.Canonical ∧ parse (String.ofList s.render) = .ok s ∧
      s.render = ("9-5/-9223372036854775808,*,0 0-59 */0 31,31-1 * " ++
        "6-0,3/9223372036854775807").toList := by
  intro s
  have hcanonical : s.Canonical := by
    refine ⟨fun f => ?_, fun f => by cases f <;> decide⟩
    cases f with
    | second =>
      refine .union (by decide) fun p hp => ?_
      rcases List.mem_cons.mp hp with rfl | hp
      · exact .every (.span (by decide) (by decide)) (by decide)
      · rcases List.mem_pair.mp hp with rfl | rfl
        · exact .base .any
        · exact .base (.value (by decide))
    | minute => exact .term (.base (.span (by decide) (by decide)))
    | hour => exact .term (.every .any (by decide))
    | day =>
      refine .union (by decide) fun p hp => ?_
      rcases List.mem_pair.mp hp with rfl | rfl
      · exact .base (.value (by decide))
      · exact .base (.span (by decide) (by decide))
    | month => exact .term (.base .any)
    | weekday =>
      refine .union (by decide) fun p hp => ?_
      rcases List.mem_pair.mp hp with rfl | rfl
      · exact .base (.span (by decide) (by decide))
      · exact .every (.value (by decide)) (by decide)
  exact ⟨hcanonical, (parse_render_eq_ok_iff s).1.mpr hcanonical, by decide⟩

end Schedule

end Crond
