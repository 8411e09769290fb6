import Mathlib.Logic.Function.Basic
import Crond.Proofs.Schedule.FirstFault

/-
  A comma is a union.

  A field text is read if each of its terms is, and what its pattern contains and whether it is in
  range is settled term by term (`exists_readField?_iff`, `contains_readField?_iff`,
  `inRange_readField?_iff`). So nothing counts but which terms there are. A list of two terms or
  more is a union, so that the order of the ends of a span is looked at in single terms only.

  Six texts without a space make up an expression that is read field by field
  (`parse_expression_eq_ok_iff`). White space in front of the first and behind the last of them is
  no part of it (`Field.bare`).

  Proved: `parse_comma_union`. Two texts with a comma between them are read if both are, and hold
  what one of them holds, as field texts and as fields of an expression; the order of the members
  of a list and how often they are told does not matter.
-/

namespace Crond

open Text

/-! ## Terms -/

section

variable {value? : List Char → Option Int} {cs : List Char} {p : Pattern}

theorem contains_readField?_iff (h : readField? value? cs = some p) {v : Int} :
    p.contains v = true ↔
      ∃ term ∈ cs.splitOn ',', ∃ q, readTerm? value? term = some q ∧ q.contains v = true := by
  obtain ⟨ps, hps, rfl⟩ := readField?_eq_some_iff.mp h
  rw [Pattern.contains_ofTerms, List.any_eq_true]
  constructor
  · rintro ⟨q, hq, hv⟩
    obtain ⟨term, hterm, hread⟩ := exists_of_mem_right hps hq
    exact ⟨term, hterm, q, hread, hv⟩
  · rintro ⟨term, hterm, q, hread, hv⟩
    obtain ⟨q', hq', hread'⟩ := exists_of_mem_right hps.flip hterm
    obtain rfl : q' = q := Option.some.inj (Eq.trans (Eq.symm hread') hread)
    exact ⟨q', hq', hv⟩

theorem inRange_readField?_iff (h : readField? value? cs = some p) {lo hi : Int} :
    p.inRange lo hi = true ↔
      ∀ term ∈ cs.splitOn ',', ∀ q, readTerm? value? term = some q → q.inRange lo hi = true := by
  obtain ⟨ps, hps, rfl⟩ := readField?_eq_some_iff.mp h
  rw [Pattern.inRange_ofTerms, List.all_eq_true]
  constructor
  · intro hall term hterm q hread
    obtain ⟨q', hq', hread'⟩ := exists_of_mem_right hps.flip hterm
    obtain rfl : q' = q := Option.some.inj (Eq.trans (Eq.symm hread') hread)
    exact hall q' hq'
  · intro hall q hq
    obtain ⟨term, hterm, hread⟩ := exists_of_mem_right hps hq
    exact hall term hterm q hread

/-- A list of two terms or more is a union. -/
theorem exists_union_of_comma (hcomma : ',' ∈ cs) (h : readField? value? cs = some p) :
    ∃ ps, p = .union ps := by
  obtain ⟨ps, hps, rfl⟩ := readField?_eq_some_iff.mp h
  have hlength : (cs.splitOn ',').length = cs.count ',' + 1 := length_splitOn ',' cs
  have hcount : 0 < cs.count ',' := List.count_pos_iff.mpr hcomma
  rw [hps.length_eq] at hlength
  match ps with
  | [] => exact absurd hlength (by simp)
  | [q] => exact absurd hlength (by simp; omega)
  | q :: q' :: qs => exact ⟨_, rfl⟩

end

/-! ## Fields -/

namespace Field

theorem read_nil (f : Field) : f.read [] = .error (.badFormat f) := by cases f <;> rfl

variable {f : Field} {cs : List Char}

/-- Whether a list of two terms or more is accepted is settled by its end points. -/
theorem read_eq_ok_iff_of_comma (hcomma : ',' ∈ cs) {p : Pattern} :
    f.read cs = .ok p ↔
      readField? f.readValue? cs = some p ∧ p.inRange f.low f.high = true := by
  rw [Field.read_eq_ok_iff]
  refine and_congr_right fun hread => ?_
  obtain ⟨ps, rfl⟩ := exists_union_of_comma hcomma hread
  rw [Pattern.defect?_eq_none_iff]
  exact and_iff_left fun a b h => absurd h (by simp)

/-- A field text whose terms are those of accepted ones is accepted if it is a list. -/
theorem exists_read_of_terms (hcomma : ',' ∈ cs)
    (h : ∀ term ∈ cs.splitOn ',', ∃ cs' p, f.read cs' = .ok p ∧ term ∈ cs'.splitOn ',') :
    ∃ p, f.read cs = .ok p := by
  have hterms : ∀ term ∈ cs.splitOn ',', ∃ q, readTerm? f.readValue? term = some q := by
    intro term hterm
    obtain ⟨cs', p, hp, hterm'⟩ := h term hterm
    exact exists_readField?_iff.mp ⟨p, (Field.read_eq_ok_iff.mp hp).1⟩ term hterm'
  obtain ⟨p, hp⟩ := exists_readField?_iff.mpr hterms
  refine ⟨p, (read_eq_ok_iff_of_comma hcomma).mpr ⟨hp, ?_⟩⟩
  refine (inRange_readField?_iff hp).mpr fun term hterm q hq => ?_
  obtain ⟨cs', p', hp', hterm'⟩ := h term hterm
  obtain ⟨hread, hdefect⟩ := Field.read_eq_ok_iff.mp hp'
  exact (inRange_readField?_iff hread).mp (Pattern.inRange_of_defect hdefect) term hterm' q hq

theorem contains_read_iff {p : Pattern} (h : f.read cs = .ok p) {v : Int} :
    p.contains v = true ↔ ∃ term ∈ cs.splitOn ',', ∃ q,
      readTerm? f.readValue? term = some q ∧ q.contains v = true :=
  contains_readField?_iff (Field.read_eq_ok_iff.mp h).1

/-- A list with the members of an accepted one, in any order and told any number of times. -/
theorem read_intercalate_congr {members members' : List (List Char)} {p : Pattern}
    (hp : f.read ([','].intercalate members) = .ok p)
    (hmembers : ∀ m, m ∈ members' ↔ m ∈ members) :
    (members'.length ≠ 1 → ∃ p', f.read ([','].intercalate members') = .ok p') ∧
      ∀ p', f.read ([','].intercalate members') = .ok p' →
        ∀ v, p'.contains v = true ↔ p.contains v = true := by
  have hne : members ≠ [] := by
    rintro rfl
    rw [List.intercalate_nil, f.read_nil] at hp
    exact absurd hp (by simp)
  have hne' : members' ≠ [] := by
    rintro rfl
    obtain ⟨m, rest, rfl⟩ := List.exists_cons_of_ne_nil hne
    exact absurd ((hmembers m).mpr List.mem_cons_self) List.not_mem_nil
  have hterms : ∀ term, term ∈ ([','].intercalate members').splitOn ',' ↔
      term ∈ ([','].intercalate members).splitOn ',' := by
    intro term
    simp only [mem_splitOn_intercalate_iff hne, mem_splitOn_intercalate_iff hne', hmembers]
  refine ⟨fun hlength => ?_, fun p' hp' v => ?_⟩
  · have hcomma : ',' ∈ [','].intercalate members' := by
      match members' with
      | [] => exact absurd rfl hne'
      | [m] => exact absurd rfl hlength
      | m :: m' :: ms =>
        rw [List.intercalate_cons_cons]
        exact List.mem_append_left _ (List.mem_append_right _ List.mem_cons_self)
    exact exists_read_of_terms hcomma fun term hterm => ⟨_, _, hp, (hterms term).mp hterm⟩
  · simp only [contains_read_iff hp, contains_read_iff hp', hterms]

/-- Two accepted texts with a comma between them are accepted and hold what one of them holds. -/
theorem exists_read_comma {a b : List Char} {p q : Pattern} (hp : f.read a = .ok p)
    (hq : f.read b = .ok q) :
    ∃ r, f.read (a ++ ',' :: b) = .ok r ∧
      ∀ v, r.contains v = true ↔ p.contains v = true ∨ q.contains v = true := by
  have hcut := List.splitOn_append_cons_self (a := ',') a b
  obtain ⟨r, hr⟩ : ∃ r, f.read (a ++ ',' :: b) = .ok r := by
    refine exists_read_of_terms (List.mem_append_right _ List.mem_cons_self) fun term hterm => ?_
    rw [hcut, List.mem_append] at hterm
    rcases hterm with hterm | hterm
    · exact ⟨a, p, hp, hterm⟩
    · exact ⟨b, q, hq, hterm⟩
  refine ⟨r, hr, fun v => ?_⟩
  simp only [contains_read_iff hr, contains_read_iff hp, contains_read_iff hq, hcut,
    List.mem_append, or_and_right, exists_or]

end Field

/-! ## Expressions of six texts -/

/-- The expression with a text in each field. -/
def Schedule.expression (text : Field → List Char) : String :=
  String.ofList ([' '].intercalate (Field.all.map text))

namespace Field

/-- The text of a field without the white space at an end of the expression. -/
def bare : Field → List Char → List Char
  | second, cs => trimStart cs
  | weekday, cs => trimEnd cs
  | _, cs => cs

theorem mem_of_mem_bare {f : Field} {cs : List Char} {c : Char} (h : c ∈ f.bare cs) : c ∈ cs := by
  cases f with
  | second =>
    obtain ⟨front, -, hcs⟩ := exists_trimStart cs
    rw [hcs]
    exact List.mem_append_right _ h
  | weekday =>
    obtain ⟨back, -, hcs⟩ := exists_trimEnd cs
    rw [hcs]
    exact List.mem_append_left _ h
  | _ => exact h

theorem bare_eq_self (f : Field) {cs : List Char} (h : ∀ c ∈ cs, isBlank c = false) :
    f.bare cs = cs := by
  have hstart : ∀ cs : List Char, (∀ c ∈ cs, isBlank c = false) → trimStart cs = cs := by
    intro cs h
    cases cs with
    | nil => rfl
    | cons c cs => exact List.dropWhile_cons_of_neg (by rw [h c List.mem_cons_self]; decide)
  cases f with
  | second => exact hstart cs h
  | weekday =>
    have hreverse := hstart cs.reverse fun c hc => h c (List.mem_reverse.mp hc)
    exact (congrArg List.reverse hreverse).trans (List.reverse_reverse cs)
  | _ => rfl

end Field

namespace Schedule

/-- The white space that the bare texts lack stands around their expression. -/
theorem exists_expression_eq (text : Field → List Char) :
    ∃ front back, (∀ c ∈ front, isBlank c = true) ∧ (∀ c ∈ back, isBlank c = true) ∧
      (expression text).toList =
        front ++ (expression fun f => f.bare (text f)).toList ++ back := by
  obtain ⟨front, hfront, hsecond⟩ := exists_trimStart (text .second)
  obtain ⟨back, hback, hweekday⟩ := exists_trimEnd (text .weekday)
  refine ⟨front, back, hfront, hback, ?_⟩
  have htexts : Field.all.map text = [front ++ trimStart (text .second), text .minute, text .hour,
      text .day, text .month, trimEnd (text .weekday) ++ back] := by
    rw [← hsecond, ← hweekday]
    rfl
  unfold expression
  rw [String.toList_ofList, String.toList_ofList, htexts]
  simp [Field.all, Field.bare, List.intercalate_cons_cons]

section

variable {text : Field → List Char} (hspace : ∀ f, ' ' ∉ text f)

include hspace

theorem splitOn_expression_bare :
    (expression fun f => f.bare (text f)).toList.splitOn ' ' =
      Field.all.map fun f => f.bare (text f) := by
  unfold expression
  rw [String.toList_ofList]
  refine List.splitOn_intercalate ' ' (fun part hpart => ?_) (by simp [Field.all])
  obtain ⟨f, -, rfl⟩ := List.mem_map.mp hpart
  exact fun hmem => hspace f (Field.mem_of_mem_bare hmem)

/-- With an empty text at an end there are fewer than six parts. -/
theorem not_parse_expression (h : Field.second.bare (text .second) = [] ∨
    Field.weekday.bare (text .weekday) = []) (s : Schedule) :
    parse (expression text) ≠ .ok s := by
  have hends : (expression fun f => f.bare (text f)).toList.head? = some ' ' ∨
      (expression fun f => f.bare (text f)).toList.getLast? = some ' ' := by
    unfold expression
    rw [String.toList_ofList]
    rcases h with h | h
    · refine Or.inl ?_
      simp [Field.all, List.intercalate_cons_cons, h]
    · refine Or.inr ?_
      have hlast := @getLast?_intercalate_cons _ ' '
        ([Field.second, .minute, .hour, .day, .month].map fun f => f.bare (text f))
        (Field.weekday.bare (text .weekday)) (by simp)
      rw [h] at hlast
      simpa [Field.all, h] using hlast
  obtain ⟨front, back, hfront, hback, hpadded⟩ := exists_expression_eq text
  have hlt := count_trim_lt (by decide) hends
  have hcount := length_splitOn ' ' (expression fun f => f.bare (text f)).toList
  have hparts := length_splitOn ' ' (trim (expression text).toList)
  intro hparse
  obtain ⟨text', hsplit, -⟩ := read_eq_ok_iff.mp hparse
  rw [splitOn_expression_bare hspace] at hcount
  rw [hsplit, hpadded, trim_padded hfront hback] at hparts
  simp only [List.length_map] at hcount hparts
  omega

/-- Six texts without a space are the fields of their expression, without the white space at its
    ends. -/
theorem parse_expression_eq_ok_iff {s : Schedule} :
    parse (expression text) = .ok s ↔
      ∀ f : Field, f.read (f.bare (text f)) = .ok (s.pattern f) := by
  by_cases hends : Field.second.bare (text .second) = [] ∨ Field.weekday.bare (text .weekday) = []
  · refine iff_of_false (not_parse_expression hspace hends s) fun hread => ?_
    rcases hends with h | h
    · have hsecond := hread .second
      rw [h, Field.read_nil] at hsecond
      exact absurd hsecond (by simp)
    · have hweekday := hread .weekday
      rw [h, Field.read_nil] at hweekday
      exact absurd hweekday (by simp)
  · rw [not_or] at hends
    have htrimmed : IsTrimmed (expression fun f => f.bare (text f)).toList := by
      unfold expression
      rw [String.toList_ofList]
      exact (isTrimmed_fields_iff _).mpr
        ⟨exists_head?_trimStart hends.1, exists_getLast?_trimEnd hends.2⟩
    obtain ⟨front, back, hfront, hback, hpadded⟩ := exists_expression_eq text
    have hsplit : (trim (expression text).toList).splitOn ' ' =
        Field.all.map fun f => f.bare (text f) := by
      rw [hpadded, trim_padded hfront hback, htrimmed.trim_eq, splitOn_expression_bare hspace]
    exact read_eq_ok_iff_fields hsplit

end

/-- One field is looked at, and then the others. -/
theorem isDue_iff_others (s : Schedule) (f : Field) (t : Calendar.Moment) :
    s.isDue t = true ↔ (s.pattern f).contains (f.reading t) = true ∧
      ∀ g, g ≠ f → (s.pattern g).contains (g.reading t) = true := by
  rw [isDue_iff]
  constructor
  · exact fun h => ⟨h f, fun g _ => h g⟩
  · rintro ⟨hf, hothers⟩ g
    by_cases hg : g = f
    · exact hg ▸ hf
    · exact hothers g hg

/-- Schedules that agree but for one field, which holds in one of them what it holds in the others
    together. -/
theorem isDue_iff_or {s s' u : Schedule} {f : Field}
    (hs' : ∀ g, g ≠ f → s'.pattern g = s.pattern g)
    (hu : ∀ g, g ≠ f → u.pattern g = s.pattern g)
    (h : ∀ v, (u.pattern f).contains v = true ↔
      (s.pattern f).contains v = true ∨ (s'.pattern f).contains v = true) (t : Calendar.Moment) :
    u.isDue t = true ↔ s.isDue t = true ∨ s'.isDue t = true := by
  have hothers : ∀ w : Schedule, (∀ g, g ≠ f → w.pattern g = s.pattern g) →
      ((∀ g, g ≠ f → (w.pattern g).contains (g.reading t) = true) ↔
        ∀ g, g ≠ f → (s.pattern g).contains (g.reading t) = true) := by
    intro w hw
    exact forall_congr' fun g => forall_congr' fun hg => by rw [hw g hg]
  rw [u.isDue_iff_others f, s.isDue_iff_others f, s'.isDue_iff_others f, h, hothers u hu,
    hothers s' hs', or_and_right]

/-- Any six patterns make up a schedule. -/
theorem exists_pattern_eq (patterns : Field → Pattern) :
    ∃ s : Schedule, ∀ f, s.pattern f = patterns f :=
  ⟨⟨patterns .second, patterns .minute, patterns .hour, patterns .day, patterns .month,
    patterns .weekday⟩, fun f => by cases f <;> rfl⟩

open Function (update)

section

variable {f : Field} {text : Field → List Char} (hspace : ∀ g, g ≠ f → ' ' ∉ text g)
  {cs cs' : List Char} (hcs : ∀ c ∈ cs, isBlank c = false) (hcs' : ∀ c ∈ cs', isBlank c = false)
  {s s' : Schedule}

include hspace hcs

/-- How an expression is read in which one field is looked at. -/
theorem parse_update_eq_ok_iff :
    parse (expression (update text f cs)) = .ok s ↔
      f.read cs = .ok (s.pattern f) ∧
        ∀ g, g ≠ f → g.read (g.bare (text g)) = .ok (s.pattern g) := by
  have hspace' : ∀ g, ' ' ∉ update text f cs g := by
    intro g
    by_cases hg : g = f
    · subst hg
      rw [Function.update_self]
      exact fun hmem => absurd (hcs ' ' hmem) (by decide)
    · rw [Function.update_of_ne hg]
      exact hspace g hg
  rw [parse_expression_eq_ok_iff hspace']
  constructor
  · intro h
    refine ⟨?_, fun g hg => ?_⟩
    · have hf := h f
      rwa [Function.update_self, f.bare_eq_self hcs] at hf
    · have hf := h g
      rwa [Function.update_of_ne hg] at hf
  · rintro ⟨hf, hothers⟩ g
    by_cases hg : g = f
    · subst hg
      rw [Function.update_self, g.bare_eq_self hcs]
      exact hf
    · rw [Function.update_of_ne hg]
      exact hothers g hg

include hcs'

/-- Another text in one field leaves the other fields alone. -/
theorem pattern_eq_of_parse_update (hs : parse (expression (update text f cs)) = .ok s)
    (hs' : parse (expression (update text f cs')) = .ok s') :
    ∀ g, g ≠ f → s'.pattern g = s.pattern g := by
  obtain ⟨-, hothers⟩ := (parse_update_eq_ok_iff hspace hcs).mp hs
  obtain ⟨-, hothers'⟩ := (parse_update_eq_ok_iff hspace hcs').mp hs'
  intro g hg
  exact Except.ok.inj ((hothers' g hg).symm.trans (hothers g hg))

/-- An accepted expression stays accepted with another accepted text in one field. -/
theorem exists_parse_update (hs : parse (expression (update text f cs)) = .ok s) {p : Pattern}
    (hp : f.read cs' = .ok p) :
    ∃ u, parse (expression (update text f cs')) = .ok u ∧ u.pattern f = p := by
  obtain ⟨-, hothers⟩ := (parse_update_eq_ok_iff hspace hcs).mp hs
  obtain ⟨u, hu⟩ := exists_pattern_eq (update s.pattern f p)
  have huf : u.pattern f = p := by rw [hu, Function.update_self]
  refine ⟨u, (parse_update_eq_ok_iff hspace hcs').mpr ⟨huf.symm ▸ hp, fun g hg => ?_⟩, huf⟩
  rw [hu, Function.update_of_ne hg]
  exact hothers g hg

end

/-- A comma between two texts makes a union of what they tell, in a field of an expression whose
    other fields are any texts without a space, and in a field text by itself, whatever reads its
    values. So neither the order of the members of a list nor how often they are told counts for
    the moments that are due, and it counts for acceptance only where one member is left. -/
theorem parse_comma_union :
    (∀ (f : Field) (text : Field → List Char) (a b : List Char), (∀ g, g ≠ f → ' ' ∉ text g) →
      (∀ c ∈ a, isBlank c = false) → (∀ c ∈ b, isBlank c = false) →
      ∀ s s', parse (expression (update text f a)) = .ok s →
        parse (expression (update text f b)) = .ok s' →
        ∃ u, parse (expression (update text f (a ++ ',' :: b))) = .ok u ∧
          ∀ t, u.isDue t = true ↔ s.isDue t = true ∨ s'.isDue t = true) ∧
    (∀ (value? : List Char → Option Int) (a b : List Char),
      ((∃ r, readField? value? (a ++ ',' :: b) = some r) ↔
        (∃ p, readField? value? a = some p) ∧ ∃ q, readField? value? b = some q) ∧
      ∀ p q r, readField? value? a = some p → readField? value? b = some q →
        readField? value? (a ++ ',' :: b) = some r →
        (∀ v, r.contains v = true ↔ p.contains v = true ∨ q.contains v = true) ∧
        ∀ lo hi, r.inRange lo hi = true ↔ p.inRange lo hi = true ∧ q.inRange lo hi = true) ∧
    ∀ (f : Field) (text : Field → List Char) (members members' : List (List Char)),
      (∀ g, g ≠ f → ' ' ∉ text g) → (∀ m ∈ members, ∀ c ∈ m, isBlank c = false) →
      (∀ m, m ∈ members' ↔ m ∈ members) →
      ∀ s, parse (expression (update text f ([','].intercalate members))) = .ok s →
        (members'.length ≠ 1 →
          ∃ s', parse (expression (update text f ([','].intercalate members'))) = .ok s') ∧
        ∀ s', parse (expression (update text f ([','].intercalate members'))) = .ok s' →
          ∀ t, s'.isDue t = s.isDue t := by
  refine ⟨?_, ?_, ?_⟩
  · intro f text a b hspace ha hb s s' hs hs'
    have hboth : ∀ c ∈ a ++ ',' :: b, isBlank c = false := by
      rw [List.forall_mem_append, List.forall_mem_cons]
      exact ⟨ha, by decide, hb⟩
    have hp := ((parse_update_eq_ok_iff hspace ha).mp hs).1
    have hq := ((parse_update_eq_ok_iff hspace hb).mp hs').1
    obtain ⟨r, hr, hcontains⟩ := Field.exists_read_comma hp hq
    obtain ⟨u, hu, rfl⟩ := exists_parse_update hspace ha hboth hs hr
    exact ⟨u, hu, isDue_iff_or (pattern_eq_of_parse_update hspace ha hb hs hs')
      (pattern_eq_of_parse_update hspace ha hboth hs hu) hcontains⟩
  · intro value? a b
    refine ⟨?_, fun p q r hp hq hr => ⟨fun v => ?_, fun lo hi => ?_⟩⟩
    · simp only [exists_readField?_iff, List.splitOn_append_cons_self, List.forall_mem_append]
    · simp only [contains_readField?_iff hp, contains_readField?_iff hq, contains_readField?_iff hr,
        List.splitOn_append_cons_self, List.mem_append, or_and_right, exists_or]
    · simp only [inRange_readField?_iff hp, inRange_readField?_iff hq, inRange_readField?_iff hr,
        List.splitOn_append_cons_self, List.forall_mem_append]
  · intro f text members members' hspace hblank hmembers s hs
    have hsolid : ∀ ms : List (List Char), (∀ m ∈ ms, m ∈ members) →
        ∀ c ∈ [','].intercalate ms, isBlank c = false := by
      intro ms hms c hc
      rcases mem_of_mem_intercalate hc with rfl | ⟨m, hm, hc⟩
      · decide
      · exact hblank m (hms m hm) c hc
    have hcs := hsolid members fun m hm => hm
    have hcs' := hsolid members' fun m hm => (hmembers m).mp hm
    have hp := ((parse_update_eq_ok_iff hspace hcs).mp hs).1
    obtain ⟨haccepted, hcontains⟩ := Field.read_intercalate_congr hp hmembers
    refine ⟨fun hlength => ?_, fun s' hs' t => ?_⟩
    · obtain ⟨p', hp'⟩ := haccepted hlength
      obtain ⟨u, hu, -⟩ := exists_parse_update hspace hcs hcs' hs hp'
      exact ⟨u, hu⟩
    · have hp' := ((parse_update_eq_ok_iff hspace hcs').mp hs').1
      have hdue := isDue_iff_or (fun g _ => rfl)
        (pattern_eq_of_parse_update hspace hcs hcs' hs hs')
        (fun v => (hcontains _ hp' v).trans or_self_iff.symm) t
      rw [Bool.eq_iff_iff, hdue, or_self_iff]

/-- Of the members one is a span against its order. It is refused alone, and taken in any list, of
    which it is the first member here and the last one there. The first field of the expression
    begins with white space. -/
theorem parse_comma_union_reversed :
    let text : Field → List Char := Field.assign ['\t', '0'] [] ['*'] ['*'] ['*'] ['*']
    let a := "5-3,45".toList
    let b := "*/30".toList
    ∃ s s' u u',
      parse (expression (update text .minute a)) = .ok s ∧
      parse (expression (update text .minute b)) = .ok s' ∧
      parse (expression (update text .minute (a ++ ',' :: b))) = .ok u ∧
      (∀ t, u.isDue t = true ↔ s.isDue t = true ∨ s'.isDue t = true) ∧
      parse (expression (update text .minute "45,45,5-3".toList)) = .ok u' ∧
      (∀ t, u'.isDue t = s.isDue t) ∧
      parse (expression (update text .minute "5-3".toList)) = .error (.badSpan .minute) := by
  intro text a b
  have hspace : ∀ g, g ≠ Field.minute → ' ' ∉ text g := by
    intro g _
    cases g <;> decide
  have hs : parse (expression (update text .minute a)) =
      .ok ⟨.value 0, .union [.span 5 3, .value 45], .any, .any, .any, .any⟩ := by decide +kernel
  have hs' : parse (expression (update text .minute b)) =
      .ok ⟨.value 0, .every .any 30, .any, .any, .any, .any⟩ := by decide +kernel
  obtain ⟨hunion, -, hlists⟩ := parse_comma_union
  obtain ⟨u, hu, hdue⟩ := hunion .minute text a b hspace (by decide +kernel) (by decide +kernel)
    _ _ hs hs'
  obtain ⟨haccepted, hsame⟩ := hlists .minute text ["5-3".toList, "45".toList]
    ["45".toList, "45".toList, "5-3".toList] hspace (by decide +kernel) (by simp [or_comm]) _ hs
  obtain ⟨u', hu'⟩ := haccepted (by decide)
  exact ⟨_, _, u, u', hs, hs', hu, hdue, hu', hsame u' hu', by decide +kernel⟩

end Schedule

end Crond
