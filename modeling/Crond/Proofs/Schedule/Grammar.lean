import Crond.Proofs.Schedule.Reading
import Crond.Proofs.Schedule.Values

/-
  The grammar of expressions, and which texts outside of it are accepted.

  An expression is six fields with one space between neighbours, a field is terms with commas
  between them, a term is a base or a base with a step, and a base is `*`, a value or two values.
  The grammar is stated over any texts of values and steps, so that it can be told twice: as it
  is meant (`ValueText`, `StepText`), and with garbled numbers among the values and steps
  (`LooseValue`, `LooseStep`).

  Proved:
  * `Reads.fieldText_iff`: a field is read exactly when it is one of the grammar, for any texts
    of values and steps that go with the readers.
  * `parse_eq_ok_iff_grammar`: the accepted expressions are those of the loose grammar; those of
    the grammar are the accepted ones without a garbled number.
  * `garbled_step_accepted`: a garbled number does get through.
-/

namespace Crond

open Text

/-! ## The grammar -/

section

variable (Value Step : List Char → Int → Prop)

/-- `*`, a value, or two values. -/
inductive BaseText : List Char → Pattern → Prop
  | any : BaseText ['*'] .any
  | value {cs : List Char} {n : Int} (h : Value cs n) : BaseText cs (.value n)
  | span {first last : List Char} {a b : Int} (ha : Value first a) (hb : Value last b) :
      BaseText (first ++ '-' :: last) (.span a b)

/-- A base, or a base and a step. -/
inductive TermText : List Char → Pattern → Prop
  | base {cs : List Char} {p : Pattern} (h : BaseText Value cs p) : TermText cs p
  | stepped {cs step : List Char} {p : Pattern} {n : Int} (h : BaseText Value cs p)
      (hn : Step step n) : TermText (cs ++ '/' :: step) (.every p n)

/-- Terms with commas between them, one at least. -/
inductive FieldText : List Char → Pattern → Prop
  | terms {texts : List (List Char)} {ps : List Pattern} (hne : texts ≠ [])
      (h : List.Forall₂ (TermText Value Step) texts ps) :
      FieldText ([','].intercalate texts) (.ofTerms ps)

end

/-- Six fields with one space between neighbours, white space around them aside, whose patterns
    keep to the bounds. -/
def ExpressionText (Value : Field → List Char → Int → Prop) (Step : List Char → Int → Prop)
    (cs : List Char) (s : Schedule) : Prop :=
  ∃ text : Field → List Char, (trim cs).splitOn ' ' = Field.all.map text ∧
    ∀ f : Field, FieldText (Value f) Step (text f) (s.pattern f) ∧
      (s.pattern f).defect? f.low f.high = none

/-- A value, or a garbled number in its place. -/
def LooseValue (f : Field) (cs : List Char) (n : Int) : Prop :=
  ValueText f cs n ∨ n = largest ∧ Garbled cs ∧ Solid cs ∧ '-' ∉ cs

/-- A step, or a garbled number in its place. -/
def LooseStep (cs : List Char) (n : Int) : Prop :=
  StepText cs n ∨ n = largest ∧ Garbled cs ∧ Solid cs

/-! ## Tokens -/

/-- The texts of the values and steps of a term, a `*` as it stands. -/
def termTokens (cs : List Char) : List (List Char) :=
  match cs.splitOn '/' with
  | base :: steps => base.splitOn '-' ++ steps
  | [] => []

def fieldTokens (cs : List Char) : List (List Char) := (cs.splitOn ',').flatMap termTokens

/-- The values and steps of an expression. -/
def tokens (cs : List Char) : List (List Char) := ((trim cs).splitOn ' ').flatMap fieldTokens

theorem termTokens_base {cs : List Char} (h : '/' ∉ cs) : termTokens cs = cs.splitOn '-' := by
  unfold termTokens
  rw [List.splitOn_eq_singleton h]
  exact List.append_nil _

theorem termTokens_stepped {cs step : List Char} (h : '/' ∉ cs) (hs : '/' ∉ step) :
    termTokens (cs ++ '/' :: step) = cs.splitOn '-' ++ [step] := by
  unfold termTokens
  rw [splitOn_eq_two_iff.mpr ⟨rfl, h, hs⟩]

/-! ## Reading -/

/-- How texts of values and steps go with the readers: they are what is read, as far as all
    tokens meet the condition `P` and no separator is in them. -/
structure Reads (P : List Char → Prop) (value? : List Char → Option Int)
    (Value Step : List Char → Int → Prop) : Prop where
  value : ∀ cs n, Value cs n ↔ value? cs = some n ∧ P cs ∧ Solid cs ∧ '-' ∉ cs
  step : ∀ cs n, Step cs n ↔ readNumber? cs = some n ∧ P cs ∧ Solid cs
  star : value? ['*'] = none
  any : P ['*']

namespace Reads

variable {P : List Char → Prop} {value? : List Char → Option Int}
  {Value Step : List Char → Int → Prop}

theorem baseText_iff (h : Reads P value? Value Step) {cs : List Char} {p : Pattern} :
    BaseText Value cs p ↔
      readBase? value? cs = some p ∧ (∀ token ∈ cs.splitOn '-', P token) ∧ Solid cs := by
  rw [readBase?_eq_some_iff h.star]
  constructor
  · rintro (_ | hv | ⟨ha, hb⟩)
    · refine ⟨Or.inl ⟨rfl, rfl⟩, ?_, by decide⟩
      exact fun token htoken => List.mem_singleton.mp htoken ▸ h.any
    · obtain ⟨hread, hP, hsolid, hm⟩ := (h.value _ _).mp hv
      refine ⟨Or.inr (Or.inl ⟨hm, _, hread, rfl⟩), ?_, hsolid⟩
      rw [List.splitOn_eq_singleton hm]
      exact fun token htoken => List.mem_singleton.mp htoken ▸ hP
    · obtain ⟨hread, hP, hsolid, hm⟩ := (h.value _ _).mp ha
      obtain ⟨hread', hP', hsolid', hm'⟩ := (h.value _ _).mp hb
      refine ⟨Or.inr (Or.inr ⟨_, _, rfl, hm, hm', _, _, hread, hread', rfl⟩), ?_, ?_⟩
      · rw [splitOn_eq_two_iff.mpr ⟨rfl, hm, hm'⟩]
        intro token htoken
        rcases List.mem_pair.mp htoken with rfl | rfl
        · exact hP
        · exact hP'
      · constructor <;> rw [List.mem_append, List.mem_cons, not_or, not_or]
        · exact ⟨hsolid.comma, by decide, hsolid'.comma⟩
        · exact ⟨hsolid.slash, by decide, hsolid'.slash⟩
  · rintro ⟨hread, hP, hsolid⟩
    rcases hread with
      ⟨rfl, rfl⟩ | ⟨hm, n, hn, rfl⟩ | ⟨first, last, rfl, hm, hm', a, b, ha, hb, rfl⟩
    · exact .any
    · rw [List.splitOn_eq_singleton hm] at hP
      exact .value ((h.value _ _).mpr ⟨hn, hP cs (List.mem_singleton.mpr rfl), hsolid, hm⟩)
    · rw [splitOn_eq_two_iff.mpr ⟨rfl, hm, hm'⟩] at hP
      obtain ⟨hcomma, hslash⟩ := hsolid
      rw [List.mem_append, List.mem_cons, not_or, not_or] at hcomma hslash
      exact .span
        ((h.value _ _).mpr ⟨ha, hP first (by simp), ⟨hcomma.1, hslash.1⟩, hm⟩)
        ((h.value _ _).mpr ⟨hb, hP last (by simp), ⟨hcomma.2.2, hslash.2.2⟩, hm'⟩)

theorem termText_iff (h : Reads P value? Value Step) {cs : List Char} {p : Pattern} :
    TermText Value Step cs p ↔
      readTerm? value? cs = some p ∧ (∀ token ∈ termTokens cs, P token) ∧ ',' ∉ cs := by
  rw [readTerm?_eq_some_iff h.star]
  constructor
  · rintro (hb | ⟨hb, hs⟩)
    · obtain ⟨hread, hP, hsolid⟩ := h.baseText_iff.mp hb
      refine ⟨Or.inl ⟨hsolid.slash, hread⟩, ?_, hsolid.comma⟩
      rw [termTokens_base hsolid.slash]
      exact hP
    · obtain ⟨hread, hP, hsolid⟩ := h.baseText_iff.mp hb
      obtain ⟨hstep, hP', hsolid'⟩ := (h.step _ _).mp hs
      refine ⟨Or.inr ⟨_, _, rfl, hsolid.slash, hsolid'.slash, _, _, hread, hstep, rfl⟩, ?_, ?_⟩
      · rw [termTokens_stepped hsolid.slash hsolid'.slash]
        intro token htoken
        rcases List.mem_append.mp htoken with htoken | htoken
        · exact hP token htoken
        · exact List.mem_singleton.mp htoken ▸ hP'
      · rw [List.mem_append, List.mem_cons, not_or, not_or]
        exact ⟨hsolid.comma, by decide, hsolid'.comma⟩
  · rintro ⟨hread, hP, hcomma⟩
    rcases hread with
      ⟨hslash, hread⟩ | ⟨base, step, rfl, hslash, hslash', q, n, hread, hstep, rfl⟩
    · rw [termTokens_base hslash] at hP
      exact .base (h.baseText_iff.mpr ⟨hread, hP, hcomma, hslash⟩)
    · rw [termTokens_stepped hslash hslash'] at hP
      rw [List.mem_append, List.mem_cons, not_or, not_or] at hcomma
      have hbase : ∀ token ∈ base.splitOn '-', P token :=
        fun token htoken => hP token (List.mem_append_left _ htoken)
      have hP' : P step := hP step (List.mem_append_right _ (List.mem_singleton.mpr rfl))
      exact .stepped (h.baseText_iff.mpr ⟨hread, hbase, hcomma.1, hslash⟩)
        ((h.step _ _).mpr ⟨hstep, hP', hcomma.2.2, hslash'⟩)

theorem forall₂_termText_iff (h : Reads P value? Value Step) {texts : List (List Char)}
    {ps : List Pattern} :
    List.Forall₂ (TermText Value Step) texts ps ↔
      (∀ text ∈ texts, (∀ token ∈ termTokens text, P token) ∧ ',' ∉ text) ∧
      List.Forall₂ (fun text p => readTerm? value? text = some p) texts ps := by
  rw [← List.forall₂_and_left]
  constructor
  · exact fun hts => hts.imp fun _ _ ht => (h.termText_iff.mp ht).symm
  · exact fun hts => hts.imp fun _ _ ht => h.termText_iff.mpr ht.symm

/-- A field text is read exactly when it is one of the grammar. -/
theorem fieldText_iff (h : Reads P value? Value Step) {cs : List Char} {p : Pattern} :
    FieldText Value Step cs p ↔
      readField? value? cs = some p ∧ ∀ token ∈ fieldTokens cs, P token := by
  rw [readField?_eq_some_iff]
  unfold fieldTokens
  constructor
  · rintro ⟨hne, hts⟩
    obtain ⟨hP, hread⟩ := h.forall₂_termText_iff.mp hts
    rw [List.splitOn_intercalate _ (fun text ht => (hP text ht).2) hne]
    refine ⟨⟨_, hread, rfl⟩, fun token htoken => ?_⟩
    obtain ⟨text, ht, htoken⟩ := List.mem_flatMap.mp htoken
    exact (hP text ht).1 token htoken
  · rintro ⟨⟨ps, hread, rfl⟩, hP⟩
    have hts : List.Forall₂ (TermText Value Step) (cs.splitOn ',') ps := by
      refine h.forall₂_termText_iff.mpr ⟨fun text ht => ⟨fun token htoken => ?_, ?_⟩, hread⟩
      · exact hP token (List.mem_flatMap.mpr ⟨text, ht, htoken⟩)
      · exact not_mem_of_mem_splitOn ht
    have hterms := FieldText.terms (List.splitOn_ne_nil ',' cs) hts
    rwa [List.intercalate_splitOn] at hterms

theorem expressionText_iff {Value : Field → List Char → Int → Prop}
    (h : ∀ f : Field, Reads P f.readValue? (Value f) Step) {cs : List Char} {s : Schedule} :
    ExpressionText Value Step cs s ↔ Schedule.read cs = .ok s ∧ ∀ token ∈ tokens cs, P token := by
  rw [Schedule.read_eq_ok_iff]
  unfold ExpressionText tokens
  constructor
  · rintro ⟨text, hs, hf⟩
    refine ⟨⟨text, hs, fun f => ?_⟩, fun token htoken => ?_⟩
    · exact Field.read_eq_ok_iff.mpr ⟨((h f).fieldText_iff.mp (hf f).1).1, (hf f).2⟩
    · rw [hs] at htoken
      obtain ⟨part, hpart, htoken⟩ := List.mem_flatMap.mp htoken
      obtain ⟨f, _, rfl⟩ := List.mem_map.mp hpart
      exact ((h f).fieldText_iff.mp (hf f).1).2 token htoken
  · rintro ⟨⟨text, hs, hf⟩, hP⟩
    refine ⟨text, hs, fun f => ?_⟩
    obtain ⟨hread, hdefect⟩ := Field.read_eq_ok_iff.mp (hf f)
    refine ⟨(h f).fieldText_iff.mpr ⟨hread, fun token htoken => hP token ?_⟩, hdefect⟩
    rw [hs]
    exact List.mem_flatMap.mpr ⟨text f, List.mem_map_of_mem f.mem_all, htoken⟩

end Reads

/-- The texts of the grammar are the tokens that are read and not garbled. -/
theorem reads_grammar (f : Field) :
    Reads (fun token => ¬ Garbled token) f.readValue? (ValueText f) StepText where
  value cs n := by
    constructor
    · intro h
      obtain ⟨hsolid, hm⟩ := h.solid
      exact ⟨(readValue?_eq_some_iff hm).mpr (Or.inl h), h.not_garbled, hsolid, hm⟩
    · rintro ⟨hread, hgarbled, _, hm⟩
      exact ((readValue?_eq_some_iff hm).mp hread).resolve_right fun h => hgarbled h.2
  step cs n := by
    constructor
    · exact fun h => ⟨readNumber?_eq_some_iff.mpr (Or.inl h), h.not_garbled, h.solid⟩
    · rintro ⟨hread, hgarbled, _⟩
      exact (readNumber?_eq_some_iff.mp hread).resolve_right fun h => hgarbled h.2
  star := f.readValue?_star
  any := by decide

/-- With the garbled numbers they are all tokens that are read. -/
theorem reads_loose (f : Field) :
    Reads (fun _ => True) f.readValue? (LooseValue f) LooseStep where
  value cs n := by
    constructor
    · rintro (h | ⟨hn, hgarbled, hsolid, hm⟩)
      · obtain ⟨hsolid, hm⟩ := h.solid
        exact ⟨(readValue?_eq_some_iff hm).mpr (Or.inl h), trivial, hsolid, hm⟩
      · exact ⟨(readValue?_eq_some_iff hm).mpr (Or.inr ⟨hn, hgarbled⟩), trivial, hsolid, hm⟩
    · rintro ⟨hread, _, hsolid, hm⟩
      exact ((readValue?_eq_some_iff hm).mp hread).imp_right fun h => ⟨h.1, h.2, hsolid, hm⟩
  step cs n := by
    constructor
    · rintro (h | ⟨hn, hgarbled, hsolid⟩)
      · exact ⟨readNumber?_eq_some_iff.mpr (Or.inl h), trivial, h.solid⟩
      · exact ⟨readNumber?_eq_some_iff.mpr (Or.inr ⟨hn, hgarbled⟩), trivial, hsolid⟩
    · rintro ⟨hread, _, hsolid⟩
      exact (readNumber?_eq_some_iff.mp hread).imp_right fun h => ⟨h.1, h.2, hsolid⟩
  star := f.readValue?_star
  any := trivial

namespace Schedule

/-- What is accepted, told by the loose grammar and by the grammar: an expression of the grammar
    is an accepted one without a garbled number, and on every other text than an accepted one
    with a garbled number, acceptance and the grammar agree. -/
theorem parse_eq_ok_iff_grammar (expression : String) :
    (∀ s, parse expression = .ok s ↔
      ExpressionText LooseValue LooseStep expression.toList s) ∧
    (∀ s, ExpressionText ValueText StepText expression.toList s ↔
      parse expression = .ok s ∧ ∀ token ∈ tokens expression.toList, ¬ Garbled token) ∧
    (((∃ s, parse expression = .ok s) ↔
        ∃ s, ExpressionText ValueText StepText expression.toList s) ↔
      ((∃ s, parse expression = .ok s) →
        ∀ token ∈ tokens expression.toList, ¬ Garbled token)) := by
  have hloose : ∀ s, ExpressionText LooseValue LooseStep expression.toList s ↔
      parse expression = .ok s := by
    intro s
    rw [Reads.expressionText_iff reads_loose]
    exact and_iff_left fun _ _ => trivial
  have hgrammar : ∀ s, ExpressionText ValueText StepText expression.toList s ↔
      parse expression = .ok s ∧ ∀ token ∈ tokens expression.toList, ¬ Garbled token :=
    fun s => Reads.expressionText_iff reads_grammar
  refine ⟨fun s => (hloose s).symm, hgrammar, ?_⟩
  constructor
  · intro hiff haccepted
    obtain ⟨s, hs⟩ := hiff.mp haccepted
    exact ((hgrammar s).mp hs).2
  · intro hclean
    constructor
    · rintro ⟨s, hs⟩
      exact ⟨s, (hgrammar s).mpr ⟨hs, hclean ⟨s, hs⟩⟩⟩
    · rintro ⟨s, hs⟩
      exact ⟨s, ((hgrammar s).mp hs).1⟩

/-- A step that is too large may have any text behind its digits. -/
theorem garbled_step_accepted :
    (∃ s, parse "*/9223372036854775808x * * * * *" = .ok s) ∧
    ¬ ∃ s, ExpressionText ValueText StepText "*/9223372036854775808x * * * * *".toList s := by
  refine ⟨⟨⟨.every .any largest, .any, .any, .any, .any, .any⟩, by rfl⟩, ?_⟩
  rintro ⟨s, hs⟩
  obtain ⟨_, hclean⟩ := (Reads.expressionText_iff reads_grammar).mp hs
  exact hclean "9223372036854775808x".toList (by decide) (by decide)

end Schedule

end Crond
