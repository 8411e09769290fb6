import Crond.Proofs.Schedule.FirstFault
import Crond.Proofs.Schedule.Values

/-
  Other spellings of the values and steps of an expression.

  A token is respelled by another text of the same value or step (`ValueRespelled`,
  `StepRespelled`), and a text by its parts, level by level, down to the tokens (`BaseRespelled`,
  `TermRespelled`, `FieldRespelled`, `ExpressionRespelled`). Nothing is asked of the text itself:
  it may be one that is refused.

  Respelling leaves the separators of a text where they are and its ends blank or not
  (`Keeps`), so that each level is cut as before, and each reader finds parts that it reads as
  before.

  Proved: `parse_respelled`. A respelled expression has the same schedule or the same fault; and
  a name that stands for a step, or for a value of another field, is bad format.
-/

namespace Crond

open Text

/-! ## Respelling -/

/-- A token of a field, or another text of its value. -/
inductive ValueRespelled (f : Field) : List Char → List Char → Prop
  | same (cs : List Char) : ValueRespelled f cs cs
  | other {cs cs' : List Char} {n : Int} (h : ValueText f cs n) (h' : ValueText f cs' n) :
      ValueRespelled f cs cs'

/-- A token behind a `/`, or another text of its step. A negative number that is below the
    smallest is no step, but may be told in other ways, too. -/
inductive StepRespelled : List Char → List Char → Prop
  | same (cs : List Char) : StepRespelled cs cs
  | other {cs cs' : List Char} {n : Int} (h : StepText cs n) (h' : StepText cs' n) :
      StepRespelled cs cs'
  | minus {ds ds' : List Char} (h : IsDigits ds) (h' : IsDigits ds')
      (hn : decimal ds = decimal ds') : StepRespelled ('-' :: ds) ('-' :: ds')

/-- The tokens between the `-` of a base are respelled. -/
inductive BaseRespelled (f : Field) (cs : List Char) : List Char → Prop
  | tokens {tokens' : List (List Char)}
      (h : List.Forall₂ (ValueRespelled f) (cs.splitOn '-') tokens') :
      BaseRespelled f cs (['-'].intercalate tokens')

/-- The part in front of the first `/` of a term is respelled as a base, those behind it as
    steps. -/
inductive TermRespelled (f : Field) (cs : List Char) : List Char → Prop
  | parts {base base' : List Char} {steps steps' : List (List Char)}
      (hparts : cs.splitOn '/' = base :: steps) (h : BaseRespelled f base base')
      (hsteps : List.Forall₂ StepRespelled steps steps') :
      TermRespelled f cs (['/'].intercalate (base' :: steps'))

/-- The terms between the commas of a field text are respelled. -/
inductive FieldRespelled (f : Field) (cs : List Char) : List Char → Prop
  | terms {terms' : List (List Char)}
      (h : List.Forall₂ (TermRespelled f) (cs.splitOn ',') terms') :
      FieldRespelled f cs ([','].intercalate terms')

/-- The parts of an expression are respelled, six of them as the fields that they are, and any
    other number of them as some fields. The white space around the expression may be another. -/
inductive ExpressionRespelled (cs : List Char) : List Char → Prop
  | fields {text text' : Field → List Char} {front back : List Char}
      (hparts : (trim cs).splitOn ' ' = Field.all.map text)
      (h : ∀ f : Field, FieldRespelled f (text f) (text' f))
      (hfront : ∀ c ∈ front, isBlank c = true) (hback : ∀ c ∈ back, isBlank c = true) :
      ExpressionRespelled cs (front ++ [' '].intercalate (Field.all.map text') ++ back)
  | other {parts' : List (List Char)} {front back : List Char}
      (hlength : ((trim cs).splitOn ' ').length ≠ 6)
      (h : List.Forall₂ (fun part part' => ∃ f, FieldRespelled f part part')
        ((trim cs).splitOn ' ') parts')
      (hfront : ∀ c ∈ front, isBlank c = true) (hback : ∀ c ∈ back, isBlank c = true) :
      ExpressionRespelled cs (front ++ [' '].intercalate parts' ++ back)

/-! ### Texts that are cut already -/

section

variable {f : Field} {cs cs' : List Char}

theorem BaseRespelled.of_splitOn
    (h : List.Forall₂ (ValueRespelled f) (cs.splitOn '-') (cs'.splitOn '-')) :
    BaseRespelled f cs cs' := by
  have hbase := BaseRespelled.tokens h
  rwa [List.intercalate_splitOn] at hbase

theorem TermRespelled.of_splitOn {base base' : List Char} {steps steps' : List (List Char)}
    (hparts : cs.splitOn '/' = base :: steps) (hparts' : cs'.splitOn '/' = base' :: steps')
    (h : BaseRespelled f base base') (hsteps : List.Forall₂ StepRespelled steps steps') :
    TermRespelled f cs cs' := by
  have hterm := TermRespelled.parts hparts h hsteps
  rwa [← hparts', List.intercalate_splitOn] at hterm

theorem FieldRespelled.of_splitOn
    (h : List.Forall₂ (TermRespelled f) (cs.splitOn ',') (cs'.splitOn ',')) :
    FieldRespelled f cs cs' := by
  have hfield := FieldRespelled.terms h
  rwa [List.intercalate_splitOn] at hfield

/-- No token needs to be respelled. -/
theorem FieldRespelled.refl (f : Field) (cs : List Char) : FieldRespelled f cs cs := by
  refine .of_splitOn (List.forall₂_same.mpr fun term _ => ?_)
  obtain ⟨base, steps, hparts⟩ := List.exists_cons_of_ne_nil (List.splitOn_ne_nil '/' term)
  exact .of_splitOn hparts hparts
    (.of_splitOn (List.forall₂_same.mpr fun token _ => .same token))
    (List.forall₂_same.mpr fun step _ => .same step)

end

/-! ## What respelling keeps -/

/-- The ends of a text stay blank or not, and no space, comma or slash comes into it. -/
structure Keeps (cs cs' : List Char) : Prop where
  head : cs'.head?.map isBlank = cs.head?.map isBlank
  last : cs'.getLast?.map isBlank = cs.getLast?.map isBlank
  spares : ∀ c ∈ [' ', ',', '/'], c ∉ cs → c ∉ cs'

namespace Keeps

theorem refl (cs : List Char) : Keeps cs cs := ⟨rfl, rfl, fun _ _ h => h⟩

theorem append {first first' second second' : List Char} (h : Keeps first first')
    (h' : Keeps second second') : Keeps (first ++ second) (first' ++ second') := by
  refine ⟨?_, ?_, fun c hc hmem => ?_⟩
  · rw [List.head?_append, List.head?_append, Option.map_or, Option.map_or, h.head, h'.head]
  · rw [List.getLast?_append, List.getLast?_append, Option.map_or, Option.map_or, h.last, h'.last]
  · rw [List.mem_append, not_or] at hmem ⊢
    exact ⟨h.spares c hc hmem.1, h'.spares c hc hmem.2⟩

theorem intercalate (a : Char) {parts parts' : List (List Char)}
    (h : List.Forall₂ Keeps parts parts') :
    Keeps ([a].intercalate parts) ([a].intercalate parts') := by
  induction h with
  | nil => exact refl _
  | cons hpart hparts ih =>
    cases hparts with
    | nil =>
      rw [List.intercalate_singleton, List.intercalate_singleton]
      exact hpart
    | cons hnext hrest =>
      rw [List.intercalate_cons_cons, List.intercalate_cons_cons]
      exact (hpart.append (refl [a])).append ih

/-- A text that is put together from its parts in another spelling. -/
theorem of_splitOn {a : Char} {cs : List Char} {parts' : List (List Char)}
    (h : List.Forall₂ Keeps (cs.splitOn a) parts') : Keeps cs ([a].intercalate parts') := by
  have hkeeps := intercalate a h
  rwa [List.intercalate_splitOn] at hkeeps

theorem isTrimmed {cs cs' : List Char} (h : Keeps cs cs') (ht : IsTrimmed cs) : IsTrimmed cs' := by
  have hends : ∀ e e' : Option Char, e'.map isBlank = e.map isBlank →
      (∀ c, e = some c → isBlank c = false) → ∀ c, e' = some c → isBlank c = false := by
    rintro e _ hmap hsolid c rfl
    obtain ⟨d, hd, hblank⟩ := Option.map_eq_some_iff.mp hmap.symm
    rw [← hblank]
    exact hsolid d hd
  exact ⟨hends _ _ h.head ht.head, hends _ _ h.last ht.last⟩

/-- Words in which no separator comes may stand for each other. -/
theorem of_isVisible {cs cs' : List Char} (h : IsVisible cs) (h' : IsVisible cs')
    (hsolid : Solid cs') : Keeps cs cs' := by
  have hhead : ∀ {ds : List Char}, IsVisible ds → ds.head?.map isBlank = some false := by
    intro ds hds
    obtain ⟨c, rest, rfl⟩ := List.exists_cons_of_ne_nil hds.ne_nil
    exact congrArg some (hds.not_blank c List.mem_cons_self)
  have hlast : ∀ {ds : List Char}, IsVisible ds → ds.getLast?.map isBlank = some false := by
    intro ds hds
    rw [List.getLast?_eq_some_getLast hds.ne_nil]
    exact congrArg some (hds.not_blank _ (List.getLast_mem hds.ne_nil))
  refine ⟨(hhead h').trans (hhead h).symm, (hlast h').trans (hlast h).symm, fun c hc _ => ?_⟩
  simp only [List.mem_cons, List.not_mem_nil, or_false] at hc
  rcases hc with rfl | rfl | rfl
  · exact fun hmem => absurd (h'.not_blank ' ' hmem) (by decide)
  · exact hsolid.comma
  · exact hsolid.slash

end Keeps

/-- Parts that are respelled without their separator are found again. -/
theorem splitOn_intercalate_of_forall₂ {a : Char} {R : List Char → List Char → Prop}
    (hR : ∀ part part', R part part' → a ∉ part → a ∉ part') {cs : List Char}
    {parts' : List (List Char)} (h : List.Forall₂ R (cs.splitOn a) parts') :
    ([a].intercalate parts').splitOn a = parts' := by
  refine List.splitOn_intercalate a (fun part' hpart' => ?_) ?_
  · obtain ⟨part, hpart, hpp⟩ := exists_of_mem_right h hpart'
    exact hR part part' hpp (not_mem_of_mem_splitOn hpart)
  · rintro rfl
    exact List.splitOn_ne_nil a cs (List.forall₂_nil_right_iff.mp h)

theorem Keeps.splitOn_intercalate {a : Char} (ha : a ∈ [' ', ',', '/']) {cs : List Char}
    {parts' : List (List Char)} (h : List.Forall₂ Keeps (cs.splitOn a) parts') :
    ([a].intercalate parts').splitOn a = parts' :=
  splitOn_intercalate_of_forall₂ (fun _ _ hkeeps => hkeeps.spares a ha) h

section

variable {f : Field} {cs cs' : List Char}

theorem ValueRespelled.keeps (h : ValueRespelled f cs cs') : Keeps cs cs' := by
  cases h with
  | same => exact .refl cs
  | other h h' => exact .of_isVisible h.isVisible h'.isVisible h'.solid.1

theorem ValueRespelled.not_mem_minus (h : ValueRespelled f cs cs') (hm : '-' ∉ cs) :
    '-' ∉ cs' := by
  cases h with
  | same => exact hm
  | other h h' => exact h'.solid.2

theorem StepRespelled.keeps (h : StepRespelled cs cs') : Keeps cs cs' := by
  cases h with
  | same => exact .refl cs
  | other h h' => exact .of_isVisible h.isVisible h'.isVisible h'.solid
  | minus h h' _ =>
    refine Keeps.append (Keeps.refl ['-']) (.of_isVisible (isVisible_digits h)
      (isVisible_digits h') ⟨fun hc => ?_, fun hc => ?_⟩) <;>
    exact absurd (h'.2 _ hc) (by decide)

theorem BaseRespelled.keeps (h : BaseRespelled f cs cs') : Keeps cs cs' := by
  obtain ⟨h⟩ := h
  exact .of_splitOn (h.imp fun _ _ => ValueRespelled.keeps)

theorem keeps_termParts {base base' : List Char} {steps steps' : List (List Char)}
    (hparts : cs.splitOn '/' = base :: steps) (h : BaseRespelled f base base')
    (hsteps : List.Forall₂ StepRespelled steps steps') :
    List.Forall₂ Keeps (cs.splitOn '/') (base' :: steps') := by
  rw [hparts]
  exact .cons h.keeps (hsteps.imp fun _ _ => StepRespelled.keeps)

theorem TermRespelled.keeps (h : TermRespelled f cs cs') : Keeps cs cs' := by
  obtain ⟨hparts, h, hsteps⟩ := h
  exact .of_splitOn (keeps_termParts hparts h hsteps)

theorem FieldRespelled.keeps (h : FieldRespelled f cs cs') : Keeps cs cs' := by
  obtain ⟨h⟩ := h
  exact .of_splitOn (h.imp fun _ _ => TermRespelled.keeps)

end

/-! ## What the readers make of it -/

section

variable {f : Field} {cs cs' : List Char}

/-- The value is that of the old text. -/
theorem ValueRespelled.readValue?_eq (h : ValueRespelled f cs cs') :
    f.readValue? cs' = f.readValue? cs := by
  cases h with
  | same => rfl
  | other h h' =>
    rw [(readValue?_eq_some_iff h.solid.2).mpr (Or.inl h),
      (readValue?_eq_some_iff h'.solid.2).mpr (Or.inl h')]

/-- No value is a star. -/
theorem ValueRespelled.eq_star_iff (h : ValueRespelled f cs cs') : cs' = ['*'] ↔ cs = ['*'] := by
  cases h with
  | same => exact Iff.rfl
  | other h h' =>
    have hstar : ∀ {ds : List Char} {n : Int}, ValueText f ds n → ds ≠ ['*'] := by
      rintro ds n hds rfl
      have hread := (readValue?_eq_some_iff hds.solid.2).mpr (Or.inl hds)
      rw [f.readValue?_star] at hread
      exact absurd hread (by simp)
    exact iff_of_false (hstar h') (hstar h)

theorem StepRespelled.readNumber?_eq (h : StepRespelled cs cs') :
    readNumber? cs' = readNumber? cs := by
  cases h with
  | same => rfl
  | other h h' =>
    rw [readNumber?_eq_some_iff.mpr (Or.inl h), readNumber?_eq_some_iff.mpr (Or.inl h')]
  | minus h h' hn =>
    refine Option.ext fun n => ?_
    rw [readNumber?_minus, readNumber?_minus, hn]
    exact and_congr_left' (iff_of_true h' h)

/-- A base is read token by token. -/
theorem readBase?_congr {value? : List Char → Option Int}
    (h : List.Forall₂ (fun token token' => value? token' = value? token ∧
      (token' = ['*'] ↔ token = ['*'])) (cs.splitOn '-') (cs'.splitOn '-')) :
    readBase? value? cs' = readBase? value? cs := by
  unfold readBase?
  generalize cs.splitOn '-' = tokens at h
  generalize cs'.splitOn '-' = tokens' at h
  match tokens, tokens', h with
  | _, _, .nil => rfl
  | [token], [token'], .cons ⟨hvalue, hstar⟩ .nil =>
    by_cases ht : token = ['*']
    · rw [ht, hstar.mpr ht]
    · simp [ht, hstar, hvalue]
  | [first, last], [first', last'], .cons ⟨hfirst, _⟩ (.cons ⟨hlast, _⟩ .nil) =>
    simp only [hfirst, hlast]
  | _ :: _ :: _ :: _, _ :: _ :: _ :: _, .cons _ (.cons _ (.cons _ _)) => simp

theorem BaseRespelled.readBase?_eq (h : BaseRespelled f cs cs') :
    readBase? f.readValue? cs' = readBase? f.readValue? cs := by
  obtain ⟨h⟩ := h
  refine readBase?_congr ?_
  rw [splitOn_intercalate_of_forall₂ (fun _ _ htoken => htoken.not_mem_minus) h]
  exact h.imp fun _ _ htoken => ⟨htoken.readValue?_eq, htoken.eq_star_iff⟩

theorem TermRespelled.readTerm?_eq (h : TermRespelled f cs cs') :
    readTerm? f.readValue? cs' = readTerm? f.readValue? cs := by
  obtain ⟨hparts, hbase, hsteps⟩ := h
  unfold readTerm?
  rw [Keeps.splitOn_intercalate (by decide) (keeps_termParts hparts hbase hsteps), hparts]
  cases hsteps with
  | nil => exact hbase.readBase?_eq
  | cons hstep hrest =>
    cases hrest with
    | nil => simp only [hbase.readBase?_eq, hstep.readNumber?_eq]
    | cons _ _ => rfl

theorem FieldRespelled.readField?_eq (h : FieldRespelled f cs cs') :
    readField? f.readValue? cs' = readField? f.readValue? cs := by
  obtain ⟨h⟩ := h
  unfold readField?
  rw [Keeps.splitOn_intercalate (by decide) (h.imp fun _ _ => TermRespelled.keeps),
    mapM_eq_of_forall₂ (h.imp fun _ _ => TermRespelled.readTerm?_eq)]

theorem FieldRespelled.read_eq (h : FieldRespelled f cs cs') : f.read cs' = f.read cs := by
  unfold Field.read
  rw [h.readField?_eq]

end

namespace Schedule

/-- A text whose parts are respelled is cut into these parts, whatever white space is around
    it. -/
theorem splitOn_trim_respelled {cs front back : List Char} {parts' : List (List Char)}
    (h : List.Forall₂ Keeps ((trim cs).splitOn ' ') parts')
    (hfront : ∀ c ∈ front, isBlank c = true) (hback : ∀ c ∈ back, isBlank c = true) :
    (trim (front ++ [' '].intercalate parts' ++ back)).splitOn ' ' = parts' := by
  have htrimmed : IsTrimmed ([' '].intercalate parts') :=
    (Keeps.of_splitOn h).isTrimmed (isTrimmed_trim cs)
  rw [trim_padded hfront hback, htrimmed.trim_eq, Keeps.splitOn_intercalate (by decide) h]

/-- Any number of parts but six is the fault. -/
theorem read_of_length_ne {cs : List Char} (h : ((trim cs).splitOn ' ').length ≠ 6) :
    read cs = .error (.fieldCount ((trim cs).splitOn ' ').length) := by
  unfold read
  split
  · rename_i hsplit
    exact absurd (congrArg List.length hsplit) h
  · rfl

theorem read_respelled {cs cs' : List Char} (h : ExpressionRespelled cs cs') :
    read cs' = read cs := by
  cases h with
  | @fields text text' front back hparts h hfront hback =>
    have hkeeps : List.Forall₂ Keeps ((trim cs).splitOn ' ') (Field.all.map text') := by
      rw [hparts, List.forall₂_map_left_iff, List.forall₂_map_right_iff]
      exact List.forall₂_same.mpr fun f _ => (h f).keeps
    rw [read_eq_readFields (splitOn_trim_respelled hkeeps hfront hback), read_eq_readFields hparts]
    simp only [readFields, (h _).read_eq]
  | @other parts' front back hlength h hfront hback =>
    have hkeeps : List.Forall₂ Keeps ((trim cs).splitOn ' ') parts' :=
      h.imp fun _ _ ⟨_, hpart⟩ => hpart.keeps
    have hsplit := splitOn_trim_respelled hkeeps hfront hback
    rw [read_of_length_ne hlength, read_of_length_ne (by rw [hsplit, ← h.length_eq]; exact hlength),
      hsplit, ← h.length_eq]

end Schedule

/-! ## Names in wrong places -/

/-- The tokens of a field text that stand for values: those between the `-` of its bases. -/
def valueTokens (cs : List Char) : List (List Char) :=
  (cs.splitOn ',').flatMap fun term => ((term.splitOn '/').headD []).splitOn '-'

/-- The tokens of a field text that stand for steps: those behind a `/`. -/
def stepTokens (cs : List Char) : List (List Char) :=
  (cs.splitOn ',').flatMap fun term => (term.splitOn '/').tail

section

variable {value? : List Char → Option Int} {cs token : List Char}

/-- A base is not read if one of its tokens is no value, unless that is a star. -/
theorem readBase?_eq_none (hstar : value? ['*'] = none) (hmem : token ∈ cs.splitOn '-')
    (hne : token ≠ ['*']) (h : value? token = none) : readBase? value? cs = none := by
  rw [Option.eq_none_iff_forall_ne_some]
  intro p hp
  rcases (readBase?_eq_some_iff hstar).mp hp with
    ⟨rfl, -⟩ | ⟨hm, n, hn, -⟩ | ⟨first, last, rfl, hfirst, hlast, a, b, ha, hb, -⟩
  · exact hne (List.mem_singleton.mp hmem)
  · rw [splitOn_eq_one_iff.mpr ⟨rfl, hm⟩, List.mem_singleton] at hmem
    rw [← hmem, h] at hn
    exact absurd hn (by simp)
  · rw [splitOn_eq_two_iff.mpr ⟨rfl, hfirst, hlast⟩] at hmem
    rcases List.mem_pair.mp hmem with rfl | rfl
    · rw [h] at ha
      exact absurd ha (by simp)
    · rw [h] at hb
      exact absurd hb (by simp)

theorem readTerm?_eq_none_of_base (h : readBase? value? ((cs.splitOn '/').headD []) = none) :
    readTerm? value? cs = none := by
  unfold readTerm?
  generalize cs.splitOn '/' = parts at h
  match parts with
  | [] => rfl
  | [base] => exact h
  | [base, step] =>
    rw [List.headD_cons] at h
    simp only [h]
  | _ :: _ :: _ :: _ => rfl

theorem readTerm?_eq_none_of_step (hmem : token ∈ (cs.splitOn '/').tail)
    (h : readNumber? token = none) : readTerm? value? cs = none := by
  unfold readTerm?
  generalize cs.splitOn '/' = parts at hmem
  match parts with
  | [] => rfl
  | [base] => exact absurd hmem List.not_mem_nil
  | [base, step] =>
    rw [List.tail_cons, List.mem_singleton] at hmem
    rw [hmem] at h
    cases hbase : readBase? value? base <;> simp only [hbase, h]
  | _ :: _ :: _ :: _ => rfl

theorem readField?_eq_none {term : List Char} (hmem : term ∈ cs.splitOn ',')
    (h : readTerm? value? term = none) : readField? value? cs = none := by
  rw [Option.eq_none_iff_forall_ne_some]
  intro p hp
  obtain ⟨q, hq⟩ := exists_readField?_iff.mp ⟨p, hp⟩ term hmem
  rw [h] at hq
  exact absurd hq (by simp)

end

namespace Field

/-- A name is no value of another field, and no star. -/
theorem readValue?_name {f g : Field} (hgf : g ≠ f) :
    ∀ e ∈ g.names, f.readValue? e.1 = none ∧ e.1 ≠ ['*'] := by
  cases f <;> cases g <;> first | exact absurd rfl hgf | decide

/-- A name for a step, or for a value of another field, spoils the format of a field. -/
theorem read_name {f g : Field} {cs : List Char} {e : List Char × Int} (he : e ∈ g.names)
    (h : e.1 ∈ stepTokens cs ∨ g ≠ f ∧ e.1 ∈ valueTokens cs) :
    f.read cs = .error (.badFormat f) := by
  have hnone : readField? f.readValue? cs = none := by
    rcases h with h | ⟨hgf, h⟩
    · obtain ⟨term, hterm, htoken⟩ := List.mem_flatMap.mp h
      exact readField?_eq_none hterm (readTerm?_eq_none_of_step htoken (g.names_spec e he).2.2)
    · obtain ⟨term, hterm, htoken⟩ := List.mem_flatMap.mp h
      obtain ⟨hvalue, hne⟩ := readValue?_name hgf e he
      exact readField?_eq_none hterm
        (readTerm?_eq_none_of_base (readBase?_eq_none f.readValue?_star htoken hne hvalue))
  unfold Field.read
  rw [hnone]

end Field

namespace Schedule

/-- The spelling of values and steps does not matter: an expression in which any number of them
    are told in other ways has the same schedule or the same fault, told of the same field. A
    name that stands for a step, or for a value outside its own field, is bad format. -/
theorem parse_respelled :
    (∀ a b : String, ExpressionRespelled a.toList b.toList → parse b = parse a) ∧
    ∀ (expression : String) (text : Field → List Char),
      (trim expression.toList).splitOn ' ' = Field.all.map text →
      ∀ f g : Field, ∀ e ∈ g.names,
        (e.1 ∈ stepTokens (text f) ∨ g ≠ f ∧ e.1 ∈ valueTokens (text f)) →
        f.read (text f) = .error (.badFormat f) ∧ ∀ s, parse expression ≠ .ok s := by
  refine ⟨fun a b h => read_respelled h, fun expression text hparts f g e he hname => ?_⟩
  have hread := Field.read_name he hname
  refine ⟨hread, fun s hs => ?_⟩
  rw [(read_eq_ok_iff_fields hparts).mp hs f] at hread
  exact absurd hread (by simp)

/-- A sign, zeros, names for numbers, numbers for names, and Sunday as 0 for 7, in a list, in
    ranges and at a step. A name is no step even in its own field. -/
theorem parse_respelled_names :
    let text : Field → List Char := Field.assign ['*'] ['*'] ['*'] ['*'] ['*'] "*/MON".toList
    ExpressionRespelled "0 5 * * 1-MAR 7,MON-5/1".toList
        "\t0 +05 * * JAN-03 SUN,1-FRI/+1 ".toList ∧
      parse "\t0 +05 * * JAN-03 SUN,1-FRI/+1 " = parse "0 5 * * 1-MAR 7,MON-5/1" ∧
      (∃ s, parse "0 5 * * 1-MAR 7,MON-5/1" = .ok s) ∧
      (trim "* * * * * */MON".toList).splitOn ' ' = Field.all.map text ∧
      ("MON".toList, 1) ∈ Field.weekday.names ∧ "MON".toList ∈ stepTokens (text .weekday) ∧
      ∀ s, parse "* * * * * */MON" ≠ .ok s := by
  intro text
  have hminute : FieldRespelled .minute "5".toList "+05".toList :=
    .of_splitOn (.cons (.of_splitOn rfl rfl (.of_splitOn
      (.cons (@ValueRespelled.other _ _ _ 5 (by decide) (by decide)) .nil)) .nil) .nil)
  have hmonth : FieldRespelled .month "1-MAR".toList "JAN-03".toList :=
    .of_splitOn (.cons (.of_splitOn rfl rfl (.of_splitOn
      (.cons (@ValueRespelled.other _ _ _ 1 (by decide) (by decide))
        (.cons (@ValueRespelled.other _ _ _ 3 (by decide) (by decide)) .nil))) .nil) .nil)
  have hsunday : TermRespelled .weekday "7".toList "SUN".toList :=
    .of_splitOn rfl rfl (.of_splitOn
      (.cons (@ValueRespelled.other _ _ _ 0 (by decide) (by decide)) .nil)) .nil
  have hweek : TermRespelled .weekday "MON-5/1".toList "1-FRI/+1".toList :=
    .of_splitOn rfl rfl (.of_splitOn
      (.cons (@ValueRespelled.other _ _ _ 1 (by decide) (by decide))
        (.cons (@ValueRespelled.other _ _ _ 5 (by decide) (by decide)) .nil)))
      (.cons (@StepRespelled.other _ _ 1 (by decide) (by decide)) .nil)
  have hweekday : FieldRespelled .weekday "7,MON-5/1".toList "SUN,1-FRI/+1".toList :=
    .of_splitOn (.cons hsunday (.cons hweek .nil))
  let old := Field.assign ['0'] "5".toList ['*'] ['*'] "1-MAR".toList "7,MON-5/1".toList
  let new := Field.assign ['0'] "+05".toList ['*'] ['*'] "JAN-03".toList "SUN,1-FRI/+1".toList
  have hfields : ∀ f, FieldRespelled f (old f) (new f) := by
    intro f
    cases f with
    | minute => exact hminute
    | month => exact hmonth
    | weekday => exact hweekday
    | _ => exact .refl _ _
  have hold : (trim "0 5 * * 1-MAR 7,MON-5/1".toList).splitOn ' ' = Field.all.map old := by rfl
  have hnew : "\t0 +05 * * JAN-03 SUN,1-FRI/+1 ".toList =
      ['\t'] ++ [' '].intercalate (Field.all.map new) ++ [' '] := by rfl
  have h : ExpressionRespelled "0 5 * * 1-MAR 7,MON-5/1".toList
      "\t0 +05 * * JAN-03 SUN,1-FRI/+1 ".toList := by
    rw [hnew]
    exact .fields hold hfields (by decide) (by decide)
  have hparts : (trim "* * * * * */MON".toList).splitOn ' ' = Field.all.map text := by rfl
  have hname : ("MON".toList, 1) ∈ Field.weekday.names := by decide
  have hstep : "MON".toList ∈ stepTokens (text .weekday) := by decide
  obtain ⟨hsame, hnames⟩ := parse_respelled
  exact ⟨h, hsame _ _ h, ⟨_, by rfl⟩, hparts, hname, hstep,
    (hnames _ text hparts .weekday .weekday _ hname (Or.inl hstep)).2⟩

end Schedule

end Crond
