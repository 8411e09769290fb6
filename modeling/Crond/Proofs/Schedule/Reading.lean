import Crond.Schedule.Expression
import Crond.Proofs.Text.Parts

/-
  What the readers of expressions accept, one level at a time.

  Each reader splits its text and hands the parts on. A lemma for each of them says with which
  result it ends in terms of the readers of the parts: `readBase?_eq_some_iff`,
  `readTerm?_eq_some_iff`, `readField?_eq_some_iff`, `Field.read_eq_ok_iff` and
  `Schedule.read_eq_ok_iff`.
-/

namespace Crond

open Text

/-! ## Field texts -/

section

variable {value? : List Char → Option Int} {cs : List Char} {p : Pattern}

/-- No value reader takes a star. -/
theorem Field.readValue?_star (f : Field) : f.readValue? ['*'] = none := by cases f <;> decide

theorem readBase?_eq_some_iff (hstar : value? ['*'] = none) :
    readBase? value? cs = some p ↔
      cs = ['*'] ∧ p = .any ∨
      '-' ∉ cs ∧ (∃ n, value? cs = some n ∧ p = .value n) ∨
      ∃ first last, cs = first ++ '-' :: last ∧ '-' ∉ first ∧ '-' ∉ last ∧
        ∃ a b, value? first = some a ∧ value? last = some b ∧ p = .span a b := by
  unfold readBase?
  constructor
  · intro h
    split at h
    · rename_i hs
      obtain ⟨rfl, _⟩ := splitOn_eq_one_iff.mp hs
      exact Or.inl ⟨rfl, (Option.some.inj h).symm⟩
    · rename_i hs
      obtain ⟨rfl, hm⟩ := splitOn_eq_one_iff.mp hs
      obtain ⟨n, hn, hp⟩ := Option.map_eq_some_iff.mp h
      exact Or.inr (Or.inl ⟨hm, n, hn, hp.symm⟩)
    · rename_i hs
      obtain ⟨hcs, hfirst, hlast⟩ := splitOn_eq_two_iff.mp hs
      split at h
      · rename_i ha hb
        exact Or.inr (Or.inr ⟨_, _, hcs, hfirst, hlast, _, _, ha, hb, (Option.some.inj h).symm⟩)
      · exact absurd h (by simp)
    · exact absurd h (by simp)
  · rintro (⟨rfl, rfl⟩ | ⟨hm, n, hn, rfl⟩ | ⟨first, last, hcs, hfirst, hlast, a, b, ha, hb, rfl⟩)
    · rfl
    · rw [splitOn_eq_one_iff.mpr ⟨rfl, hm⟩]
      split
      · rename_i hs
        rw [List.singleton_inj.mp hs, hstar] at hn
        exact absurd hn (by simp)
      · rename_i hs
        rw [← List.singleton_inj.mp hs, hn]
        rfl
      · rename_i hs
        exact absurd hs (by simp)
      · rename_i hs _
        exact absurd rfl (hs cs)
    · rw [splitOn_eq_two_iff.mpr ⟨hcs, hfirst, hlast⟩]
      simp only [ha, hb]

theorem isBase_of_readBase? (hstar : value? ['*'] = none) (h : readBase? value? cs = some p) :
    p.isBase = true := by
  rcases (readBase?_eq_some_iff hstar).mp h with
    ⟨_, rfl⟩ | ⟨_, _, _, rfl⟩ | ⟨_, _, _, _, _, _, _, _, _, rfl⟩ <;> rfl

theorem readTerm?_eq_some_iff (hstar : value? ['*'] = none) :
    readTerm? value? cs = some p ↔
      '/' ∉ cs ∧ readBase? value? cs = some p ∨
      ∃ base step, cs = base ++ '/' :: step ∧ '/' ∉ base ∧ '/' ∉ step ∧
        ∃ q n, readBase? value? base = some q ∧ readNumber? step = some n ∧ p = .every q n := by
  unfold readTerm?
  constructor
  · intro h
    split at h
    · rename_i hs
      obtain ⟨rfl, hm⟩ := splitOn_eq_one_iff.mp hs
      exact Or.inl ⟨hm, h⟩
    · rename_i hs
      obtain ⟨hcs, hbase, hstep⟩ := splitOn_eq_two_iff.mp hs
      split at h
      · rename_i hq hn
        rw [Pattern.stepped?, if_pos (isBase_of_readBase? hstar hq), Option.some.injEq] at h
        exact Or.inr ⟨_, _, hcs, hbase, hstep, _, _, hq, hn, h.symm⟩
      · exact absurd h (by simp)
    · exact absurd h (by simp)
  · rintro (⟨hm, h⟩ | ⟨base, step, hcs, hbase, hstep, q, n, hq, hn, rfl⟩)
    · rw [splitOn_eq_one_iff.mpr ⟨rfl, hm⟩]
      exact h
    · rw [splitOn_eq_two_iff.mpr ⟨hcs, hbase, hstep⟩]
      simp only [hq, hn]
      rw [Pattern.stepped?, if_pos (isBase_of_readBase? hstar hq)]

theorem readField?_eq_some_iff :
    readField? value? cs = some p ↔
      ∃ ps, List.Forall₂ (fun text q => readTerm? value? text = some q) (cs.splitOn ',') ps ∧
        p = .ofTerms ps := by
  unfold readField?
  rw [Option.map_eq_some_iff]
  constructor
  · rintro ⟨ps, hps, hp⟩
    exact ⟨ps, mapM_eq_some_iff.mp hps, hp.symm⟩
  · rintro ⟨ps, hps, hp⟩
    exact ⟨ps, mapM_eq_some_iff.mpr hps, hp.symm⟩

example : readField? readNumber? ['5', '-', '3'] = some (.span 5 3) := by decide

theorem exists_readField?_iff :
    (∃ p, readField? value? cs = some p) ↔
      ∀ term ∈ cs.splitOn ',', ∃ q, readTerm? value? term = some q := by
  constructor
  · rintro ⟨p, hp⟩ term hterm
    obtain ⟨ps, hps, -⟩ := readField?_eq_some_iff.mp hp
    obtain ⟨q, -, hq⟩ := exists_of_mem_right hps.flip hterm
    exact ⟨q, hq⟩
  · intro h
    obtain ⟨ps, hps⟩ := exists_forall₂ h
    exact ⟨_, readField?_eq_some_iff.mpr ⟨ps, hps, rfl⟩⟩

end

/-! ## Terms -/

namespace Pattern

/-- A list of terms holds what one of them holds, a single term included. -/
@[simp] theorem contains_ofTerms (ps : List Pattern) (v : Int) :
    (ofTerms ps).contains v = ps.any (·.contains v) := by
  match ps with
  | [] => rfl
  | [p] => simp [ofTerms]
  | p :: q :: ps => exact contains_union (p :: q :: ps) v

@[simp] theorem inRange_ofTerms (ps : List Pattern) (lo hi : Int) :
    (ofTerms ps).inRange lo hi = ps.all (·.inRange lo hi) := by
  match ps with
  | [] => rfl
  | [p] => simp [ofTerms]
  | p :: q :: ps => exact inRange_union (p :: q :: ps) lo hi

end Pattern

/-! ## Bounds -/

namespace Pattern

variable {p : Pattern} {lo hi : Int}

/-- A pattern is fit for bounds if its end points keep to them and, where it is a span, are in
    strict order. -/
theorem defect?_eq_none_iff :
    p.defect? lo hi = none ↔ p.inRange lo hi = true ∧ ∀ a b, p = .span a b → a < b := by
  unfold defect?
  by_cases hrange : p.inRange lo hi = true
  · rw [if_pos hrange, and_iff_right hrange]
    cases p <;> simp
  · rw [if_neg hrange]
    exact iff_of_false (by simp) fun h => hrange h.1

theorem defect?_eq_notInRange_iff :
    p.defect? lo hi = some .notInRange ↔ p.inRange lo hi = false := by
  unfold defect?
  by_cases hrange : p.inRange lo hi = true
  · rw [if_pos hrange, hrange]
    cases p <;> simp
  · rw [if_neg hrange]
    exact iff_of_true rfl (Bool.eq_false_iff.mpr hrange)

theorem defect?_eq_badSpan_iff :
    p.defect? lo hi = some .badSpan ↔
      p.inRange lo hi = true ∧ ∃ a b, p = .span a b ∧ b ≤ a := by
  unfold defect?
  by_cases hrange : p.inRange lo hi = true
  · rw [if_pos hrange, and_iff_right hrange]
    cases p <;> simp
  · rw [if_neg hrange]
    exact iff_of_false (by simp) fun h => hrange h.1

theorem inRange_of_defect (h : p.defect? lo hi = none) : p.inRange lo hi = true :=
  (defect?_eq_none_iff.mp h).1

end Pattern

/-! ## Expressions -/

/-- Six things, one for each field. -/
def Field.assign {α : Type} (second minute hour day month weekday : α) : Field → α
  | .second => second
  | .minute => minute
  | .hour => hour
  | .day => day
  | .month => month
  | .weekday => weekday

theorem Field.read_eq_ok_iff {f : Field} {cs : List Char} {p : Pattern} :
    f.read cs = .ok p ↔
      readField? f.readValue? cs = some p ∧ p.defect? f.low f.high = none := by
  unfold Field.read
  cases hr : readField? f.readValue? cs with
  | none => simp
  | some q =>
    cases hd : q.defect? f.low f.high with
    | none =>
      simp only [hd, Except.ok.injEq, Option.some.injEq]
      constructor
      · rintro rfl
        exact ⟨rfl, hd⟩
      · exact fun h => h.1
    | some d =>
      simp only [hd, reduceCtorEq, Option.some.injEq, false_iff]
      rintro ⟨rfl, hnone⟩
      rw [hd] at hnone
      exact absurd hnone (by simp)

namespace Schedule

theorem readFields_eq_ok_iff (text : Field → List Char) {s : Schedule} :
    readFields (text .second) (text .minute) (text .hour) (text .day) (text .month)
        (text .weekday) = .ok s ↔
      ∀ f : Field, f.read (text f) = .ok (s.pattern f) := by
  unfold readFields
  simp only [bind_eq_ok_iff]
  constructor
  · rintro ⟨second, hsecond, minute, hminute, hour, hhour, day, hday, month, hmonth, weekday,
      hweekday, hs⟩ f
    obtain rfl := Except.ok.inj hs
    cases f <;> assumption
  · intro h
    exact ⟨_, h .second, _, h .minute, _, h .hour, _, h .day, _, h .month, _, h .weekday, rfl⟩

/-- White space around an expression does not matter. -/
theorem read_eq_of_trim_eq {cs cs' : List Char} (h : trim cs = trim cs') : read cs = read cs' := by
  unfold read
  rw [h]

theorem trim_ne_nil_of_read {cs : List Char} {s : Schedule} (h : read cs = .ok s) :
    trim cs ≠ [] := by
  intro hnil
  unfold read at h
  rw [hnil] at h
  exact absurd h (by simp)

/-- An expression is read exactly when its six parts are, each as the text of its field. -/
theorem read_eq_ok_iff {cs : List Char} {s : Schedule} :
    read cs = .ok s ↔
      ∃ text : Field → List Char, (trim cs).splitOn ' ' = Field.all.map text ∧
        ∀ f : Field, f.read (text f) = .ok (s.pattern f) := by
  unfold read
  constructor
  · intro h
    split at h
    · rename_i second minute hour day month weekday hs
      exact ⟨Field.assign second minute hour day month weekday, hs,
        (readFields_eq_ok_iff (Field.assign second minute hour day month weekday)).mp h⟩
    · exact absurd h (by simp)
  · rintro ⟨text, hs, h⟩
    rw [hs]
    exact (readFields_eq_ok_iff text).mpr h

end Schedule

end Crond
