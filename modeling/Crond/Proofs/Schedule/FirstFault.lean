import Crond.Proofs.Schedule.Reading
import Crond.Proofs.Text.Trimming

/-
  The fault of an expression is that of its first bad field.

  A part of an expression is judged alone in the expression that has a `*` in all other fields
  (`Field.alone`). The first part of a trimmed text begins with a character that is not blank and
  the last part ends with one, so that such an expression is trimmed, too, and splits into its
  parts again (`splitOn_alone`), whatever white space the part holds.

  Proved: `parse_eq_error_iff_alone`. Six parts are read as their expressions alone are, and the
  first of these that is refused decides the fault. Any other number of parts is the fault itself,
  and white space around an expression never matters.
-/

namespace Crond

open Text

/-! ## Reading fields in turn -/

namespace Field

/-- A star is read in every field. -/
theorem read_star (f : Field) : f.read ['*'] = .ok .any := by cases f <;> rfl

/-- What is wrong with the text of a field is told of that field. -/
theorem field?_of_read {f : Field} {cs : List Char} {fault : Fault}
    (h : f.read cs = .error fault) : fault.field? = some f := by
  unfold Field.read at h
  split at h
  · exact congrArg Fault.field? (Except.error.inj h).symm
  · split at h
    · rename_i d _
      rw [← Except.error.inj h]
      cases d <;> rfl
    · exact absurd h (by simp)

end Field

namespace Schedule

/-- Reading the six texts fails as reading them in a list does. -/
theorem readFields_eq_error_iff (text : Field → List Char) {fault : Fault} :
    readFields (text .second) (text .minute) (text .hour) (text .day) (text .month)
        (text .weekday) = .error fault ↔
      Field.all.mapM (fun f => f.read (text f)) = .error fault := by
  unfold readFields Field.all
  simp only [List.mapM_cons, List.mapM_nil, bind_eq_error_iff]
  simp [pure, Except.pure]

section

variable {cs : List Char} {text : Field → List Char}
  (h : (trim cs).splitOn ' ' = Field.all.map text)

include h

theorem read_eq_readFields :
    read cs = readFields (text .second) (text .minute) (text .hour) (text .day) (text .month)
      (text .weekday) := by
  unfold read
  rw [h]
  rfl

theorem read_eq_ok_iff_fields {s : Schedule} :
    read cs = .ok s ↔ ∀ f : Field, f.read (text f) = .ok (s.pattern f) := by
  rw [read_eq_readFields h, readFields_eq_ok_iff]

/-- Six parts are refused with the first of them that is. -/
theorem read_eq_error_iff_fields {fault : Fault} :
    read cs = .error fault ↔
      ∃ before f after, Field.all = before ++ f :: after ∧
        (∀ g ∈ before, ∃ p, g.read (text g) = .ok p) ∧ f.read (text f) = .error fault := by
  rw [read_eq_readFields h, readFields_eq_error_iff, mapM_eq_error_iff]

end

end Schedule

/-! ## One field alone -/

/-- The expression with a text in one field and a `*` in all others. -/
def Field.alone (f : Field) (cs : List Char) : String :=
  String.ofList ([' '].intercalate (Field.all.map fun g => if g = f then cs else ['*']))

/-- Six parts make up a trimmed text if the first begins and the last ends with no blank. -/
theorem isTrimmed_fields_iff (text : Field → List Char) :
    IsTrimmed ([' '].intercalate (Field.all.map text)) ↔
      (∃ c, (text .second).head? = some c ∧ isBlank c = false) ∧
        ∃ c, (text .weekday).getLast? = some c ∧ isBlank c = false :=
  @isTrimmed_intercalate_iff ' ' (by decide) (text .second) (text .weekday)
    [text .minute, text .hour, text .day, text .month]

section

variable {cs : List Char} {text : Field → List Char}
  (h : (trim cs).splitOn ' ' = Field.all.map text)

include h

/-- The expression of one part alone splits into that part and stars. -/
theorem Field.splitOn_alone (f : Field) :
    (trim (f.alone (text f)).toList).splitOn ' ' =
      Field.all.map fun g => if g = f then text f else ['*'] := by
  obtain ⟨-, hspace, hjoin⟩ := splitOn_eq_iff.mp h
  have hstar : isBlank '*' = false := by decide
  have htrimmed : IsTrimmed ([' '].intercalate (Field.all.map text)) := hjoin ▸ isTrimmed_trim cs
  obtain ⟨⟨first, hfirst, hsolid⟩, last, hlast, hsolid'⟩ :=
    (isTrimmed_fields_iff text).mp htrimmed
  have halone : IsTrimmed
      ([' '].intercalate (Field.all.map fun g => if g = f then text f else ['*'])) := by
    refine (isTrimmed_fields_iff _).mpr ⟨?_, ?_⟩
    · split
      · rename_i hf
        exact ⟨first, hf ▸ hfirst, hsolid⟩
      · exact ⟨'*', rfl, hstar⟩
    · split
      · rename_i hf
        exact ⟨last, hf ▸ hlast, hsolid'⟩
      · exact ⟨'*', rfl, hstar⟩
  unfold Field.alone
  rw [String.toList_ofList, halone.trim_eq]
  refine List.splitOn_intercalate ' ' (fun part hpart => ?_) (by simp [Field.all])
  obtain ⟨g, -, rfl⟩ := List.mem_map.mp hpart
  split
  · exact hspace _ (List.mem_map_of_mem f.mem_all)
  · decide

namespace Schedule

theorem parse_alone_eq_error_iff {f : Field} {fault : Fault} :
    parse (f.alone (text f)) = .error fault ↔ f.read (text f) = .error fault := by
  unfold parse
  rw [read_eq_error_iff_fields (f.splitOn_alone h)]
  constructor
  · rintro ⟨before, g, after, -, -, hg⟩
    by_cases hgf : g = f
    · rw [if_pos hgf] at hg
      exact hgf ▸ hg
    · rw [if_neg hgf, g.read_star] at hg
      exact absurd hg (by simp)
  · intro hf
    obtain ⟨before, after, hall, hbefore⟩ := List.eq_append_cons_of_mem f.mem_all
    refine ⟨before, f, after, hall, fun g hg => ⟨.any, ?_⟩, ?_⟩
    · have hgf : g ≠ f := fun hgf => hbefore (hgf ▸ hg)
      rw [if_neg hgf]
      exact g.read_star
    · rw [if_pos rfl]
      exact hf

theorem read_of_parse_alone {f : Field} {s : Schedule} (hs : parse (f.alone (text f)) = .ok s) :
    f.read (text f) = .ok (s.pattern f) := by
  have hf := (read_eq_ok_iff_fields (f.splitOn_alone h)).mp hs f
  rwa [if_pos rfl] at hf

theorem exists_parse_alone_iff {f : Field} :
    (∃ s, parse (f.alone (text f)) = .ok s) ↔ ∃ p, f.read (text f) = .ok p := by
  constructor
  · rintro ⟨s, hs⟩
    exact ⟨_, read_of_parse_alone h hs⟩
  · rintro ⟨p, hp⟩
    cases hs : parse (f.alone (text f)) with
    | ok s => exact ⟨s, rfl⟩
    | error fault =>
      rw [(parse_alone_eq_error_iff h).mp hs] at hp
      exact absurd hp (by simp)

end Schedule

end

namespace Schedule

/-- An expression of six parts is read exactly when each part is read alone, and then each pattern
    is that of its part alone; otherwise its fault is that of the first part that is refused
    alone, and it is told of that field. If the parts are not six, their number is the fault. White
    space around an expression does not matter. -/
theorem parse_eq_error_iff_alone (expression : String) :
    (∀ text : Field → List Char, (trim expression.toList).splitOn ' ' = Field.all.map text →
      ((∃ s, parse expression = .ok s) ↔
        ∀ f : Field, ∃ s, parse (f.alone (text f)) = .ok s) ∧
      (∀ s, parse expression = .ok s → ∀ (f : Field) (s' : Schedule),
        parse (f.alone (text f)) = .ok s' → s.pattern f = s'.pattern f) ∧
      ∀ fault, parse expression = .error fault ↔
        ∃ before f after, Field.all = before ++ f :: after ∧
          (∀ g ∈ before, ∃ s, parse (g.alone (text g)) = .ok s) ∧
          parse (f.alone (text f)) = .error fault ∧ fault.field? = some f) ∧
    (((trim expression.toList).splitOn ' ').length ≠ 6 →
      parse expression = .error (.fieldCount ((trim expression.toList).count ' ' + 1))) ∧
    ∀ front back : List Char, (∀ c ∈ front, isBlank c = true) → (∀ c ∈ back, isBlank c = true) →
      parse (String.ofList (front ++ expression.toList ++ back)) = parse expression := by
  refine ⟨fun text h => ?_, fun hlength => ?_, fun front back hfront hback => ?_⟩
  · refine ⟨⟨?_, fun halone => ?_⟩, fun s hs f s' hs' => ?_, fun fault => ?_⟩
    · rintro ⟨s, hs⟩ f
      exact (exists_parse_alone_iff h).mpr ⟨_, (read_eq_ok_iff_fields h).mp hs f⟩
    · cases hs : parse expression with
      | ok s => exact ⟨s, rfl⟩
      | error fault =>
        obtain ⟨_, f, _, _, _, hf⟩ := (read_eq_error_iff_fields h).mp hs
        obtain ⟨p, hp⟩ := (exists_parse_alone_iff h).mp (halone f)
        rw [hp] at hf
        exact absurd hf (by simp)
    · have hf := (read_eq_ok_iff_fields h).mp hs f
      rw [read_of_parse_alone h hs'] at hf
      exact (Except.ok.inj hf).symm
    · refine (read_eq_error_iff_fields h).trans ?_
      simp only [exists_parse_alone_iff h, parse_alone_eq_error_iff h]
      refine exists_congr fun before => exists_congr fun f => exists_congr fun after =>
        and_congr_right fun _ => and_congr_right fun _ => ?_
      exact (and_iff_left_of_imp Field.field?_of_read).symm
  · unfold parse read
    split
    · rename_i hsplit
      exact absurd (congrArg List.length hsplit) hlength
    · rw [length_splitOn]
  · unfold parse
    rw [String.toList_ofList]
    exact read_eq_of_trim_eq (trim_padded hfront hback _)

/-- A span against its order, before a part of a tab, an empty part and two parts more that are
    refused: the first of them decides. Without the empty part there are five. -/
theorem parse_eq_error_iff_alone_blankParts :
    let text : Field → List Char :=
      Field.assign ['*'] ['5', '-', '1'] ['\t'] [] ['x'] ['8']
    (trim " * 5-1 \t  x 8\n".toList).splitOn ' ' = Field.all.map text ∧
      parse (Field.minute.alone (text .minute)) = .error (.badSpan .minute) ∧
      parse " * 5-1 \t  x 8\n" = .error (.badSpan .minute) ∧
      parse "* 5-1 \t x 8" = .error (.fieldCount 5) := by
  intro text
  have h : (trim " * 5-1 \t  x 8\n".toList).splitOn ' ' = Field.all.map text := by rfl
  have hsecond : ∃ s, parse (Field.second.alone (text .second)) = .ok s := by
    unfold parse Field.alone
    rw [String.toList_ofList]
    exact ⟨⟨.any, .any, .any, .any, .any, .any⟩, by rfl⟩
  have hminute : parse (Field.minute.alone (text .minute)) = .error (.badSpan .minute) := by
    unfold parse Field.alone
    rw [String.toList_ofList]
    rfl
  refine ⟨h, hminute, ?_, (parse_eq_error_iff_alone _).2.1 (by decide)⟩
  exact (((parse_eq_error_iff_alone _).1 text h).2.2 _).mpr
    ⟨[.second], .minute, [.hour, .day, .month, .weekday], rfl,
      List.forall_mem_singleton.mpr hsecond, hminute, rfl⟩

end Schedule

end Crond
