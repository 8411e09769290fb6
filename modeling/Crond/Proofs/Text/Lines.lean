import Crond.Text.Lines
import Crond.Proofs.Text.Trimming

/-
  The lines of a text that is given line by line.

  A line that ends at a line feed is the first line of its text, without the carriage return at
  its end if there is one (`lines_line`); trimming does not see the difference
  (`trim_withoutReturn`). No line holds a line feed (`newline_not_mem_of_mem_lines`), and a text
  that goes on after a line feed has the lines of both parts (`lines_append`).

  A text is written in some lines if each has an ending behind it, of either kind (`LinesText`).
  Every text is written in its lines (`linesText_lines`), and these are the only ones but for
  carriage returns at their ends (`LinesText.forall₂_lines`).
-/

namespace Crond.Text

/-- A line without the carriage return at its end. -/
def withoutReturn (l : List Char) : List Char :=
  if l.getLast? = some '\r' then l.dropLast else l

theorem withoutReturn_concat (l : List Char) : withoutReturn (l ++ ['\r']) = l := by
  unfold withoutReturn
  rw [if_pos List.getLast?_concat, List.dropLast_concat]

theorem withoutReturn_of_ne {l : List Char} (h : l.getLast? ≠ some '\r') : withoutReturn l = l :=
  if_neg h

/-- Only the end of a line counts. -/
theorem withoutReturn_append (front : List Char) {l : List Char} (h : l ≠ []) :
    withoutReturn (front ++ l) = front ++ withoutReturn l := by
  unfold withoutReturn
  rw [List.getLast?_append_of_ne_nil _ h]
  split
  · exact List.dropLast_append_of_ne_nil h
  · rfl

theorem exists_withoutReturn (l : List Char) :
    ∃ back, (∀ c ∈ back, isBlank c = true) ∧ l = withoutReturn l ++ back := by
  rcases List.eq_nil_or_concat l with rfl | ⟨front, d, rfl⟩
  · exact ⟨[], List.forall_mem_nil _, rfl⟩
  · rw [List.concat_eq_append]
    by_cases hd : d = '\r'
    · subst hd
      refine ⟨['\r'], List.forall_mem_singleton.mpr (by decide), ?_⟩
      rw [withoutReturn_concat]
    · refine ⟨[], List.forall_mem_nil _, ?_⟩
      rw [List.append_nil, withoutReturn_of_ne]
      rw [List.getLast?_concat]
      exact fun h => hd (Option.some.inj h)

theorem trim_withoutReturn (l : List Char) : trim (withoutReturn l) = trim l := by
  obtain ⟨back, hback, hl⟩ := exists_withoutReturn l
  conv_rhs => rw [hl]
  exact (trim_append_blanks hback (withoutReturn l)).symm

/-! ## Endings -/

theorem withoutEnding_cons {c : Char} {cs : List Char} (h : c :: cs ≠ ['\n'])
    (h' : c :: cs ≠ ['\r', '\n']) : withoutEnding (c :: cs) = c :: withoutEnding cs := by
  rw [withoutEnding]
  · rintro rfl rfl
    exact h rfl
  · rintro rfl rfl
    exact h' rfl

theorem withoutEnding_of_not_mem {l : List Char} (h : '\n' ∉ l) : withoutEnding l = l := by
  induction l with
  | nil => rfl
  | cons c l ih =>
    rw [withoutEnding_cons, ih fun hl => h (List.mem_cons_of_mem _ hl)]
    · rintro heq
      exact h (by rw [heq]; exact List.mem_cons_self)
    · rintro heq
      exact h (by rw [heq]; decide)

theorem withoutEnding_line {l : List Char} (h : '\n' ∉ l) :
    withoutEnding (l ++ ['\n']) = withoutReturn l := by
  induction l with
  | nil => rfl
  | cons c l ih =>
    have hc : c ≠ '\n' := fun hc => h (by rw [hc]; exact List.mem_cons_self)
    have hl : '\n' ∉ l := fun hl => h (List.mem_cons_of_mem _ hl)
    rw [List.cons_append]
    cases l with
    | nil =>
      by_cases hr : c = '\r'
      · subst hr
        rfl
      · have hplain : withoutReturn [c] = [c] :=
          withoutReturn_of_ne fun hl => hr (Option.some.inj hl)
        rw [List.nil_append, withoutEnding_cons (by simp) (by simp [hr]), hplain]
        rfl
    | cons d l =>
      rw [withoutEnding_cons (by simp) (by simp), ih hl]
      exact (withoutReturn_append [c] (List.cons_ne_nil d l)).symm

/-! ## Lines -/

theorem pieces_line {l : List Char} (h : '\n' ∉ l) (rest : List Char) :
    pieces (l ++ '\n' :: rest) = (l ++ ['\n']) :: pieces rest := by
  induction l with
  | nil => exact pieces_newline rest
  | cons c l ih =>
    have hc : c ≠ '\n' := fun hc => h (by rw [hc]; exact List.mem_cons_self)
    rw [List.cons_append, pieces_cons hc, ih fun hl => h (List.mem_cons_of_mem _ hl)]
    rfl

theorem lines_line {l : List Char} (h : '\n' ∉ l) (rest : List Char) :
    lines (l ++ '\n' :: rest) = withoutReturn l :: lines rest := by
  unfold lines
  rw [pieces_line h, List.map_cons, withoutEnding_line h]

theorem extend_append (c : Char) {ps : List (List Char)} (h : ps ≠ []) (qs : List (List Char)) :
    extend c (ps ++ qs) = extend c ps ++ qs := by
  obtain ⟨p, ps, rfl⟩ := List.exists_cons_of_ne_nil h
  rfl

/-- A text is cut after a line feed wherever that stands. -/
theorem pieces_append (front rest : List Char) :
    pieces (front ++ '\n' :: rest) = pieces (front ++ ['\n']) ++ pieces rest := by
  induction front with
  | nil => rfl
  | cons c front ih =>
    rw [List.cons_append, List.cons_append]
    by_cases hc : c = '\n'
    · rw [hc, pieces_newline, pieces_newline, ih, List.cons_append]
    · have hne : pieces (front ++ ['\n']) ≠ [] := by
        intro h
        have hflat := flatten_pieces (front ++ ['\n'])
        rw [h] at hflat
        exact absurd hflat.symm (by simp)
      rw [pieces_cons hc, pieces_cons hc, ih, extend_append c hne]

/-- A text that is empty or ends with a line feed keeps its lines when it goes on. -/
theorem lines_append {cs : List Char} (h : cs = [] ∨ cs.getLast? = some '\n')
    (rest : List Char) : lines (cs ++ rest) = lines cs ++ lines rest := by
  rcases h with rfl | h
  · rfl
  · obtain ⟨front, rfl⟩ := List.getLast?_eq_some_iff.mp h
    unfold lines
    rw [List.append_assoc, List.singleton_append, pieces_append, List.map_append]

/-- A text that is put together from lines with a line feed behind each. -/
theorem lines_flatMap {ls : List (List Char)} (h : ∀ l ∈ ls, '\n' ∉ l) (rest : List Char) :
    lines (ls.flatMap (· ++ ['\n']) ++ rest) = ls.map withoutReturn ++ lines rest := by
  induction ls with
  | nil => rfl
  | cons l ls ih =>
    rw [List.forall_mem_cons] at h
    have hcut : (l :: ls).flatMap (· ++ ['\n']) ++ rest =
        l ++ '\n' :: (ls.flatMap (· ++ ['\n']) ++ rest) := by
      simp only [List.flatMap_cons, List.append_assoc, List.cons_append, List.nil_append]
    rw [hcut, lines_line h.1, ih h.2]
    rfl

/-- A last line without a line feed. -/
theorem lines_last {l : List Char} (h : '\n' ∉ l) (hne : l ≠ []) : lines l = [l] := by
  have hpieces : pieces l = [l] := by
    induction l with
    | nil => exact absurd rfl hne
    | cons c l ih =>
      rw [List.mem_cons, not_or] at h
      rw [pieces_cons (Ne.symm h.1)]
      cases l with
      | nil => rfl
      | cons d l => rw [ih h.2 (List.cons_ne_nil d l)]; rfl
  unfold lines
  rw [hpieces, List.map_singleton, withoutEnding_of_not_mem h]

/-- The same with a last line that has no line feed behind it. -/
theorem lines_flatMap_last {ls : List (List Char)} (h : ∀ l ∈ ls, '\n' ∉ l) {l : List Char}
    (hl : '\n' ∉ l) (hne : l ≠ []) :
    lines (ls.flatMap (· ++ ['\n']) ++ l) = ls.map withoutReturn ++ [l] := by
  rw [lines_flatMap h, lines_last hl hne]

/-- A piece holds no line feed, or a single one at its end. -/
theorem exists_line_of_mem_pieces {p cs : List Char} (h : p ∈ pieces cs) :
    ∃ l, '\n' ∉ l ∧ (p = l ∨ p = l ++ ['\n']) := by
  induction cs generalizing p with
  | nil => exact absurd h List.not_mem_nil
  | cons c cs ih =>
    by_cases hc : c = '\n'
    · subst hc
      rw [pieces_newline] at h
      rcases List.mem_cons.mp h with rfl | h
      · exact ⟨[], List.not_mem_nil, Or.inr rfl⟩
      · exact ih h
    · rw [pieces_cons hc] at h
      cases hps : pieces cs with
      | nil =>
        rw [hps] at h
        rw [List.mem_singleton.mp h]
        exact ⟨[c], by simpa using Ne.symm hc, Or.inl rfl⟩
      | cons q qs =>
        rw [hps] at h
        rcases List.mem_cons.mp h with rfl | h
        · -- The first piece grows at its front, so its end stays as it is.
          obtain ⟨l, hl, hq⟩ := ih (by rw [hps]; exact List.mem_cons_self)
          refine ⟨c :: l, ?_, hq.imp (congrArg _) (congrArg _)⟩
          rw [List.mem_cons, not_or]
          exact ⟨Ne.symm hc, hl⟩
        · exact ih (by rw [hps]; exact List.mem_cons_of_mem _ h)

theorem mem_of_mem_withoutReturn {c : Char} {l : List Char} (h : c ∈ withoutReturn l) :
    c ∈ l := by
  unfold withoutReturn at h
  split at h
  · exact List.dropLast_subset l h
  · exact h

theorem newline_not_mem_of_mem_lines {l cs : List Char} (h : l ∈ lines cs) : '\n' ∉ l := by
  obtain ⟨p, hp, rfl⟩ := List.mem_map.mp h
  obtain ⟨l, hl, rfl | rfl⟩ := exists_line_of_mem_pieces hp
  · rw [withoutEnding_of_not_mem hl]
    exact hl
  · rw [withoutEnding_line hl]
    exact fun hn => hl (mem_of_mem_withoutReturn hn)

/-! ## Texts of lines -/

/-- A text that is written line by line. An ending stands behind each line, a line feed with or
    without a carriage return before it; the last line may go without one. -/
inductive LinesText : List Char → List (List Char) → Prop
  | nil : LinesText [] []
  | last {l : List Char} (h : '\n' ∉ l) (hne : l ≠ []) : LinesText l [l]
  | feed {l rest : List Char} {ls : List (List Char)} (h : '\n' ∉ l) (hrest : LinesText rest ls) :
      LinesText (l ++ '\n' :: rest) (l :: ls)
  | returnFeed {l rest : List Char} {ls : List (List Char)} (h : '\n' ∉ l)
      (hrest : LinesText rest ls) : LinesText (l ++ '\r' :: '\n' :: rest) (l :: ls)

/-- Every text is written in its lines. -/
theorem linesText_lines (cs : List Char) : LinesText cs (lines cs) := by
  induction h : cs.length using Nat.strong_induction_on generalizing cs with
  | _ n ih =>
    by_cases hfeed : '\n' ∈ cs
    · obtain ⟨l, rest, rfl, hl⟩ := List.eq_append_cons_of_mem hfeed
      have hrest : LinesText rest (lines rest) := by
        refine ih rest.length ?_ rest rfl
        rw [← h, List.length_append, List.length_cons]
        omega
      rw [lines_line hl]
      by_cases hreturn : l.getLast? = some '\r'
      · obtain ⟨front, rfl⟩ := List.getLast?_eq_some_iff.mp hreturn
        rw [withoutReturn_concat, List.append_assoc, List.singleton_append]
        exact .returnFeed (fun hf => hl (List.mem_append_left _ hf)) hrest
      · rw [withoutReturn_of_ne hreturn]
        exact .feed hl hrest
    · by_cases hne : cs = []
      · subst hne
        exact .nil
      · rw [lines_last hfeed hne]
        exact .last hfeed hne

/-- The lines in which a text is written are its lines, but for carriage returns at their ends. -/
theorem LinesText.forall₂_lines {cs : List Char} {ls : List (List Char)} (h : LinesText cs ls) :
    List.Forall₂ (fun l l' => l' = l ∨ l' = withoutReturn l) ls (lines cs) := by
  induction h with
  | nil => exact .nil
  | last h hne =>
    rw [lines_last h hne]
    exact .cons (Or.inl rfl) .nil
  | feed h hrest ih =>
    rw [lines_line h]
    exact .cons (Or.inr rfl) ih
  | @returnFeed l rest ls h hrest ih =>
    have hl : '\n' ∉ l ++ ['\r'] := by
      rw [List.mem_append, not_or]
      exact ⟨h, by decide⟩
    have hcut : l ++ '\r' :: '\n' :: rest = (l ++ ['\r']) ++ '\n' :: rest := by
      rw [List.append_assoc, List.singleton_append]
    rw [hcut, lines_line hl, withoutReturn_concat]
    exact .cons (Or.inl rfl) ih

end Crond.Text
