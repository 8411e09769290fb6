import Mathlib.Algebra.GroupWithZero.Nat
import Crond.Proofs.JobTable.Concatenation

/-
  Job tables that differ in their layout.

  An edit of the layout puts noise lines in anywhere and changes white space in the other lines:
  the indentation of an indented line, and what stands at the end of any line (`Respaced`). The
  text may end its lines either way before and after it (`LinesText`).

  A line keeps what it says (`Alike`), white space at the end of a header aside, and that counts
  for nothing when the header is read (`Header.read_append_blanks`). So the blocks of the edited
  lines are those of the old ones with the numbers their lines have moved to (`gathered_after`).

  Proved: `parse_layout`. An edited table has the same entries or the same defect, which is
  reported at the line to which its own has moved.
-/

namespace Crond.JobTable

open Text

/-! ## Edits -/

/-- White space that indents a line. -/
def IsIndent (cs : List Char) : Prop :=
  (∀ c ∈ cs, isBlank c = true) ∧ (['\t'] <+: cs ∨ [' ', ' '] <+: cs)

instance (cs : List Char) : Decidable (IsIndent cs) := inferInstanceAs (Decidable (_ ∧ _))

/-- A line in which white space has been changed: the indentation for another one, or the end. -/
inductive Respaced : List Char → List Char → Prop
  | refl (l : List Char) : Respaced l l
  | indent {front front' : List Char} (l : List Char) (h : IsIndent front)
      (h' : IsIndent front') : Respaced (front ++ l) (front' ++ l)
  | trail {back : List Char} (l : List Char) (h : ∀ c ∈ back, isBlank c = true) :
      Respaced l (l ++ back)
  | trans {l l' l'' : List Char} (h : Respaced l l') (h' : Respaced l' l'') : Respaced l l''

/-- A line before and after an edit, and the noise that is put in above it. -/
structure EditedLine where
  above : List (List Char)
  old : List Char
  new : List Char
  noise : ∀ l ∈ above, IsNoise l
  respaced : Respaced old new

/-- The lines after the edit. -/
def EditedLine.lines (e : EditedLine) : List (List Char) := e.above ++ [e.new]

/-- An edit of a table: its lines, and the noise that is put in below the last one. -/
structure Edit where
  edited : List EditedLine
  below : List (List Char)
  noise : ∀ l ∈ below, IsNoise l

/-- The number of lines that are put in above the first `n` lines. -/
def inserted (es : List EditedLine) (n : Nat) : Nat := ((es.take n).map (·.above.length)).sum

namespace Edit

def before (e : Edit) : List (List Char) := e.edited.map (·.old)

def after (e : Edit) : List (List Char) := e.edited.flatMap EditedLine.lines ++ e.below

/-- Where the line with a number stands after the edit, the first line having the number 1. -/
def movedTo (e : Edit) (n : Nat) : Nat := n + inserted e.edited n

end Edit

/-! ## Lines -/

/-- What a line says, without white space at the end of a header. -/
def Line.tidy : Line → Line
  | noise => noise
  | command text => command text
  | header text => header (trimEnd text)

/-- Two lines say the same. -/
def Alike (l l' : List Char) : Prop := (Line.ofText l).tidy = (Line.ofText l').tidy

section

variable {back : List Char} (h : ∀ c ∈ back, isBlank c = true) (l : List Char)

include h

theorem isNoise_append_iff : IsNoise (l ++ back) ↔ IsNoise l := by
  have hblank : allBlank (l ++ back) = allBlank l := by
    have hback : back.all isBlank = true := List.all_eq_true.mpr h
    unfold allBlank
    rw [List.all_append, hback, Bool.and_true]
  rw [isNoise_iff, isNoise_iff, hblank, List.head?_append]
  cases hl : l.head? with
  | some c => rfl
  | none =>
    -- An empty line is noise as it is.
    rw [List.head?_eq_none_iff.mp hl]
    exact iff_of_true (Or.inl rfl) (Or.inl rfl)

theorem isBody_append_iff : IsBody (l ++ back) ↔ IsBody l := by
  unfold IsBody
  rw [isNoise_append_iff h]
  refine and_congr_right fun hl => ?_
  -- A line that is no noise has a character that is not blank, so it is longer than an indent.
  match l with
  | [] => exact absurd (Or.inl (List.forall_mem_nil _)) hl
  | [c] =>
    have hc : c ≠ ' ' := by
      rintro rfl
      exact hl (Or.inl (List.forall_mem_singleton.mpr (by decide)))
    simp [List.cons_prefix_cons, hc.symm]
  | c :: d :: l => simp [List.cons_prefix_cons]

theorem alike_append_blanks : Alike l (l ++ back) := by
  unfold Alike
  rw [ofText_eq, ofText_eq]
  simp only [isNoise_append_iff h, isBody_append_iff h, trim_append_blanks h]
  by_cases hnoise : IsNoise l
  · rw [if_pos hnoise, if_pos hnoise]
  · rw [if_neg hnoise, if_neg hnoise]
    by_cases hbody : IsBody l
    · rw [if_pos hbody, if_pos hbody]
    · rw [if_neg hbody, if_neg hbody]
      exact congrArg Line.header (trimEnd_append_blanks h l).symm

end

/-- An indented line says what stands behind the indentation, if anything. -/
theorem IsIndent.ofText_append {front : List Char} (h : IsIndent front) (l : List Char) :
    Line.ofText (front ++ l) = if allBlank l = true then .noise else .command (trim l) := by
  have hblank : allBlank (front ++ l) = allBlank l := by
    have hfront : front.all isBlank = true := List.all_eq_true.mpr h.1
    unfold allBlank
    rw [List.all_append, hfront, Bool.true_and]
  have hindented : isIndented (front ++ l) = true := by
    rw [isIndented_iff]
    exact h.2.imp (fun h => h.trans (List.prefix_append _ _)) fun h =>
      h.trans (List.prefix_append _ _)
  unfold Line.ofText
  rw [hblank, hindented, trim_blanks_append h.1]
  rfl

/-- White space that is changed does not change what a line says. -/
theorem Respaced.alike {l l' : List Char} (h : Respaced l l') : Alike l l' := by
  induction h with
  | refl l => rfl
  | indent l h h' =>
    unfold Alike
    rw [h.ofText_append, h'.ofText_append]
  | trail l h => exact alike_append_blanks h l
  | trans h h' ih ih' => exact Eq.trans ih ih'

/-! ## Blocks -/

/-- Behind its colon a header may have more white space. -/
theorem Header.read_append_blanks {back : List Char} (h : ∀ c ∈ back, isBlank c = true)
    (number : Nat) (l : List Char) : Header.read number (l ++ back) = Header.read number l := by
  by_cases hcolon : ':' ∈ l
  · obtain ⟨left, right, rfl, hleft⟩ := List.eq_append_cons_of_mem hcolon
    have hback : trim (right ++ back) = trim right := trim_append_blanks h right
    rw [List.append_assoc, List.cons_append, Header.read_append hleft (congrArg splitTag hback),
      Header.read_append hleft rfl]
  · have hback : ':' ∉ l ++ back := by
      rw [List.mem_append, not_or]
      exact ⟨hcolon, fun hc => absurd (h _ hc) (by decide)⟩
    rw [read_of_not_mem hcolon, read_of_not_mem hback]

theorem Header.read_trimEnd (number : Nat) (l : List Char) :
    Header.read number (trimEnd l) = Header.read number l := by
  obtain ⟨back, hback, hl⟩ := exists_trimEnd l
  conv_rhs => rw [hl]
  exact (Header.read_append_blanks hback number (trimEnd l)).symm

def Block.tidy (b : Block) : Block := { b with header := trimEnd b.header }

/-- Blocks without white space at the ends of their headers. -/
def Blocks.tidy (b : Blocks) : Blocks := ⟨b.stray, b.blocks.map Block.tidy⟩

theorem Block.entry_tidy (b : Block) : b.tidy.entry = b.entry := by
  unfold entry
  rw [show b.tidy.header = trimEnd b.header from rfl, Header.read_trimEnd]
  rfl

theorem Blocks.entries_tidy (b : Blocks) : b.tidy.entries = b.entries := by
  obtain ⟨stray, blocks⟩ := b
  cases stray with
  | cons first rest => rfl
  | nil =>
    change (blocks.map Block.tidy).mapM Block.entry = blocks.mapM Block.entry
    rw [List.mapM_map]
    exact congrArg (blocks.mapM ·) (funext Block.entry_tidy)

theorem Blocks.tidy_above (b : Blocks) (n : Nat) (l : Line) :
    (b.above (n, l)).tidy = b.tidy.above (n, l.tidy) := by cases l <;> rfl

theorem Blocks.renumber_above (f : Nat → Nat) (b : Blocks) (n : Nat) (l : Line) :
    (b.above (n, l)).renumber f = (b.renumber f).above (f n, l) := by
  cases l with
  | noise => rfl
  | command text => rfl
  | header text =>
    unfold Blocks.above Blocks.renumber
    simp only [List.map_nil, List.map_cons, List.map_map]
    rfl

/-- Lines that say the same are gathered into the same blocks. -/
theorem gathered_tidy_congr {ls ls' : List (List Char)} (h : List.Forall₂ Alike ls ls')
    (first : Nat) : (gathered first ls).tidy = (gathered first ls').tidy := by
  induction h generalizing first with
  | nil => rfl
  | cons hl _ ih =>
    rw [gathered_cons, gathered_cons, Blocks.tidy_above, Blocks.tidy_above, ih, hl]

theorem gathered_noise_append {noise : List (List Char)} (h : ∀ l ∈ noise, IsNoise l)
    (first : Nat) (ls : List (List Char)) :
    gathered first (noise ++ ls) = gathered (first + noise.length) ls := by
  induction noise generalizing first with
  | nil => rfl
  | cons l noise ih =>
    rw [List.forall_mem_cons] at h
    rw [List.cons_append, gathered_cons_noise _ _ h.1, ih h.2, List.length_cons,
      Nat.add_right_comm, Nat.add_assoc]

theorem gathered_noise {noise : List (List Char)} (h : ∀ l ∈ noise, IsNoise l) (first : Nat) :
    gathered first noise = {} := by
  have hnil := gathered_noise_append h first []
  rwa [List.append_nil] at hnil

/-- The edited lines are gathered into the blocks of the old ones. The numbering `f` takes the
    lines from `first` on to where the edited ones stand, the first of which has the number
    `first'`. -/
theorem gathered_after {es : List EditedLine} {below : List (List Char)}
    (hbelow : ∀ l ∈ below, IsNoise l) {f : Nat → Nat} {first first' : Nat}
    (hf : ∀ i < es.length, f (first + i) = first' + i + inserted es (i + 1)) :
    (gathered first' (es.flatMap EditedLine.lines ++ below)).tidy =
      ((gathered first (es.map (·.old))).renumber f).tidy := by
  induction es generalizing first first' with
  | nil =>
    rw [List.flatMap_nil, List.nil_append, gathered_noise hbelow]
    rfl
  | cons e es ih =>
    have hnumber : f first = first' + e.above.length := by
      have h := hf 0 (by simp)
      simpa [inserted] using h
    have hrest : ∀ i < es.length,
        f (first + 1 + i) = first' + e.above.length + 1 + i + inserted es (i + 1) := by
      intro i hi
      have h := hf (i + 1) (by simpa using hi)
      simp only [inserted, List.take_succ_cons, List.map_cons, List.sum_cons] at h ⊢
      rw [show first + 1 + i = first + (i + 1) by omega, h]
      omega
    have hlines : (e :: es).flatMap EditedLine.lines ++ below =
        e.above ++ e.new :: (es.flatMap EditedLine.lines ++ below) := by
      simp only [List.flatMap_cons, EditedLine.lines, List.append_assoc, List.cons_append,
        List.nil_append]
    have hline : (Line.ofText e.old).tidy = (Line.ofText e.new).tidy := e.respaced.alike
    rw [hlines, gathered_noise_append e.noise, gathered_cons, Blocks.tidy_above, ih hrest,
      List.map_cons, gathered_cons, Blocks.renumber_above, Blocks.tidy_above, hnumber, hline]

/-! ## Tables -/

/-- A table is read by the lines in which it is written, whatever the endings are. -/
theorem read_of_linesText {cs : List Char} {ls : List (List Char)} (h : LinesText cs ls) :
    read cs = (gathered 1 ls).entries := by
  have halike : List.Forall₂ Alike ls (lines cs) := by
    refine h.forall₂_lines.imp fun l l' hl => ?_
    rcases hl with rfl | rfl
    · rfl
    · obtain ⟨back, hback, hl⟩ := exists_withoutReturn l
      have hends := alike_append_blanks hback (withoutReturn l)
      rw [← hl] at hends
      exact hends.symm
  have hread : read cs = (gathered 1 (lines cs)).entries := rfl
  rw [hread, ← Blocks.entries_tidy, ← gathered_tidy_congr halike, Blocks.entries_tidy]

/-- Every table is written in its lines. If they are edited in their layout only, with endings of
    either kind before and after, then the entries are the same, or the defect is, which is
    reported at its line after the edit. -/
theorem parse_layout :
    (∀ a : String, LinesText a.toList (lines a.toList)) ∧
    ∀ (e : Edit) (a b : String), LinesText a.toList e.before → LinesText b.toList e.after →
      parse b = (parse a).mapError (Defect.renumber e.movedTo) := by
  refine ⟨fun a => linesText_lines a.toList, fun e a b ha hb => ?_⟩
  have hmoved : ∀ i < e.edited.length,
      e.movedTo (1 + i) = 1 + i + inserted e.edited (i + 1) := by
    intro i _
    unfold Edit.movedTo
    rw [Nat.add_comm i 1]
  unfold parse
  rw [read_of_linesText ha, read_of_linesText hb, ← Blocks.entries_renumber,
    ← Blocks.entries_tidy, Edit.after, gathered_after e.noise hmoved, Blocks.entries_tidy]
  rfl

/-- The missing body of the second job is told at the line to which its header has moved, behind
    noise above and inside the first job. Its command is indented by spaces and by a wider blank,
    and the first and the last line have other endings than before. -/
theorem parse_layout_missingBody :
    let a := "x: * * * * * *\n\techo hi\ny: 5 * * * * *\n"
    let b := "# jobs\nx: * * * * * *\t\r\n \n#c\n  \u2003echo hi \ny: 5 * * * * *"
    ∃ e : Edit, LinesText a.toList e.before ∧ LinesText b.toList e.after ∧
      parse a = .error (.noCommands 3 "y") ∧ parse b = .error (.noCommands 6 "y") := by
  intro a b
  let e : Edit := {
    edited := [
      { above := ["# jobs".toList], old := "x: * * * * * *".toList,
        new := "x: * * * * * *".toList ++ ['\t'],
        noise := by decide +kernel
        respaced := .trail _ (by decide) },
      { above := [[' '], ['#', 'c']], old := ['\t'] ++ "echo hi".toList,
        new := [' ', ' ', '\u2003'] ++ "echo hi".toList ++ [' '],
        noise := by decide
        respaced := .trans (.indent _ (by decide) (by decide)) (.trail _ (by decide)) },
      { above := [], old := "y: 5 * * * * *".toList, new := "y: 5 * * * * *".toList,
        noise := List.forall_mem_nil _
        respaced := .refl _ }]
    below := []
    noise := List.forall_mem_nil _ }
  have hlines : lines a.toList = e.before := by decide +kernel
  have hlines' : lines b.toList = e.after := by decide +kernel
  have hbefore : LinesText a.toList e.before := hlines ▸ parse_layout.1 a
  have hafter : LinesText b.toList e.after := hlines' ▸ parse_layout.1 b
  have ha : parse a = .error (.noCommands 3 "y") := by decide +kernel
  refine ⟨e, hbefore, hafter, ha, ?_⟩
  rw [parse_layout.2 e a b hbefore hafter, ha]
  rfl

end Crond.JobTable
