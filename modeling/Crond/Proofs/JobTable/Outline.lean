import Mathlib.Data.List.Forall2
import Crond.JobTable.Basic
import Crond.Proofs.Text.Trimming

/-
  The outline of a job table: its headers, each with the lines below it.

  A line is noise, a body line or a header (`IsNoise`, `IsBody`, `IsHeader`). An outline cuts the
  lines of a table before each header (`Outline`). It is told by the cut alone, not by how tables
  are read, and each table has one (`exists_outline`).

  Proved: `Outline.gathered_eq`. Gathering the lines of a table finds its outline: the blocks are
  the sections, with the numbers of their headers and the body lines as commands.
-/

namespace Crond.JobTable

open Text

/-! ## Lines -/

/-- White space only, or a comment. -/
def IsNoise (l : List Char) : Prop := (∀ c ∈ l, isBlank c = true) ∨ ['#'] <+: l

/-- A line that is no noise and begins with a tab or two spaces. -/
def IsBody (l : List Char) : Prop := ¬ IsNoise l ∧ (['\t'] <+: l ∨ [' ', ' '] <+: l)

/-- Any other line. -/
def IsHeader (l : List Char) : Prop := ¬ IsNoise l ∧ ¬ IsBody l

instance (l : List Char) : Decidable (IsNoise l) := inferInstanceAs (Decidable (_ ∨ _))

instance (l : List Char) : Decidable (IsBody l) := inferInstanceAs (Decidable (_ ∧ _))

instance (l : List Char) : Decidable (IsHeader l) := inferInstanceAs (Decidable (_ ∧ _))

theorem isIndented_iff (l : List Char) :
    isIndented l = true ↔ ['\t'] <+: l ∨ [' ', ' '] <+: l := by
  unfold isIndented
  split
  · simp
  · simp
  · rename_i htab hspaces
    constructor
    · exact fun h => absurd h (by decide)
    · rintro (⟨rest, rfl⟩ | ⟨rest, rfl⟩)
      · exact absurd rfl (htab rest)
      · exact absurd rfl (hspaces rest)

theorem isNoise_iff (l : List Char) :
    IsNoise l ↔ allBlank l = true ∨ l.head? = some '#' := by
  unfold IsNoise allBlank
  rw [List.all_eq_true]
  refine or_congr_right ?_
  cases l with
  | nil => simp
  | cons c l => simp [List.cons_prefix_cons, eq_comm]

/-- A line is read as what it is. -/
theorem ofText_eq (l : List Char) :
    Line.ofText l =
      if IsNoise l then .noise else if IsBody l then .command (trim l) else .header l := by
  have hnoise := isNoise_iff l
  have hindent := isIndented_iff l
  unfold Line.ofText
  by_cases hblank : allBlank l = true
  · rw [if_pos hblank, if_pos (hnoise.mpr (Or.inl hblank))]
  · rw [if_neg hblank]
    by_cases hin : isIndented l = true
    · -- An indented line is no comment, so that the order of the two tests does not matter.
      have hsign : l.head? ≠ some '#' := by
        rcases hindent.mp hin with ⟨rest, rfl⟩ | ⟨rest, rfl⟩ <;> simp
      have hnot : ¬ IsNoise l := fun h => (hnoise.mp h).elim hblank hsign
      rw [if_pos hin, if_neg hnot, if_pos ⟨hnot, hindent.mp hin⟩]
    · rw [if_neg hin]
      by_cases hsign : l.head? = some '#'
      · rw [if_pos hsign, if_pos (hnoise.mpr (Or.inr hsign))]
      · have hnot : ¬ IsNoise l := fun h => (hnoise.mp h).elim hblank hsign
        rw [if_neg hsign, if_neg hnot, if_neg fun h => hin (hindent.mpr h.2)]

example : Line.ofText [' ', ' ', '#', ' '] = .command ['#'] := by decide

example : Line.ofText [' ', 'a'] = .header [' ', 'a'] := by decide

/-! ## Outlines -/

/-- A header and the lines below it, up to the next header. -/
structure Section where
  header : List Char
  body : List (List Char)
  deriving DecidableEq, Repr

/-- The body lines among some lines, without the white space around them. -/
def commandsOf (ls : List (List Char)) : List (List Char) := (ls.filter fun l => IsBody l).map trim

theorem commandsOf_eq_nil_iff {ls : List (List Char)} :
    commandsOf ls = [] ↔ ∀ l ∈ ls, ¬ IsBody l := by
  unfold commandsOf
  rw [List.map_eq_nil_iff, List.filter_eq_nil_iff]
  simp only [decide_eq_true_eq]

namespace Section

def lines (s : Section) : List (List Char) := s.header :: s.body

def commands (s : Section) : List (List Char) := commandsOf s.body

end Section

/-- The lines of a table cut before each header: those above the first header, and the sections. -/
structure Outline (ls above : List (List Char)) (sections : List Section) : Prop where
  lines_eq : ls = above ++ sections.flatMap Section.lines
  above : ∀ l ∈ above, ¬ IsHeader l
  header : ∀ s ∈ sections, IsHeader s.header
  body : ∀ s ∈ sections, ∀ l ∈ s.body, ¬ IsHeader l

namespace Outline

variable {l : List Char} {ls above : List (List Char)} {sections : List Section}

theorem nil : Outline [] [] [] :=
  ⟨rfl, fun _ h => absurd h List.not_mem_nil, fun _ h => absurd h List.not_mem_nil,
    fun _ h => absurd h List.not_mem_nil⟩

theorem cons_other (hl : ¬ IsHeader l) (h : Outline ls above sections) :
    Outline (l :: ls) (l :: above) sections where
  lines_eq := congrArg (l :: ·) h.lines_eq
  above := List.forall_mem_cons.mpr ⟨hl, h.above⟩
  header := h.header
  body := h.body

theorem cons_header (hl : IsHeader l) (h : Outline ls above sections) :
    Outline (l :: ls) [] (⟨l, above⟩ :: sections) where
  lines_eq := congrArg (l :: ·) h.lines_eq
  above := fun _ h => absurd h List.not_mem_nil
  header := List.forall_mem_cons.mpr ⟨hl, h.header⟩
  body := List.forall_mem_cons.mpr ⟨h.above, h.body⟩

/-- A line on top stands above all headers, or it is the header of the first section. -/
theorem of_cons (h : Outline (l :: ls) above sections) :
    (∃ above', above = l :: above' ∧ ¬ IsHeader l ∧ Outline ls above' sections) ∨
    ∃ body sections', above = [] ∧ sections = ⟨l, body⟩ :: sections' ∧ IsHeader l ∧
      Outline ls body sections' := by
  obtain ⟨hlines, habove, hheader, hbody⟩ := h
  cases above with
  | cons l' above' =>
    obtain ⟨rfl, hls⟩ := List.cons.inj hlines
    rw [List.forall_mem_cons] at habove
    exact Or.inl ⟨above', rfl, habove.1, hls, habove.2, hheader, hbody⟩
  | nil =>
    cases sections with
    | nil => exact absurd hlines (List.cons_ne_nil _ _)
    | cons s sections' =>
      obtain ⟨header, body⟩ := s
      obtain ⟨rfl, hls⟩ := List.cons.inj hlines
      rw [List.forall_mem_cons] at hheader hbody
      exact Or.inr ⟨body, sections', rfl, rfl, hheader.1, hls, hbody.1, hheader.2, hbody.2⟩

theorem of_nil (h : Outline [] above sections) : above = [] ∧ sections = [] := by
  obtain ⟨habove, hsections⟩ := List.append_eq_nil_iff.mp h.lines_eq.symm
  refine ⟨habove, ?_⟩
  cases sections with
  | nil => rfl
  | cons s sections => exact absurd hsections (by simp [Section.lines])

end Outline

theorem exists_outline (ls : List (List Char)) : ∃ above sections, Outline ls above sections := by
  induction ls with
  | nil => exact ⟨[], [], Outline.nil⟩
  | cons l ls ih =>
    obtain ⟨above, sections, h⟩ := ih
    by_cases hl : IsHeader l
    · exact ⟨[], _, h.cons_header hl⟩
    · exact ⟨_, _, h.cons_other hl⟩

/-! ## Blocks -/

/-- The blocks of lines that are numbered from `first`. -/
def gathered (first : Nat) (ls : List (List Char)) : Blocks :=
  Blocks.ofLines (((ls.map Line.ofText).zipIdx first).map fun (l, n) => (n, l))

theorem gathered_cons (first : Nat) (l : List Char) (ls : List (List Char)) :
    gathered first (l :: ls) = (gathered (first + 1) ls).above (first, Line.ofText l) := by
  unfold gathered
  rw [List.map_cons, List.zipIdx_cons, List.map_cons, Blocks.ofLines_cons]

theorem line_cases (l : List Char) : IsNoise l ∨ IsBody l ∨ IsHeader l := by
  by_cases hnoise : IsNoise l
  · exact Or.inl hnoise
  · by_cases hbody : IsBody l
    · exact Or.inr (Or.inl hbody)
    · exact Or.inr (Or.inr ⟨hnoise, hbody⟩)

section

variable {l : List Char} (first : Nat) (ls : List (List Char))

theorem gathered_cons_noise (hl : IsNoise l) : gathered first (l :: ls) = gathered (first + 1) ls := by
  rw [gathered_cons, ofText_eq, if_pos hl]
  rfl

theorem gathered_cons_body (hl : IsBody l) :
    gathered first (l :: ls) =
      ⟨(first, trim l) :: (gathered (first + 1) ls).stray, (gathered (first + 1) ls).blocks⟩ := by
  rw [gathered_cons, ofText_eq, if_neg hl.1, if_pos hl]
  rfl

theorem gathered_cons_header (hl : IsHeader l) :
    gathered first (l :: ls) =
      ⟨[], ⟨first, l, (gathered (first + 1) ls).stray.map (·.2)⟩ ::
        (gathered (first + 1) ls).blocks⟩ := by
  rw [gathered_cons, ofText_eq, if_neg hl.1, if_neg hl.2]
  rfl

end

/-- The body lines among lines that are numbered from `first`, with their numbers. -/
def strayFrom (first : Nat) (ls : List (List Char)) : List (Nat × List Char) :=
  ((ls.zipIdx first).filter fun (l, _) => IsBody l).map fun (l, n) => (n, trim l)

/-- The blocks of sections, the first of which begins at the line with a number. -/
def blocksFrom : Nat → List Section → List Block
  | _, [] => []
  | n, s :: sections => ⟨n, s.header, s.commands⟩ :: blocksFrom (n + s.lines.length) sections

theorem strayFrom_cons_body (first : Nat) {l : List Char} (hl : IsBody l)
    (ls : List (List Char)) :
    strayFrom first (l :: ls) = (first, trim l) :: strayFrom (first + 1) ls := by
  unfold strayFrom
  rw [List.zipIdx_cons, List.filter_cons_of_pos (by simpa using hl), List.map_cons]

theorem strayFrom_cons_other (first : Nat) {l : List Char} (hl : ¬ IsBody l)
    (ls : List (List Char)) : strayFrom first (l :: ls) = strayFrom (first + 1) ls := by
  unfold strayFrom
  rw [List.zipIdx_cons, List.filter_cons_of_neg (by simpa using hl)]

theorem map_snd_strayFrom (first : Nat) (ls : List (List Char)) :
    (strayFrom first ls).map (·.2) = commandsOf ls := by
  induction ls generalizing first with
  | nil => rfl
  | cons l ls ih =>
    unfold commandsOf at ih ⊢
    by_cases hl : IsBody l
    · rw [strayFrom_cons_body first hl, List.map_cons, ih,
        List.filter_cons_of_pos (by simpa using hl), List.map_cons]
    · rw [strayFrom_cons_other first hl, ih, List.filter_cons_of_neg (by simpa using hl)]

/-- Gathering finds the outline. -/
theorem Outline.gathered_eq {ls above : List (List Char)} {sections : List Section}
    (h : Outline ls above sections) (first : Nat) :
    gathered first ls =
      ⟨strayFrom first above, blocksFrom (first + above.length) sections⟩ := by
  induction ls generalizing above sections first with
  | nil =>
    obtain ⟨rfl, rfl⟩ := h.of_nil
    rfl
  | cons l ls ih =>
    rcases h.of_cons with ⟨above, rfl, hl, h⟩ | ⟨body, sections, rfl, rfl, hl, h⟩
    · have hlength : first + (l :: above).length = first + 1 + above.length := by
        rw [List.length_cons]
        omega
      rcases line_cases l with hnoise | hbody | hheader
      · rw [gathered_cons_noise _ _ hnoise, ih h, hlength,
          strayFrom_cons_other first fun hbody => hbody.1 hnoise]
      · rw [gathered_cons_body _ _ hbody, ih h, hlength, strayFrom_cons_body first hbody]
      · exact absurd hheader hl
    · have hlength : first + 1 + body.length = first + (body.length + 1) := by omega
      rw [gathered_cons_header _ _ hl, ih h, hlength, map_snd_strayFrom]
      rfl

end Crond.JobTable
