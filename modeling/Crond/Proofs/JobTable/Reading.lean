import Mathlib.Data.List.TakeDrop
import Crond.Proofs.JobTable.Outline
import Crond.Proofs.Text.Lines
import Crond.Proofs.Text.Parts

/-
  Which job tables are read, and as which entries.

  A header is cut at its first colon, and the startup tag is taken off its end (`HeaderText`). A
  section tells an entry if its header tells the label, the schedule and the startup flag and its
  body lines are the commands, one or more (`Section.Tells`).

  Proved: `read_eq_ok_iff_outline`. A table is read exactly when its outline has no body line
  above the first header and every section tells an entry; these are the entries, in order.
-/

namespace Crond.JobTable

open Text

/-! ## Headers -/

/-- The label and the expression of a header line, and whether the startup tag follows. -/
inductive HeaderText : List Char → List Char → List Char → Bool → Prop
  | plain {left right : List Char} (hcolon : ':' ∉ left) (htag : ¬ startupTag <:+ trim right) :
      HeaderText (left ++ ':' :: right) (trim left) (trim right) false
  | tagged {left right front : List Char} (hcolon : ':' ∉ left)
      (htag : trim right = front ++ startupTag) :
      HeaderText (left ++ ':' :: right) (trim left) (trimEnd front) true

theorem splitColon?_append {left : List Char} (h : ':' ∉ left) (right : List Char) :
    splitColon? (left ++ ':' :: right) = some (left, right) := by
  have hleft := decide_ne_of_not_mem h
  unfold splitColon?
  rw [List.span_eq_takeWhile_dropWhile, List.takeWhile_append_of_pos hleft,
    List.dropWhile_append_of_pos hleft, List.takeWhile_cons_of_neg (by decide),
    List.dropWhile_cons_of_neg (by decide), List.append_nil]

theorem splitTag_plain {cs : List Char} (h : ¬ startupTag <:+ cs) : splitTag cs = (cs, false) := by
  have hdrop : dropTag? cs = none := if_neg fun hs => h (List.isSuffixOf_iff_suffix.mp hs)
  unfold splitTag
  rw [hdrop]

theorem splitTag_tagged (front : List Char) :
    splitTag (front ++ startupTag) = (trimEnd front, true) := by
  have hdrop : dropTag? (front ++ startupTag) = some front := by
    unfold dropTag?
    rw [if_pos (List.isSuffixOf_iff_suffix.mpr (List.suffix_append _ _)), List.length_append,
      Nat.add_sub_cancel, List.take_left]
  unfold splitTag
  rw [hdrop]

/-- A line with a colon in it is cut in one way at least. -/
theorem exists_headerText {l : List Char} (h : ':' ∈ l) :
    ∃ label expression startup, HeaderText l label expression startup := by
  obtain ⟨left, right, rfl, hcolon⟩ := List.eq_append_cons_of_mem h
  by_cases htag : startupTag <:+ trim right
  · obtain ⟨front, hfront⟩ := htag
    exact ⟨_, _, _, .tagged hcolon hfront.symm⟩
  · exact ⟨_, _, _, .plain hcolon htag⟩

theorem read_of_not_mem {l : List Char} (h : ':' ∉ l) (number : Nat) :
    Header.read number l = .error (.missingColon number) := by
  have hsplit : splitColon? l = none := by
    unfold splitColon?
    rw [List.span_eq_takeWhile_dropWhile,
      List.dropWhile_eq_nil_iff.mpr (decide_ne_of_not_mem h)]
  unfold Header.read
  rw [hsplit]

theorem Header.read_append {left : List Char} (hcolon : ':' ∉ left) {right expression : List Char}
    {startup : Bool} (htag : splitTag (trim right) = (expression, startup)) (number : Nat) :
    Header.read number (left ++ ':' :: right) =
      if trim left = [] then .error (.missingLabel number)
      else match Schedule.read expression with
        | .error fault => .error (.badExpression (String.ofList (trim left)) fault)
        | .ok schedule => .ok ⟨String.ofList (trim left), schedule, startup⟩ := by
  unfold Header.read
  rw [splitColon?_append hcolon]
  dsimp only
  generalize splitTag (trim right) = cut at htag ⊢
  subst htag
  rfl

/-- How a header line is read that has been cut. -/
theorem HeaderText.read_eq {l label expression : List Char} {startup : Bool}
    (h : HeaderText l label expression startup) (number : Nat) :
    Header.read number l =
      if label = [] then .error (.missingLabel number)
      else match Schedule.read expression with
        | .error fault => .error (.badExpression (String.ofList label) fault)
        | .ok schedule => .ok ⟨String.ofList label, schedule, startup⟩ := by
  cases h with
  | plain hcolon htag => exact Header.read_append hcolon (splitTag_plain htag) number
  | tagged hcolon htag =>
    exact Header.read_append hcolon (by rw [htag, splitTag_tagged]) number

/-- A header line tells a header: the label is not empty, and the expression is that of the
    schedule. -/
def HeaderTells (l : List Char) (h : Header) : Prop :=
  ∃ label expression, HeaderText l label expression h.startup ∧ label ≠ [] ∧
    h.label = String.ofList label ∧ Schedule.read expression = .ok h.schedule

theorem Header.read_eq_ok_iff {number : Nat} {l : List Char} {h : Header} :
    Header.read number l = .ok h ↔ HeaderTells l h := by
  constructor
  · intro hread
    have hcolon : ':' ∈ l := by
      by_contra hc
      rw [read_of_not_mem hc] at hread
      exact absurd hread (by simp)
    obtain ⟨label, expression, startup, htext⟩ := exists_headerText hcolon
    rw [htext.read_eq] at hread
    by_cases hlabel : label = []
    · rw [if_pos hlabel] at hread
      exact absurd hread (by simp)
    · rw [if_neg hlabel] at hread
      cases hs : Schedule.read expression with
      | error fault =>
        rw [hs] at hread
        exact absurd hread (by simp)
      | ok schedule =>
        rw [hs] at hread
        obtain rfl := Except.ok.inj hread
        exact ⟨label, expression, htext, hlabel, rfl, hs⟩
  · rintro ⟨label, expression, htext, hlabel, hl, hs⟩
    rw [htext.read_eq, if_neg hlabel, hs, ← hl]

/-! ## Entries -/

/-- What the header of an entry tells. -/
def Entry.heading (e : Entry) : Header := ⟨e.label, e.schedule, e.startup⟩

/-- A section tells an entry: the header its heading, the body lines its commands. -/
structure Section.Tells (s : Section) (e : Entry) : Prop where
  header : HeaderTells s.header e.heading
  commands : e.commands = s.commands.map String.ofList
  nonempty : s.commands ≠ []

namespace Block

variable {b : Block}

/-- What is wrong with the header is wrong with the block. -/
theorem entry_of_error {d : Defect} (h : Header.read b.number b.header = .error d) :
    b.entry = .error d := by
  unfold entry
  rw [h]

theorem entry_of_ok {h : Header} (hread : Header.read b.number b.header = .ok h) :
    b.entry =
      if b.commands = [] then .error (.noCommands b.number h.label)
      else .ok ⟨h.label, h.schedule, h.startup, b.commands.map String.ofList⟩ := by
  unfold entry
  rw [hread]

end Block

theorem entry_eq_ok_iff {number : Nat} {s : Section} {e : Entry} :
    Block.entry ⟨number, s.header, s.commands⟩ = .ok e ↔ s.Tells e := by
  constructor
  · intro hentry
    cases hread : Header.read number s.header with
    | error d =>
      rw [Block.entry_of_error hread] at hentry
      exact absurd hentry (by simp)
    | ok h =>
      rw [Block.entry_of_ok hread] at hentry
      by_cases hne : s.commands = []
      · rw [if_pos hne] at hentry
        exact absurd hentry (by simp)
      · rw [if_neg hne] at hentry
        obtain rfl := Except.ok.inj hentry
        exact ⟨Header.read_eq_ok_iff.mp hread, rfl, hne⟩
  · rintro ⟨hheader, hcommands, hne⟩
    rw [Block.entry_of_ok (Header.read_eq_ok_iff.mpr hheader), if_neg hne, ← hcommands]
    rfl

theorem forall₂_entry_iff {number : Nat} {sections : List Section} {es : List Entry} :
    List.Forall₂ (fun b e => Block.entry b = .ok e) (blocksFrom number sections) es ↔
      List.Forall₂ Section.Tells sections es := by
  induction sections generalizing number es with
  | nil => exact List.forall₂_nil_left_iff.trans List.forall₂_nil_left_iff.symm
  | cons s sections ih =>
    rw [blocksFrom, List.forall₂_cons_left_iff, List.forall₂_cons_left_iff]
    exact exists_congr fun e => exists_congr fun es' =>
      and_congr entry_eq_ok_iff (and_congr_left' ih)

theorem strayFrom_eq_nil_iff {first : Nat} {ls : List (List Char)} :
    strayFrom first ls = [] ↔ ∀ l ∈ ls, ¬ IsBody l := by
  rw [← List.map_eq_nil_iff, map_snd_strayFrom, commandsOf_eq_nil_iff]

theorem entries_eq_ok_iff {b : Blocks} {es : List Entry} :
    b.entries = .ok es ↔
      b.stray = [] ∧ List.Forall₂ (fun b e => Block.entry b = .ok e) b.blocks es := by
  unfold Blocks.entries
  cases hstray : b.stray with
  | nil =>
    rw [mapM_eq_ok_iff]
    exact (and_iff_right rfl).symm
  | cons stray strays => simp

/-- The entries of a table that is read, told by its outline. -/
theorem read_eq_ok_iff_outline {cs : List Char} {above : List (List Char)}
    {sections : List Section} (h : Outline (lines cs) above sections) {es : List Entry} :
    read cs = .ok es ↔
      (∀ l ∈ above, ¬ IsBody l) ∧ List.Forall₂ Section.Tells sections es := by
  have hgathered : Blocks.ofLines (numbered 1 cs) =
      ⟨strayFrom 1 above, blocksFrom (1 + above.length) sections⟩ := h.gathered_eq 1
  unfold read
  rw [hgathered, entries_eq_ok_iff, strayFrom_eq_nil_iff, forall₂_entry_iff]

end Crond.JobTable
