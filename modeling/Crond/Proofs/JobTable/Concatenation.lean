import Crond.Proofs.JobTable.Reading

/-
  Job tables one behind the other.

  The number of a line decides nothing about a table but how a defect is told: with other numbers
  the same blocks are gathered (`gathered_add`) and the same entries are read from them
  (`Blocks.entries_renumber`). Lines that begin unindented give nothing to a block above them
  (`beginsUnindented_iff`), so that gathering keeps the blocks of both apart (`gathered_append`).

  Proved: `parse_append`. A table that goes on behind a line feed, not with a command, has the
  entries of both parts. A defect of the first part is reported as it is, one of the second with
  its line moved down by the lines of the first.
-/

namespace Crond.JobTable

open Text

/-! ## Numbers -/

/-- A defect with another number of its line. A bad expression is told without one. -/
def Defect.renumber (f : Nat → Nat) : Defect → Defect
  | strayCommand n => strayCommand (f n)
  | missingColon n => missingColon (f n)
  | missingLabel n => missingLabel (f n)
  | noCommands n label => noCommands (f n) label
  | badExpression label fault => badExpression label fault

def Block.renumber (f : Nat → Nat) (b : Block) : Block := { b with number := f b.number }

def Blocks.renumber (f : Nat → Nat) (b : Blocks) : Blocks :=
  ⟨b.stray.map fun (n, c) => (f n, c), b.blocks.map (Block.renumber f)⟩

section

variable (f : Nat → Nat)

theorem Header.read_renumber (n : Nat) (l : List Char) :
    Header.read (f n) l = (Header.read n l).mapError (Defect.renumber f) := by
  by_cases hcolon : ':' ∈ l
  · obtain ⟨label, expression, startup, htext⟩ := exists_headerText hcolon
    rw [htext.read_eq, htext.read_eq]
    by_cases hlabel : label = []
    · rw [if_pos hlabel, if_pos hlabel]
      rfl
    · rw [if_neg hlabel, if_neg hlabel]
      cases Schedule.read expression with
      | error fault => rfl
      | ok schedule => rfl
  · rw [read_of_not_mem hcolon, read_of_not_mem hcolon]
    rfl

theorem Block.entry_renumber (b : Block) :
    (b.renumber f).entry = b.entry.mapError (Defect.renumber f) := by
  have hread : Header.read (b.renumber f).number (b.renumber f).header =
      (Header.read b.number b.header).mapError (Defect.renumber f) :=
    Header.read_renumber f b.number b.header
  cases h : Header.read b.number b.header with
  | error d =>
    rw [h] at hread
    rw [entry_of_error h, entry_of_error hread]
    rfl
  | ok header =>
    have hcommands : (b.renumber f).commands = b.commands := rfl
    rw [h] at hread
    rw [entry_of_ok h, entry_of_ok hread, hcommands]
    by_cases hnone : b.commands = []
    · rw [if_pos hnone, if_pos hnone]
      rfl
    · rw [if_neg hnone, if_neg hnone]
      rfl

theorem Blocks.entries_renumber (b : Blocks) :
    (b.renumber f).entries = b.entries.mapError (Defect.renumber f) := by
  obtain ⟨stray, blocks⟩ := b
  cases stray with
  | nil => exact mapM_map_eq_mapError (Block.entry_renumber f) blocks
  | cons first rest => rfl

end

theorem gathered_add (first k : Nat) (ls : List (List Char)) :
    gathered (first + k) ls = (gathered first ls).renumber (· + k) := by
  induction ls generalizing first with
  | nil => rfl
  | cons l ls ih =>
    have hnext : gathered (first + k + 1) ls = (gathered (first + 1) ls).renumber (· + k) := by
      rw [Nat.add_right_comm]
      exact ih (first + 1)
    rcases line_cases l with hl | hl | hl
    · rw [gathered_cons_noise _ _ hl, gathered_cons_noise _ _ hl, hnext]
    · rw [gathered_cons_body _ _ hl, gathered_cons_body _ _ hl, hnext]
      rfl
    · rw [gathered_cons_header _ _ hl, gathered_cons_header _ _ hl, hnext]
      unfold Blocks.renumber
      rw [List.map_map]
      rfl

/-! ## Lines one behind the other -/

/-- The first line that is no noise, if there is one, is not indented. -/
def BeginsUnindented (ls : List (List Char)) : Prop :=
  ∀ l ∈ ls.find? (fun l => ¬ IsNoise l), ¬ (['\t'] <+: l ∨ [' ', ' '] <+: l)

/-- These are the lines that give nothing to a block above them. -/
theorem beginsUnindented_iff {first : Nat} {ls : List (List Char)} :
    BeginsUnindented ls ↔ (gathered first ls).stray = [] := by
  unfold BeginsUnindented
  induction ls generalizing first with
  | nil => exact iff_of_true (fun l hl => absurd hl (by simp)) rfl
  | cons l ls ih =>
    rcases line_cases l with hl | hl | hl
    · rw [List.find?_cons_of_neg (by simpa using hl), gathered_cons_noise _ _ hl]
      exact ih
    · rw [List.find?_cons_of_pos (by simpa using hl.1), gathered_cons_body _ _ hl]
      exact iff_of_false (fun h => h l rfl hl.2) (List.cons_ne_nil _ _)
    · rw [List.find?_cons_of_pos (by simpa using hl.1), gathered_cons_header _ _ hl]
      refine iff_of_true (fun l' hl' => ?_) rfl
      obtain rfl := Option.some.inj hl'
      exact fun hindent => hl.2 ⟨hl.1, hindent⟩

instance (ls : List (List Char)) : Decidable (BeginsUnindented ls) :=
  decidable_of_iff ((gathered 1 ls).stray = []) beginsUnindented_iff.symm

/-- Commands without a header of their own would belong to the last block above. Where there are
    none, the blocks stand behind each other. -/
theorem gathered_append (first : Nat) (ls : List (List Char)) {ls' : List (List Char)}
    (h : (gathered (first + ls.length) ls').stray = []) :
    gathered first (ls ++ ls') =
      ⟨(gathered first ls).stray,
        (gathered first ls).blocks ++ (gathered (first + ls.length) ls').blocks⟩ := by
  induction ls generalizing first with
  | nil =>
    rw [List.length_nil, Nat.add_zero] at h
    exact congrArg (Blocks.mk · _) h
  | cons l ls ih =>
    have hlength : first + (l :: ls).length = first + 1 + ls.length := by
      rw [List.length_cons]
      omega
    rw [hlength] at h
    rw [List.cons_append, hlength]
    rcases line_cases l with hl | hl | hl
    · rw [gathered_cons_noise _ _ hl, gathered_cons_noise _ _ hl, ih _ h]
    · rw [gathered_cons_body _ _ hl, gathered_cons_body _ _ hl, ih _ h]
    · rw [gathered_cons_header _ _ hl, gathered_cons_header _ _ hl, ih _ h, List.cons_append]

theorem Blocks.entries_append (b : Blocks) {b' : Blocks} (h : b'.stray = []) :
    (Blocks.mk b.stray (b.blocks ++ b'.blocks)).entries =
      b.entries >>= fun es => b'.entries >>= fun es' => .ok (es ++ es') := by
  have hb' : b'.entries = b'.blocks.mapM Block.entry := by
    unfold entries
    rw [h]
  rw [hb']
  obtain ⟨stray, blocks⟩ := b
  cases stray with
  | nil => exact List.mapM_append
  | cons first rest => rfl

/-- A table that is put together is read part by part. -/
theorem read_append {cs cs' : List Char} (h : cs = [] ∨ cs.getLast? = some '\n')
    (h' : BeginsUnindented (lines cs')) :
    read (cs ++ cs') =
      read cs >>= fun es =>
        (read cs').mapError (Defect.renumber (· + (lines cs).length)) >>= fun es' =>
          .ok (es ++ es') := by
  have hread : ∀ cs, read cs = (gathered 1 (lines cs)).entries := fun _ => rfl
  have hstray := (@beginsUnindented_iff (1 + (lines cs).length) _).mp h'
  rw [hread, lines_append h, gathered_append 1 _ hstray, Blocks.entries_append _ hstray,
    gathered_add, Blocks.entries_renumber, hread, hread]

/-- A table that goes on behind a line feed, and not with a command: a defect of its first part is
    reported, else the entries are those of both parts, or a defect of the second one is reported
    at its line in the whole. -/
theorem parse_append (a b : String) (ha : a = "" ∨ a.toList.getLast? = some '\n')
    (hb : BeginsUnindented (lines b.toList)) :
    (∀ d, parse a = .error d → parse (a ++ b) = .error d) ∧
    (∀ x y, parse a = .ok x → parse b = .ok y → parse (a ++ b) = .ok (x ++ y)) ∧
    ∀ x d, parse a = .ok x → parse b = .error d →
      parse (a ++ b) = .error (d.renumber (· + (lines a.toList).length)) := by
  have ha' : a.toList = [] ∨ a.toList.getLast? = some '\n' :=
    ha.imp_left String.toList_eq_nil_iff.mpr
  unfold parse
  rw [String.toList_append, read_append ha' hb]
  refine ⟨?_, ?_, ?_⟩
  · intro d h
    rw [h]
    rfl
  · intro x y hx hy
    rw [hx, hy]
    rfl
  · intro x d hx hd
    rw [hx, hd]
    rfl

/-- The missing body is told at its line in the whole, whichever part it stands in. -/
theorem parse_append_noCommands :
    let a := "x: * * * * * *\n\techo\n\n"
    let b := "#c\n  \ny: 0 0 0 * * *\n"
    let es : List Entry := [⟨"x", ⟨.any, .any, .any, .any, .any, .any⟩, false, ["echo"]⟩]
    parse a = .ok es ∧ parse b = .error (.noCommands 3 "y") ∧
      parse (a ++ a) = .ok (es ++ es) ∧
      parse (b ++ a) = .error (.noCommands 3 "y") ∧
      parse (a ++ b) = .error (.noCommands 6 "y") := by
  intro a b es
  have ha : parse a = .ok es := by decide +kernel
  have hb : parse b = .error (.noCommands 3 "y") := by decide +kernel
  have hendsA : a.toList.getLast? = some '\n' := by decide +kernel
  have hendsB : b.toList.getLast? = some '\n' := by decide +kernel
  have hbeginsA : BeginsUnindented (lines a.toList) := by decide +kernel
  have hbeginsB : BeginsUnindented (lines b.toList) := by decide +kernel
  have hlength : (lines a.toList).length = 3 := by decide +kernel
  refine ⟨ha, hb, ?_, ?_, ?_⟩
  · exact (parse_append a a (Or.inr hendsA) hbeginsA).2.1 es es ha ha
  · exact (parse_append b a (Or.inr hendsB) hbeginsA).1 _ hb
  · have h := (parse_append a b (Or.inr hendsA) hbeginsB).2.2 es _ ha hb
    rw [hlength] at h
    exact h

end Crond.JobTable
