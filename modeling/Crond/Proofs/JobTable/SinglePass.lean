import Crond.Proofs.JobTable.Reading

/-
  A job table read in one pass from the top.

  `read` gathers the lines of a table from the bottom and makes entries of the blocks. A pass from
  the top has at most one job open, to which commands are added until the next header or the end
  of the table finishes it, and it stops at the first defect.

  Proved: `readOnce_eq_read`. The pass gives the same entries, or the same defect, for every text.
-/

namespace Crond.JobTable

open Text

/-! ## The pass -/

/-- The entries that are finished, and the job that is open with the number of its header. -/
structure Pass where
  finished : List Entry := []
  current : Option (Nat × Entry) := none

/-- A job whose header is on a line is finished if it has commands. -/
def finish (number : Nat) (e : Entry) : Except Defect Entry :=
  if e.commands = [] then .error (.noCommands number e.label) else .ok e

/-- The job that a header opens. -/
def Header.opened (h : Header) : Entry := ⟨h.label, h.schedule, h.startup, []⟩

def Entry.add (e : Entry) (command : List Char) : Entry :=
  { e with commands := e.commands ++ [String.ofList command] }

namespace Pass

/-- All entries, once the job that is open has been finished. -/
def close (p : Pass) : Except Defect (List Entry) :=
  match p.current with
  | none => .ok p.finished
  | some (number, e) => do return p.finished ++ [← finish number e]

/-- Goes past a line with its number. -/
def step (p : Pass) (line : List Char × Nat) : Except Defect Pass :=
  let (l, number) := line
  if allBlank l then .ok p
  else if isIndented l then
    match p.current with
    | none => .error (.strayCommand number)
    | some (above, e) => .ok { p with current := some (above, e.add (trim l)) }
  else if l.head? = some '#' then .ok p
  else do
    let finished ← p.close
    let h ← Header.read number l
    return ⟨finished, some (number, h.opened)⟩

end Pass

/-- The entries of a table, read in one pass. -/
def readOnce (cs : List Char) : Except Defect (List Entry) := do
  let p ← ((lines cs).zipIdx 1).foldlM Pass.step {}
  p.close

/-! ## What is left of a table -/

/-- What a pass ends with, given the blocks of the lines that it has still to go past. -/
def Pass.ending (p : Pass) (below : Blocks) : Except Defect (List Entry) :=
  match p.current with
  | none => do return p.finished ++ (← below.entries)
  | some (number, e) => do
    let commands := below.stray.map fun s => String.ofList s.2
    let e ← finish number { e with commands := e.commands ++ commands }
    return p.finished ++ e :: (← below.blocks.mapM Block.entry)

/-- The blocks of numbered lines. -/
def blocksBelow (ls : List (List Char × Nat)) : Blocks :=
  Blocks.ofLines (ls.map fun l => (l.2, Line.ofText l.1))

theorem blocksBelow_cons (l : List Char) (number : Nat) (ls : List (List Char × Nat)) :
    blocksBelow ((l, number) :: ls) = (blocksBelow ls).above (number, Line.ofText l) := rfl

theorem numbered_eq_map (first : Nat) (cs : List Char) :
    numbered first cs = ((lines cs).zipIdx first).map fun l => (l.2, Line.ofText l.1) := by
  unfold numbered
  rw [List.zipIdx_map, List.map_map]
  rfl

theorem blocksBelow_lines (cs : List Char) :
    blocksBelow ((lines cs).zipIdx 1) = Blocks.ofLines (numbered 1 cs) := by
  rw [numbered_eq_map]
  rfl

/-- A block is a header that opens a job, and the job finished with the commands. -/
theorem Block.entry_eq_finish (b : Block) :
    b.entry = Header.read b.number b.header >>= fun h =>
      finish b.number { h.opened with commands := b.commands.map String.ofList } := by
  cases hread : Header.read b.number b.header with
  | error d => exact Block.entry_of_error hread
  | ok h =>
    have hnone : (b.commands.map String.ofList = []) = (b.commands = []) :=
      propext List.map_eq_nil_iff
    rw [Block.entry_of_ok hread]
    simp only [← hnone]
    rfl

namespace Pass

theorem step_eq (p : Pass) (l : List Char) (number : Nat) :
    p.step (l, number) =
      match Line.ofText l with
      | .noise => .ok p
      | .command c =>
        match p.current with
        | none => .error (.strayCommand number)
        | some (above, e) => .ok { p with current := some (above, e.add c) }
      | .header h =>
        p.close >>= fun finished => Header.read number h >>= fun h =>
          .ok ⟨finished, some (number, h.opened)⟩ := by
  unfold step Line.ofText
  dsimp only
  split_ifs <;> rfl

/-- With no lines left a pass ends with what it is closed with. -/
theorem ending_nil (p : Pass) : p.ending {} = p.close := by
  unfold ending close
  cases p.current with
  | none => exact congrArg Except.ok (List.append_nil _)
  | some job =>
    dsimp only
    rw [List.map_nil, List.append_nil]
    rfl

/-- Where the next line that is no noise is a header, the job that is open is finished first. -/
theorem ending_of_blocks (p : Pass) (blocks : List Block) :
    p.ending { blocks } =
      p.close >>= fun finished => blocks.mapM Block.entry >>= fun es => .ok (finished ++ es) := by
  unfold ending close
  cases p.current with
  | none => rfl
  | some job =>
    obtain ⟨number, e⟩ := job
    dsimp only
    rw [List.map_nil, List.append_nil]
    cases finish number e with
    | error d => rfl
    | ok e =>
      change _ = blocks.mapM Block.entry >>= fun es => .ok (p.finished ++ [e] ++ es)
      simp only [List.append_assoc, List.singleton_append]
      rfl

/-- What a pass ends with is what it ends with once it has gone past the next line. -/
theorem ending_above (p : Pass) (l : List Char) (number : Nat) (below : Blocks) :
    p.ending (below.above (number, Line.ofText l)) =
      p.step (l, number) >>= fun p => p.ending below := by
  rw [step_eq]
  cases Line.ofText l with
  | noise => rfl
  | command c =>
    unfold Blocks.above ending
    cases p.current with
    | none => rfl
    | some job =>
      obtain ⟨above, e⟩ := job
      have hadd : ∀ commands, e.commands ++ String.ofList c :: commands =
          (e.add c).commands ++ commands := fun commands => by
        rw [Entry.add, List.append_assoc, List.singleton_append]
      dsimp only
      rw [List.map_cons, hadd]
      rfl
  | header h =>
    refine (ending_of_blocks p _).trans ?_
    rw [bind_assoc]
    refine congrArg _ (funext fun finished => ?_)
    rw [List.mapM_cons, Block.entry_eq_finish, bind_assoc, bind_assoc, bind_assoc]
    refine congrArg _ (funext fun h => ?_)
    dsimp only
    rw [List.map_map]
    simp only [bind_assoc, pure_bind]
    rfl

/-- A pass past all lines ends with what their blocks tell. -/
theorem foldlM_step_eq (ls : List (List Char × Nat)) (p : Pass) :
    (ls.foldlM step p >>= close) = p.ending (blocksBelow ls) := by
  induction ls generalizing p with
  | nil => exact (ending_nil p).symm
  | cons line ls ih =>
    obtain ⟨l, number⟩ := line
    rw [List.foldlM_cons, bind_assoc, blocksBelow_cons, ending_above]
    exact congrArg _ (funext ih)

end Pass

/-- Read in one pass from the top, a table gives the same entries or the same defect. -/
theorem readOnce_eq_read (cs : List Char) : readOnce cs = read cs := by
  unfold readOnce read
  rw [← blocksBelow_lines]
  refine (Pass.foldlM_step_eq _ {}).trans ?_
  unfold Pass.ending
  dsimp only
  cases (blocksBelow ((lines cs).zipIdx 1)).entries <;> rfl

end Crond.JobTable
