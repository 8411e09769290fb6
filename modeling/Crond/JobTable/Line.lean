import Crond.Text.Blank
import Crond.Text.Lines

/-
  The lines of a job table. A line that is blank or a comment is noise; an indented line is a
  command of the job above it; any other line is the header of a job.
-/

namespace Crond.JobTable

open Text

inductive Line where
  | noise
  | command (text : List Char)
  | header (text : List Char)
  deriving DecidableEq, Repr

/-- Whether a line is indented: by a tab, or by two spaces at least. -/
def isIndented : List Char → Bool
  | '\t' :: _ | ' ' :: ' ' :: _ => true
  | _ => false

/-- What a line is. Indentation decides before the comment sign, so commands may begin with it. -/
def Line.ofText (cs : List Char) : Line :=
  if allBlank cs then .noise
  else if isIndented cs then .command (trim cs)
  else if cs.head? = some '#' then .noise
  else .header cs

/-- The lines of a text, numbered from `first`. -/
def numbered (first : Nat) (cs : List Char) : List (Nat × Line) :=
  ((lines cs).map Line.ofText).zipIdx first |>.map fun (l, n) => (n, l)

/-- A header, the number of its line, and the commands below it up to the next header. -/
structure Block where
  number : Nat
  header : List Char
  commands : List (List Char)
  deriving DecidableEq, Repr

/-- The commands above the first header with the numbers of their lines, and the blocks. -/
structure Blocks where
  stray : List (Nat × List Char) := []
  blocks : List Block := []
  deriving DecidableEq, Repr

/-- The blocks of a table to which a line is added at the top. -/
def Blocks.above (b : Blocks) : Nat × Line → Blocks
  | (_, .noise) => b
  | (n, .command c) => { b with stray := (n, c) :: b.stray }
  | (n, .header h) => { blocks := ⟨n, h, b.stray.map (·.2)⟩ :: b.blocks }

def Blocks.ofLines (ls : List (Nat × Line)) : Blocks := ls.foldr (fun l b => b.above l) {}

theorem Blocks.ofLines_cons (l : Nat × Line) (ls : List (Nat × Line)) :
    ofLines (l :: ls) = (ofLines ls).above l := rfl

end Crond.JobTable
