import Crond.JobTable.Line
import Crond.Schedule.Expression

/-
  Job tables: the text that lists the jobs of a daemon.

  The header of a job is a label, a colon and an expression, which `@startup` may follow; the
  commands below it, one or more, make up its script. `JobTable.read` gives the entries in order,
  or the topmost defect.
-/

namespace Crond.JobTable

open Text

/-- A job as the table lists it. -/
structure Entry where
  label : String
  schedule : Schedule
  startup : Bool
  commands : List String
  deriving DecidableEq, Repr

/-- The script of an entry: its commands, one a line. -/
def Entry.script (e : Entry) : String := "\n".intercalate e.commands

inductive Defect where
  | strayCommand (line : Nat)
  | missingColon (line : Nat)
  | missingLabel (line : Nat)
  | noCommands (line : Nat) (label : String)
  | badExpression (label : String) (fault : Fault)
  deriving DecidableEq, Repr

namespace Defect

/-- The line at fault; a bad expression is told by its label instead. -/
def line? : Defect → Option Nat
  | strayCommand n | missingColon n | missingLabel n | noCommands n _ => some n
  | badExpression _ _ => none

def reason : Defect → String
  | strayCommand _ => "command outside of a job"
  | missingColon _ => "expected 'label: interval'"
  | missingLabel _ => "missing job label"
  | noCommands _ label => label ++ " has no commands"
  | badExpression _ fault => fault.message

def message (d : Defect) : String :=
  match d with
  | badExpression label _ => "Invalid interval for " ++ label ++ ": " ++ d.reason
  | strayCommand n | missingColon n | missingLabel n | noCommands n _ =>
    "Invalid job syntax on line " ++ String.ofList (numeral n) ++ ": " ++ d.reason

end Defect

/-! ### Headers -/

/-- The label, schedule and startup flag of a job. -/
structure Header where
  label : String
  schedule : Schedule
  startup : Bool
  deriving DecidableEq, Repr

def startupTag : List Char := ['@', 's', 't', 'a', 'r', 't', 'u', 'p']

/-- A text without the startup tag at its end, if it has one. -/
def dropTag? (cs : List Char) : Option (List Char) :=
  if startupTag.isSuffixOf cs then some (cs.take (cs.length - startupTag.length)) else none

/-- The expression of a header and whether the startup tag follows it. -/
def splitTag (cs : List Char) : List Char × Bool :=
  match dropTag? cs with
  | some rest => (trimEnd rest, true)
  | none => (cs, false)

/-- The texts on either side of the first colon. -/
def splitColon? (cs : List Char) : Option (List Char × List Char) :=
  match cs.span (· ≠ ':') with
  | (label, _ :: expression) => some (label, expression)
  | (_, []) => none

def Header.read (number : Nat) (cs : List Char) : Except Defect Header :=
  match splitColon? cs with
  | none => .error (.missingColon number)
  | some (left, right) =>
    let label := trim left
    if label = [] then .error (.missingLabel number)
    else
      let (expression, startup) := splitTag (trim right)
      match Schedule.read expression with
      | .error fault => .error (.badExpression (String.ofList label) fault)
      | .ok schedule => .ok ⟨String.ofList label, schedule, startup⟩

/-! ### Entries -/

/-- The entry of a block. What is wrong with the header counts before a missing body. -/
def Block.entry (b : Block) : Except Defect Entry :=
  match Header.read b.number b.header with
  | .error d => .error d
  | .ok h =>
    if b.commands = [] then .error (.noCommands b.number h.label)
    else .ok ⟨h.label, h.schedule, h.startup, b.commands.map String.ofList⟩

/-- The entries of gathered lines, or the topmost defect: stray commands stand above all else. -/
def Blocks.entries (b : Blocks) : Except Defect (List Entry) :=
  match b.stray with
  | (n, _) :: _ => .error (.strayCommand n)
  | [] => b.blocks.mapM Block.entry

def read (cs : List Char) : Except Defect (List Entry) :=
  (Blocks.ofLines (numbered 1 cs)).entries

def parse (table : String) : Except Defect (List Entry) := read table.toList

end Crond.JobTable
