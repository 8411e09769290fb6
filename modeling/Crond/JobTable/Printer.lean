import Crond.JobTable.Basic

/-
  Writing a job table: a header line and then the commands, each on an indented line of its own.
-/

namespace Crond.JobTable

/-- The two ways to indent a command. -/
inductive Indent where
  | tab
  | spaces
  deriving DecidableEq, Repr

def Indent.text : Indent → List Char
  | tab => ['\t']
  | spaces => [' ', ' ']

/-- A job to be written, its schedule as the text of an expression. -/
structure Draft where
  label : List Char
  expression : List Char
  startup : Bool
  commands : List (Indent × List Char)
  deriving DecidableEq, Repr

namespace Draft

def headerLine (d : Draft) : List Char :=
  d.label ++ ':' :: ' ' :: d.expression ++
    (if d.startup then ' ' :: startupTag else []) ++ ['\n']

def commandLine (i : Indent) (command : List Char) : List Char := i.text ++ command ++ ['\n']

def render (d : Draft) : List Char :=
  d.headerLine ++ d.commands.flatMap fun (i, command) => commandLine i command

end Draft

/-- The text of a table. -/
def render (ds : List Draft) : List Char := ds.flatMap Draft.render

end Crond.JobTable
