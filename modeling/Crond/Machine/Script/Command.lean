import Crond.Machine.Script.Scanner

/-
  The commands of a shell script.
-/

namespace Crond.Script

/-- A redirection. The target of a document is its contents. -/
structure Redirection where
  descriptor : Nat
  flow : Flow
  target : Word

inductive Command where
  | nothing
  | simple (line : Nat) (assignments : List (List Char × Word)) (words : List Word)
      (redirections : List Redirection)
  | pipeline (stages : List Command)
  | negation (c : Command)
  | sequence (first second : Command)
  | both (first second : Command)
  | either (first second : Command)
  | background (c : Command)
  | subshell (line : Nat) (c : Command) (redirections : List Redirection)
  | redirected (line : Nat) (c : Command) (redirections : List Redirection)
  | conditional (test yes no : Command)
  /-- Repeats its body while its test succeeds, or fails. -/
  | loop (whileSucceeds : Bool) (test body : Command)
  /-- Without words, the parameters are gone through. -/
  | forEach (line : Nat) (name : List Char) (words : Option (List Word)) (body : Command)
  | choice (line : Nat) (subject : Word) (cases : List (List Word × Command))
  | definition (name : List Char) (body : Command)

/-- One command after another. -/
def Command.andThen : Command → Command → Command
  | nothing, c => c
  | c, d => sequence c d

end Crond.Script
