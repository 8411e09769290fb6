import Crond.Machine.Script.Expansion

/-
  The commands that are part of a shell: what they are, and what several of them need.
-/

namespace Crond.Script

open Text Files

/-- A command that changes the shell it runs in. -/
abbrev Builtin := Shell → List (List Char) → Shell

namespace Builtin

/-- A number that an argument must be. -/
def natural? (cs : List Char) : Option Nat :=
  match readNumeral 2147483647 cs with
  | .value n => some n
  | .tooLarge | .malformed => none

/-- Goes on with the number that an argument is, or fails. -/
def withNumber (sh : Shell) (cs : List Char) (k : Nat → Shell) : Shell :=
  match natural? cs with
  | some n => k n
  | none => sh.fail (bytes "Illegal number: " ++ cs)

/-- A text as a shell would read it back: quotes between double quotes, all else between single
  ones. -/
def singleQuoted (cs : List Char) : List Char :=
  let parts := cs.splitBy fun a b => (a = '\'') = (b = '\'')
  let quoted := parts.flatMap fun p =>
    if p.head? = some '\'' then '"' :: p ++ ['"'] else '\'' :: p ++ ['\'']
  if cs.isEmpty || cs.head? = some '\'' then '\'' :: '\'' :: quoted else quoted

/-- Takes options off the front of arguments: their letters, with the values of those that have
  one. A pair of dashes ends them. The number bounds the letters to go. -/
def options? (plain valued : List Char) (sofar : List (Char × List Char)) :
    Nat → List (List Char) → Except (List Char) (List (Char × List Char) × List (List Char))
  | 0, args => .ok (sofar, args)
  | n + 1, args =>
    match args with
    | ['-', '-'] :: rest => .ok (sofar, rest)
    | ('-' :: c :: cs) :: rest =>
      if c ∈ valued then
        match cs, rest with
        | [], [] => .error (bytes "No arg for -" ++ c :: bytes " option")
        | [], v :: rest => options? plain valued (sofar ++ [(c, v)]) n rest
        | cs, rest => options? plain valued (sofar ++ [(c, cs)]) n rest
      else if c ∈ plain then
        options? plain valued (sofar ++ [(c, [])]) n
          (if cs.isEmpty then rest else ('-' :: cs) :: rest)
      else .error (bytes "Illegal option -" ++ [c])
    | args => .ok (sofar, args)

/-- Goes on with the options and the other arguments, or fails where an option is not one of those
  with given letters. -/
def withOptions (plain valued : String)
    (k : List (Char × List Char) → Builtin) : Builtin := fun sh args =>
  let size := args.foldl (fun n a => n + a.length + 1) 1
  match options? plain.toList valued.toList [] size args with
  | .ok (options, args) => k options sh args
  | .error message => sh.fail message

/-- Does something for every argument, as long as nothing has failed. -/
def each (sh : Shell) (args : List (List Char)) (act : Shell → List Char → Shell) : Shell :=
  args.foldl (fun sh arg => if sh.goesOn then act sh arg else sh) sh

def printLines (sh : Shell) (ls : List (List Char)) : Shell := ls.foldl Shell.printLine sh

def lower (cs : List Char) : List Char := cs.map Char.toLower

/-- The name and the value of an argument, if it has one. -/
def assignmentOf (arg : List Char) : List Char × Option (List Char) :=
  match arg.span (· ≠ '=') with
  | (name, _ :: value) => (name, some value)
  | (name, []) => (name, none)

def pathOf (p : Place) : List Char :=
  if p.isEmpty then ['/'] else p.flatMap fun n => '/' :: n

def succeed : Builtin := fun sh _ => sh.withStatus 0

end Builtin

end Crond.Script
