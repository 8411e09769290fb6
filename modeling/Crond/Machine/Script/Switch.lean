import Crond.Text.Bytes

/-
  The switches of a shell: what it can be set to do, by letters such as those of `-eu`, or by names
  behind the letter `o`.
-/

namespace Crond.Script

open Text

inductive Switch where
  | exitsOnFailure
  | expandsNoPaths
  | ignoresEnd
  | isInteractive
  | monitorsJobs
  | runsNothing
  | readsInput
  | tracesCommands
  | echoesInput
  | editsLikeVi
  | editsLikeEmacs
  | keepsFiles
  | exportsAll
  | tellsOfJobs
  | refusesUnset
  | isPrivileged
  | logsNothing
  | debugs
  deriving DecidableEq, Repr

namespace Switch

/-- The switches in order, with their names, and the letters of those that have one. -/
def all : List (Switch × String × Option Char) :=
  [(exitsOnFailure, "errexit", some 'e'), (expandsNoPaths, "noglob", some 'f'),
   (ignoresEnd, "ignoreeof", some 'I'), (isInteractive, "interactive", some 'i'),
   (monitorsJobs, "monitor", some 'm'), (runsNothing, "noexec", some 'n'),
   (readsInput, "stdin", some 's'), (tracesCommands, "xtrace", some 'x'),
   (echoesInput, "verbose", some 'v'), (editsLikeVi, "vi", some 'V'),
   (editsLikeEmacs, "emacs", some 'E'), (keepsFiles, "noclobber", some 'C'),
   (exportsAll, "allexport", some 'a'), (tellsOfJobs, "notify", some 'b'),
   (refusesUnset, "nounset", some 'u'), (isPrivileged, "privileged", some 'p'),
   (logsNothing, "nolog", none), (debugs, "debug", none)]

def ofLetter? (c : Char) : Option Switch := (all.find? fun s => s.2.2 = some c).map (·.1)

def ofName? (name : List Char) : Option Switch :=
  (all.find? fun s => s.2.1.toList = name).map (·.1)

/-- The letters of switches, the last ones first. -/
def letters (on : List Switch) : List Char :=
  all.reverse.filterMap fun s => if s.1 ∈ on then s.2.2 else none

/-- Lines that tell of every switch whether it is on. -/
def table (on : List Switch) : List (List Char) :=
  all.map fun s =>
    let name := s.2.1.toList
    name ++ List.replicate (16 - name.length) ' ' ++ (if s.1 ∈ on then "on" else "off").toList

/-- Lines that are commands which turn every switch to what it is. -/
def commands (on : List Switch) : List (List Char) :=
  all.map fun s => ((if s.1 ∈ on then "set -o " else "set +o ") ++ s.2.1).toList

end Switch

/-- What an argument such as `-eu` asks for. -/
inductive SwitchRequest where
  | turn (s : Switch) (isOn : Bool)
  /-- To tell which switches are on; the flag asks for the table. -/
  | tell (isTable : Bool)
  /-- To run the next argument as a script. -/
  | command
  /-- To begin as the first shell of a user does. -/
  | login
  | unknownLetter (c : Char)
  | unknownName (name : List Char)
  deriving DecidableEq, Repr

namespace SwitchRequest

/-- What the letters of an argument ask for, given the arguments behind it, and those that are left:
  every letter `o` takes one as a name. -/
def ofLetters (isOn : Bool) :
    List Char → List (List Char) → List SwitchRequest × List (List Char)
  | [], args => ([], args)
  | c :: cs, args =>
    let (request, args) : SwitchRequest × List (List Char) :=
      if c = 'o' then
        match args with
        | [] => (tell isOn, [])
        | name :: args =>
          (match Switch.ofName? name with
            | some s => turn s isOn
            | none => unknownName name, args)
      else if c = 'c' && isOn then (command, args)
      else if c = 'l' && isOn then (login, args)
      else
        match Switch.ofLetter? c with
        | some s => (turn s isOn, args)
        | none => (unknownLetter c, args)
    let (requests, args) := ofLetters isOn cs args
    (request :: requests, args)

/-- What the arguments at the front ask for, and those behind them if there are any; a pair of
  dashes says that there are. A dash alone ends them and stops commands from being shown. -/
def ofArguments : Nat → List (List Char) → List SwitchRequest × Option (List (List Char))
  | 0, _ | _, [] => ([], none)
  | n + 1, arg :: args =>
    let further (isOn : Bool) (letters : List Char) :
        List SwitchRequest × Option (List (List Char)) :=
      let (first, args) := ofLetters isOn letters args
      let (rest, args) := ofArguments n args
      (first ++ rest, args)
    match arg with
    | ['-', '-'] => ([], some args)
    | ['-'] =>
      ([turn .tracesCommands false, turn .echoesInput false],
        if args.isEmpty then none else some args)
    | '-' :: letters => further true letters
    | '+' :: letters => further false letters
    | _ => ([], some (arg :: args))

/-- The message about a request that cannot be met. -/
def fault? : SwitchRequest → Option (List Char)
  | unknownLetter c => some (bytes "Illegal option -" ++ [c])
  | unknownName name => some (bytes "Illegal option -o " ++ name)
  | turn _ _ | tell _ | command | login => none

end SwitchRequest

/-- The switches that are on after one has been turned. -/
def Switch.turned (on : List Switch) (s : Switch) (isOn : Bool) : List Switch :=
  let others := on.filter (· ≠ s)
  if isOn then others ++ [s] else others

end Crond.Script
