import Crond.Machine.Script.Program

/-
  What the names of commands stand for, and the commands that tell.
-/

namespace Crond.Script

open Text

def isKeyword (name : List Char) : Bool := keywords.any fun k => k.toList = name

/-- Whether a name is that of a command of the shell that is not special. -/
def isOrdinary (name : List Char) : Bool :=
  (builtin? name).isSome || String.ofList name ∈ ["command", "type", "hash"]

/-- Whether a name is one of the shell itself: a keyword, an alias, a function, or a command. -/
def Shell.isOwn (sh : Shell) (name : List Char) : Bool :=
  isKeyword name || (sh.aliases.lookup name).isSome || (sh.functions.lookup name).isSome ||
    isOrdinary name || String.ofList name ∈ Parser.specialNames

/-- Notes that a program has been looked up. -/
def Shell.track (sh : Shell) (name : List Char) : Shell :=
  if '/' ∈ name || sh.tracked.contains name || sh.isOwn name || (sh.searched? name).isNone then sh
  else { sh with tracked := sh.tracked ++ [name] }

/-- How a command is described, in a word and at length, if programs are searched for in some
  directories. -/
def describe (sh : Shell) (searchPath name : List Char) : Option (List Char × List Char) :=
  if isKeyword name then some (name, bytes " is a shell keyword")
  else
    match sh.aliases.lookup name with
    | some value =>
      some (bytes "alias " ++ name ++ '=' :: Builtin.singleQuoted value,
        bytes " is an alias for " ++ value)
    | none =>
      if String.ofList name ∈ Parser.specialNames then
        some (name, bytes " is a special shell builtin")
      else if (sh.functions.lookup name).isSome then some (name, bytes " is a shell function")
      else if isOrdinary name then some (name, bytes " is a shell builtin")
      else if '/' ∈ name then
        match sh.files.find sh.directory name with
        | .ok _ => some (name, bytes " is " ++ name)
        | .error _ => none
      else
        let found := if sh.tracked.contains name then " is a tracked alias for " else " is "
        (sh.searchedIn? searchPath name).map fun p => (p, bytes found ++ p)

def typeCommand : Builtin := fun sh args =>
  args.foldl (fun (sh : Shell) name =>
    match describe sh sh.searchPath name with
    | some (_, d) => (sh.track name).printLine (name ++ d)
    | none => (sh.printLine (name ++ bytes ": not found")).withStatus 127) (sh.withStatus 0)

/-- The command `command` where it runs nothing: it describes the command that its argument names,
  in a word or at length. -/
def commandCommand : Builtin := Builtin.withOptions "pvV" "" fun options sh args =>
  let isLong := (options.lookup 'V').isSome
  let isStandard := (options.lookup 'p').isSome
  let searchPath := if isStandard then bytes standardSearchPath else sh.searchPath
  match args with
  | [] => sh.withStatus 0
  | name :: _ =>
    if !isLong && (options.lookup 'v').isNone then sh.withStatus 0
    else
      match describe sh searchPath name with
      | some (short, d) =>
        let sh := if isStandard then sh else sh.track name
        (sh.printLine (if isLong then name ++ d else short)).withStatus 0
      | none => (if isLong then sh.printLine (name ++ bytes ": not found") else sh).withStatus 127

/-- Looks up programs, so that they are found faster later, or tells which have been. -/
def hashCommand : Builtin := Builtin.withOptions "rv" "" fun options sh args =>
  if (options.lookup 'r').isSome then { sh with tracked := [], status := 0 }
  else if args.isEmpty then
    (Builtin.printLines sh (sh.tracked.filterMap sh.searched?)).withStatus 0
  else
    Builtin.each (sh.withStatus 0) args fun sh name =>
      if '/' ∈ name || isOrdinary name || (sh.functions.lookup name).isSome ||
          String.ofList name ∈ Parser.specialNames then sh
      else
        match sh.locate sh.searchPath name with
        | .ok _ => sh.track name
        | .error f => (sh.complain (name ++ bytes (": " ++ (faultOf f).1))).withStatus 1

/-! ### Calls -/

/-- A command as it is called. -/
structure Call where
  name : List Char
  args : List (List Char)
  /-- Whether `command` stands in front: no function is called then, and nothing is special. -/
  isPlain : Bool := false
  /-- Whether programs are searched for where shells do by themselves. -/
  isStandard : Bool := false

/-- Whether a call is one of a function. -/
def Shell.callsFunction (sh : Shell) (c : Call) : Bool :=
  !c.isPlain && (sh.functions.lookup c.name).isSome

/-- What follows `command` and those of its options with which it runs what follows. -/
def behindOptions? (isStandard : Bool) : List (List Char) → Option (Bool × List (List Char))
  | [] => none
  | ['-', '-'] :: args => some (isStandard, args)
  | arg :: args =>
    match arg with
    | '-' :: c :: cs => if (c :: cs).all (· = 'p') then behindOptions? true args else none
    | _ => some (isStandard, arg :: args)

/-- The call that is meant where `command` stands in front. The number bounds how often it does. -/
def Shell.resolved (sh : Shell) : Nat → Call → Call
  | 0, c => c
  | n + 1, c =>
    if c.name ≠ bytes "command" || sh.callsFunction c then c
    else
      match behindOptions? c.isStandard c.args with
      | some (isStandard, name :: args) => sh.resolved n { name, args, isPlain := true, isStandard }
      | _ => c

/-- The call that the fields of a command are. -/
def Shell.call? (sh : Shell) : List (List Char) → Option Call
  | [] => none
  | name :: args => some (sh.resolved args.length { name, args })

/-- Commands whose arguments are not split where they are assignments. -/
def declarations : List String := ["export", "readonly", "local", "alias"]

/-- Whether a call is such that assignments among its arguments are not split. -/
def Shell.declares (sh : Shell) (c : Call) : Bool :=
  declarations.contains (String.ofList c.name) && !sh.callsFunction c

end Crond.Script
