import Crond.Machine.Script.Interpreter
import Crond.Machine.Script.Utility

/-
  How programs are found, and how one program runs another: as a new shell, or in its own place.
-/

namespace Crond.Script

open Text Files

/-! ### New shells -/

/-- The signals that are ignored. -/
def Shell.ignored (sh : Shell) : List Nat :=
  (sh.arrangements.filter fun t => t.2.isEmpty).map (·.1)

/-- A new shell that takes over the process of another one, of which it gets only what is
  exported. -/
def Shell.fresh (sh : Shell) (name : List Char) : Shell where
  toWorld := sh.toWorld
  name
  process := sh.self
  self := sh.self
  lineage := sh.lineage
  enclosing := sh.enclosing
  role := sh.role
  held := sh.held
  bindings := ((sh.bindings.filter Variable.isExported).map fun v =>
    { v with isFixed := false }).mergeSort fun u v => u.slot ≤ v.slot
  deaf := sh.ignored
  niceness := sh.niceness
  directory := sh.directory
  descriptors := sh.descriptors

/-- Gives a variable a value if it has none. -/
def Shell.ensure (sh : Shell) (name value : String) : Shell :=
  if (sh.get? (bytes name)).isSome then sh
  else sh.put { name := bytes name, value := some (bytes value) }

/-- Where a shell searches for programs if it is not told anything else. -/
def standardSearchPath : String := "/usr/local/sbin:/usr/local/bin:/usr/sbin:/usr/bin:/sbin:/bin"

/-- A shell with the variables that every shell sets. -/
def Shell.equipped (sh : Shell) : Shell :=
  let sh := sh.ensure "PATH" standardSearchPath
  let sh := ((sh.ensure "PS1" "# ").ensure "PS2" "> ").ensure "PS4" "+ "
  let sh := sh.put { name := bytes "PPID", value := some (numeral (sh.lineage.headD 0)) }
  let sh := (sh.set (bytes "IFS") [' ', '\t', '\n']).set (bytes "OPTIND") ['1']
  let given := (sh.get? (bytes "PWD")).filter fun path =>
    path.head? = some '/' && (sh.files.resolve sh.directory path).toOption = some sh.directory
  let workingPath := given.getD (Builtin.pathOf sh.directory)
  { sh with workingPath }.put { name := bytes "PWD", value := some workingPath, isExported := true }

/-! ### Finding programs -/

/-- Why a command is not run, and the status that this has. -/
def faultOf (f : PathFault) : String × Nat :=
  match f with
  | .missing | .notDirectory => ("not found", 127)
  | _ => ("Permission denied", 126)

/-- The directories in which a shell searches for programs, as they are written. -/
def Shell.searchPath (sh : Shell) : List Char := (sh.get? (bytes "PATH")).getD []

/-- Where a program is: under its path, or in the directories of a search path. -/
def Shell.locate (sh : Shell) (searchPath name : List Char) : Except PathFault Place :=
  if '/' ∈ name then sh.files.runnable sh.directory name
  else sh.files.search sh.directory name .missing (searchDirectories searchPath)

/-- Where a program is found in the directories of a search path. -/
def Shell.searchedIn? (sh : Shell) (searchPath name : List Char) : Option Name :=
  ((searchDirectories searchPath).map (inDirectory · name)).find? fun p =>
    (sh.files.runnable sh.directory p).toOption.isSome

/-- Where a program is found that is searched for. -/
def Shell.searched? (sh : Shell) (name : List Char) : Option Name :=
  sh.searchedIn? ((sh.get? (bytes "PATH")).getD usualSearchPath) name

/-! ### Programs that run commands -/

/-- A command made of words that are not expanded. -/
def commandOf (line : Nat) (words : List (List Char)) : Command :=
  .simple line [] (words.map fun w => [.text true w]) []

/-- Where a command is found that runs in place of a program. -/
def Shell.replacement (sh : Shell) (name : List Char) : Except PathFault Place :=
  if name.isEmpty then .error .missing
  else sh.locate ((sh.get? (bytes "PATH")).getD usualSearchPath) name

/-- Runs a command in place of a program, which tells by a message of its own that it cannot. -/
def runInstead (run : Interpreter) (message : Name → PathFault → List Char)
    (words : List (List Char)) (sh : Shell) : Shell :=
  match words with
  | [] => sh
  | name :: _ =>
    match sh.replacement name with
    | .ok _ =>
      let searchPath : Variable :=
        { sh.snapshot (bytes "PATH") with
          value := some ((sh.get? (bytes "PATH")).getD usualSearchPath) }
      run { isFinal := true } (commandOf sh.line (bytes "exec" :: words))
        { sh.put searchPath with functions := [], traps := [], deaf := sh.ignored }
    | .error f => (sh.write 2 (message name f ++ ['\n'])).exiting (.code (faultOf f).2)

/-- The signal that a number or a name means for a program. The name can have its usual front. -/
def namedSignal? (cs : List Char) : Option Nat :=
  (Builtin.signalOf? cs).or
    (if (cs.take 3).map Char.toUpper = bytes "SIG" then
      (Builtin.signalOf? (cs.drop 3)).filter fun _ => (cs.drop 3).any Char.isAlpha
    else none)

/-- A word with a text in it replaced wherever it stands. The number bounds the word. -/
def replacedIn (old new : List Char) : Nat → List Char → List Char
  | 0, cs => cs
  | _, [] => []
  | n + 1, c :: cs =>
    if !old.isEmpty && old.isPrefixOf (c :: cs) then
      new ++ replacedIn old new n ((c :: cs).drop old.length)
    else c :: replacedIn old new n cs

/-- How most programs tell that they cannot run a command. -/
def unrunnable (program : String) (name : Name) (f : PathFault) : List Char :=
  Utility.quotedFault (program ++ ": failed to run command") name f

end Crond.Script
