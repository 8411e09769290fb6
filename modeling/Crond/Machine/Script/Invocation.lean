import Crond.Machine.Script.Naming
import Crond.Machine.Script.Redirect

/-
  Simple commands: how they are run.
-/

namespace Crond.Script

open Text Files

/-! ### Commands that run commands -/

/-- Runs the commands of a file in this shell. -/
def sourceCommand (run : Interpreter) (m : Mode) : Builtin :=
    Builtin.withOptions "" "" fun _ sh args =>
  match args with
  | [] => sh.withStatus 0
  | name :: _ =>
    let directories := searchDirectories ((sh.get? (bytes "PATH")).getD [])
    let found :=
      if '/' ∈ name then some name
      else (directories.map (inDirectory · name)).find? fun p =>
        (sh.files.read sh.directory p).toOption.isSome
    match found with
    | none => sh.fail (name ++ bytes ": not found")
    | some path =>
      match sh.files.read sh.directory path with
      | .error .isDirectory => sh.withStatus 0
      | .error f => sh.fail (openFault name false f)
      | .ok text =>
        let after := runText run { isTested := m.isTested } 1 text { sh with speaker := some path }
        if after.isReturning then { after with course := .onward } else after

def evalCommand (run : Interpreter) (m : Mode) : Builtin := fun sh args =>
  runText run { isTested := m.isTested } 1 ([' '].intercalate args) sh

/-- Lets a program take the place of the shell, which ends in the usual way if there is none. -/
def execCommand (run : Interpreter) (searchPath : List Char) : Builtin := fun sh args =>
  match args with
  | [] => sh.withStatus 0
  | name :: args =>
    match sh.locate searchPath name with
    | .ok _ => runProgram run true searchPath name args sh.yielding
    | .error _ => runProgram run true searchPath name args sh

/-- Calls a function. -/
def callFunction (run : Interpreter) (m : Mode) (body : Command) (args : List (List Char))
    (sh : Shell) : Shell :=
  if 1000 ≤ sh.functionDepth then
    sh.fail (bytes "Maximum function recursion depth (1000) reached")
  else
    let after := run { isTested := m.isTested } body
      { sh with
        parameters := args
        optionIndex := 1
        optionOffset := none
        functionDepth := sh.functionDepth + 1
        loops := 0 }
    { after with
      parameters := sh.parameters
      optionIndex := sh.optionIndex
      optionOffset := sh.optionOffset
      functionDepth := sh.functionDepth
      loops := sh.loops
      course := if after.isReturning then .onward else after.course }

/-- A command of the shell. -/
def internal? (run : Interpreter) (m : Mode) (searchPath name : List Char) : Option Builtin :=
  match String.ofList name with
  | "eval" => some (evalCommand run m)
  | "." => some (sourceCommand run m)
  | "exec" => some (execCommand run searchPath)
  | "command" => some commandCommand
  | "type" => some typeCommand
  | "hash" => some hashCommand
  | _ => builtin? name

/-! ### Assignments and fields -/

/-- The fields of the words of a command. -/
def expandCommand (run : Runner) (sh : Shell) (words : List Word) : List (List Char) × Shell :=
  words.foldl (fun (fields, sh) w =>
    let isDeclaration := (sh.call? fields).any sh.declares
    if !sh.goesOn then (fields, sh)
    else
      match (if isDeclaration then w.assignment? else none) with
      | some (name, value) =>
        let (cs, sh) := sh.expandValue run value
        (fields ++ [name ++ '=' :: cs], sh)
      | none =>
        let (more, sh) := sh.expand run w
        (fields ++ more, sh)) ([], sh)

/-- Assigns in order, and gives the assignments as they are shown. Local ones are exported, and hide
  what is to be put back. -/
def assignAll (run : Runner) (isLocal : Bool) (sh : Shell)
    (assignments : List (List Char × Word)) : List (List Char) × Shell :=
  assignments.foldl (fun (shown, sh) (name, w) =>
    if !sh.goesOn then (shown, sh)
    else
      let (value, sh) := sh.expandValue run w
      let assign (sh : Shell) : Shell :=
        if !isLocal then sh.assign name value
        else
          let sh := (sh.hide name).assign name value
          sh.put { sh.snapshot name with isExported := true }
      (shown ++ [name ++ '=' :: value], if sh.goesOn then assign sh else sh)) ([], sh)

/-- What stands in front of commands that are shown. -/
def traceMark (run : Interpreter) (sh : Shell) : List Char × Shell :=
  let text := (sh.get? (bytes "PS4")).getD []
  match promptOf text with
  | .error _ => (text, sh)
  | .ok w =>
    let silent := { sh with switches := Switch.turned sh.switches .tracesCommands false }
    let (mark, after) := silent.expandWhole (runner run) w
    let back := { after with switches := sh.switches, status := sh.status }
    if after.goesOn then (mark, back)
    else if after.isPaused then (text, after)
    else (text, { back with course := .onward })

/-- Shows a command before it is run, if that is asked for: where messages went before it began. -/
def trace (run : Interpreter) (before : List (Nat × Nat)) (parts : List (List Char)) (sh : Shell) :
    Shell :=
  if !sh.has .tracesCommands then sh
  else
    let (mark, sh) := traceMark run sh
    let line := mark ++ [' '].intercalate parts ++ ['\n']
    let shown := { sh with descriptors := before }.write 2 line
    { shown with descriptors := sh.descriptors }

/-! ### Simple commands -/

/-- The commands of a shell that run others, which print for themselves. -/
def runsOthers (name : List Char) : Bool := String.ofList name ∈ ["eval", ".", "exec"]

/-- Runs a command that prints what it has to print at its end, or complains if it cannot. -/
def printingLast (b : Builtin) (name : List Char) : Builtin := fun sh args =>
  let scratch := sh.channels.length
  let after := b ((sh.keeping sh.descriptors).attach 1 (.gathered [])) args
  let text := after.gathered scratch
  let after := { after with descriptors := sh.descriptors, saved := sh.saved }.dropChannels scratch
  if text.isEmpty then after
  else if (after.writeFault? 1).isNone || after.endsAtPipe 1 then after.print text
  else
    let struck := if after.writeFault? 1 = some .brokenPipe then after.receive 13 else after
    let complaining := struck.complain (name ++ bytes ": I/O error")
    if after.goesOn then complaining.withStatus (after.status ||| 1) else complaining

/-- Runs a command of the shell, which messages will speak of. Where it fails, the shell ends only
  if the command is special. -/
def runInternal (isSpecial : Bool) (b : Builtin) (isFunction : Bool) (name : List Char)
    (args : List (List Char)) (sh : Shell) : Shell :=
  let after :=
    if isFunction then b sh args
    else
      let b := if runsOthers name then b else printingLast b name
      b { sh with speaker := some name } args
  let after := { after with speaker := sh.speaker }
  if after.course = .failed && !isSpecial && !isFunction then
    { after with course := .onward }
  else after

/-- Runs something in a scope of its own, at whose end all that it has hidden is put back. Where it
  breaks off, that is left to what goes on behind it. -/
def inScope (act : Shell → Shell) (sh : Shell) : Shell :=
  let after := act { sh with hidden := [], scopes := sh.scopes + 1 }
  match after.course with
  | .failed | .exiting _ => { after with hidden := after.hidden ++ sh.hidden }
  | _ =>
    { after.hidden.foldl Shell.uncover after with hidden := sh.hidden, scopes := sh.scopes }

/-- Whether a failure of a call ends the shell. Assignments in front of such a call stay. -/
def isSpecialCall (c : Call) : Bool :=
  !c.isPlain && Parser.specialNames.contains (String.ofList c.name)

/-- Carries out a call. -/
def invoke (run : Interpreter) (m : Mode) (c : Call) (sh : Shell) : Shell :=
  let searchPath := if c.isStandard then bytes standardSearchPath else sh.searchPath
  match (if c.isPlain then none else sh.functions.lookup c.name) with
  | some body =>
    let call : Builtin := fun sh args => callFunction run m body args sh
    runInternal false call true c.name c.args sh
  | none =>
    match internal? run m searchPath c.name with
    | some b => runInternal (isSpecialCall c) b false c.name c.args sh
    | none =>
      let sh := if c.isStandard then sh else sh.track c.name
      inProcess m (runProgram run false searchPath c.name c.args) sh

def simpleCommand (run : Interpreter) (m : Mode) (line : Nat)
    (assignments : List (List Char × Word)) (words : List Word)
    (redirections : List Redirection) (sh : Shell) : Shell :=
  let (fields, sh) := expandCommand (runner run) { sh with line, substituted := none } words
  if !sh.goesOn then sh
  else
    let before := sh.descriptors
    let call? := sh.call? fields
    let isSpecial := call?.any isSpecialCall
    let saved := sh.saved
    let staysSo := redirections.isEmpty || call?.any fun c => c.name = bytes "exec"
    let undo (sh : Shell) : Shell :=
      if staysSo then sh else { sh.undo redirections before with saved }
    let act (sh : Shell) : Shell :=
      let isLocal := call?.isSome && !isSpecial
      let (shown, sh) := assignAll (runner run) isLocal sh assignments
      if !sh.goesOn then sh
      else
        let parts := shown ++ fields
        let sh := if parts.isEmpty then sh else trace run before parts sh
        match call? with
        | some c => invoke run m c sh
        | none => sh.withStatus (sh.substituted.getD 0)
    match sh.redirectAll (runner run) redirections with
    | (sh, false) =>
      let sh := sh.undo redirections before
      if !sh.goesOn then sh
      else if isSpecial then { sh with status := 2, course := .failed }
      else sh.withStatus 2
    | (sh, true) =>
      let sh := if staysSo then sh else sh.keeping before
      undo (if isSpecial || call?.isNone then act sh else inScope act sh)

end Crond.Script
