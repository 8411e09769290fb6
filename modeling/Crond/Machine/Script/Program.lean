import Crond.Machine.Script.Program.Batches
import Crond.Machine.Script.Program.Conditions
import Crond.Machine.Script.Program.Environment
import Crond.Machine.Script.Program.Finding

/-
  Programs that a shell runs in a process of their own, those among them that run other commands.
-/

namespace Crond.Script

open Text Files

/-- Runs a script as a new shell, given what it is called and its parameters. -/
def runShell (run : Interpreter) (sh : Shell) (switches : List Switch) (name : List Char)
    (parameters : List (List Char)) (text : List Char) : Shell :=
  runner run 1 text { (sh.fresh name).equipped with switches, parameters }

/-- The program `sh`: it runs its first operand as a script if there is the option `c`, otherwise
  the file that it names, or what there is to read. Until it has begun it tells of every switch that
  it is on. -/
def shellProgram (run : Interpreter) (called : List Char) (args : List (List Char)) (sh : Shell) :
    Shell :=
  let (requests, operands) := SwitchRequest.ofArguments (args.length + 1) args
  let operands := operands.getD []
  let switches := requests.foldl (fun on r =>
    match r with
    | .turn s isOn => Switch.turned on s isOn
    | _ => on) []
  let sound := requests.takeWhile fun r => r.fault?.isNone
  let told := sound.foldl (fun (sh : Shell) r =>
    let all := Switch.all.map (·.1)
    match r with
    | .tell true =>
      Builtin.printLines sh (bytes "Current option settings" :: Switch.table all)
    | .tell false => Builtin.printLines sh (Switch.commands all)
    | _ => sh) sh
  let fail (message : List Char) : Shell :=
    (told.write 2 (called ++ bytes ": 0: " ++ message ++ ['\n'])).exiting (.code 2)
  match requests.findSome? SwitchRequest.fault? with
  | some message => fail message
  | none =>
    if .command ∈ requests then
      match operands with
      | [] => fail (bytes "-c requires an argument")
      | text :: [] => runShell run sh switches called [] text
      | text :: name :: parameters => runShell run sh switches name parameters text
    else
      match (if Switch.readsInput ∈ switches then [] else operands) with
      | [] =>
        let (text, sh) := sh.readAll 0
        runShell run sh (Switch.turned switches .readsInput true) called operands text
      | file :: parameters =>
        match sh.files.read sh.directory file with
        | .ok text => runShell run sh switches file parameters text
        | .error _ => fail (bytes "cannot open " ++ file ++ bytes ": No such file")

/-- The program `which`: tells where programs are. -/
def whichProgram : Builtin := fun sh args =>
  let s := ({ letters := "as", isMixed := false } : OptionTable).read args
  let hasAll := givenIn s.options "a"
  let isFile (path : Name) : Bool := (sh.files.runnable sh.directory path).toOption.isSome
  let searchPath := (sh.get? (bytes "PATH")).getD (bytes standardSearchPath)
  let found (name : Name) : List Name :=
    if '/' ∈ name then [name].filter isFile
    else
      let paths := ((searchDirectories searchPath).map fun d =>
        inDirectory (if d.isEmpty then ['.'] else d) name).filter isFile
      if hasAll then paths else paths.take 1
  if s.fault?.isSome then
    let letter := (args.flatMap fun a =>
      if a.head? = some '-' then a.tail.filter fun c => c ≠ 'a' && c ≠ 's' else []).take 1
    let sh := sh.write 2 (bytes "Illegal option -" ++ letter ++ ['\n'])
    (sh.printLine (bytes "Usage: /usr/bin/which [-as] args")).withStatus 2
  else
    let all := s.operands.map found
    let lines := if givenIn s.options "s" then [] else all.flatten
    let isMet := !all.isEmpty && all.all fun paths => !paths.isEmpty
    (Builtin.printLines sh lines).withStatus (if isMet then 0 else 1)

/-! ### All programs -/

/-- The status with which a program ends that cannot write. -/
def blockedStatus (program : List Char) : Nat :=
  match String.ofList program with
  | "ls" | "sort" | "grep" => 2
  | "expr" => 3
  | "sed" => 4
  | "env" => 125
  | _ => 1

/-- Runs a program that runs no other, and complains if it cannot print what it has to. -/
def printingAll (u : Builtin) (program called : List Char) (args : List (List Char))
    (sh : Shell) : Shell :=
  let sh := { sh with speaker := some called }
  match (sh.writeFault? 1).filter fun _ => !sh.endsAtPipe 1 && program ≠ bytes "tee" with
  | none => u sh args
  | some fault =>
    let complain (sh : Shell) (what : String) : Shell :=
      Utility.complain sh (String.ofList program) (bytes (what ++ ": " ++ fault.text))
        (blockedStatus program)
    if program = bytes "cat" && (sh.channel? 1).isNone then complain sh "standard output"
    else
      let after := u (sh.attach 1 (.gathered [])) args
      if (after.gathered sh.channels.length).isEmpty then after else complain after "write error"

/-- Runs a program of the system. -/
def systemProgram (run : Interpreter) (program called : List Char) (args : List (List Char))
    (sh : Shell) : Shell :=
  match String.ofList program with
  | "sh" | "dash" | "bash" => shellProgram run called args sh
  | "env" => environmentProgram run args sh
  | "timeout" => timeoutProgram run sh args
  | "xargs" => Utility.batches run sh args
  | "find" => Finding.program run sh args
  | "which" => whichProgram sh args
  | "nohup" => unendingProgram run sh args
  | "nice" => niceProgram run sh args
  | _ =>
    match utility? program with
    | some u => printingAll u program called args sh
    | none => sh.withStatus 127

/-- Runs a file as a program: its first line may name a program that it is given to, with all that
  stands behind the name as one argument. -/
def runFile (run : Interpreter) (path : Name) (args : List (List Char)) (text : List Char)
    (sh : Shell) : Shell :=
  match text with
  | '#' :: '!' :: rest =>
    let isBlank (c : Char) : Bool := c = ' ' || c = '\t'
    let line := (rest.takeWhile (· ≠ '\n')).dropWhile isBlank
    let (interpreter, argument) := (line.reverse.dropWhile isBlank).reverse.span (!isBlank ·)
    let argument := argument.dropWhile isBlank
    if interpreter.isEmpty then runShell run sh [] path args text
    else
      let message (_ : Name) (f : PathFault) : List Char :=
        sh.messageHead ++ path ++ bytes (": " ++ (faultOf f).1)
      let words := interpreter :: (if argument.isEmpty then [] else [argument])
      runInstead run message (words ++ path :: args) sh
  | _ => runShell run sh [] path args text

/-- Runs a program in the process of a shell, which it takes over, after a search. A search that
  fails says so by its status, whatever it has found. -/
def runProgram (run : Interpreter) (isExec : Bool) (searchPath name : List Char)
    (args : List (List Char)) (sh : Shell) : Shell :=
  match sh.locate searchPath name with
  | .error f =>
    let (message, status) := faultOf f
    let isSearched := '/' ∉ name && !isExec
    (sh.complain (name ++ bytes (": " ++ message))).exiting
      (.code (if isSearched then 127 else status))
  | .ok p =>
    let seen := sh.bindings.filter Variable.isExported
    let sh := { sh.yielding with speaker := none, bindings := seen }.spend Shell.timeToLoad
    let after :=
      match sh.files.node? p with
      | some (.file text) =>
        let path := if '/' ∈ name then name else (sh.searchedIn? searchPath name).getD name
        runFile run path args text sh
      | _ => systemProgram run (p.getLastD []) name args sh
    after.exiting after.exit

end Crond.Script
