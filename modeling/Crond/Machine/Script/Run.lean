import Crond.Machine.Script.Invocation

/-
  Running a shell script.

  What a command does is defined on top of an interpreter for the commands inside of it; the
  interpreter itself is tied together at the end, with a bound on how deeply commands are nested.
-/

namespace Crond.Script

open Text Files

/-! ### Loops and choices -/

/-- Whether a loop ends behind a round, and the shell in which that has been seen to. -/
def endRound (sh : Shell) : Bool × Shell :=
  match sh.course with
  | .onward => (false, sh)
  | .leaving n =>
    (true, { sh with course := if n ≤ 1 then .onward else .leaving (n - 1) })
  | .repeating n =>
    if n ≤ 1 then (false, { sh with course := .onward })
    else (true, { sh with course := .repeating (n - 1) })
  | _ => (true, sh)

/-- How long a round of a loop takes at least, in microseconds. -/
def timeOfRound : Nat := 10

/-- Repeats a body while a test holds. The number bounds the rounds; the status is that of the last
  round. -/
def rounds (test body : Shell → Shell) (whileSucceeds : Bool) : Nat → Nat → Shell → Shell
  | 0, status, sh => sh.withStatus status
  | n + 1, status, sh =>
    let tested := test sh
    if tested.goesOn then
      if (tested.status = 0) = whileSucceeds then
        match endRound ((body tested).spend timeOfRound) with
        | (true, sh) => sh
        | (false, sh) => rounds test body whileSucceeds n sh.status sh
      else tested.withStatus status
    else
      match endRound tested with
      | (true, sh) => sh
      | (false, sh) => rounds test body whileSucceeds n sh.status sh

/-- Runs a body for every one of some values. -/
def forAll (body : Shell → Shell) (name : List Char) : List (List Char) → Shell → Shell
  | [], sh => sh
  | v :: vs, sh =>
    let sh := sh.assign name v
    if !sh.goesOn then sh
    else
      match endRound (body sh) with
      | (true, sh) => sh
      | (false, sh) => forAll body name vs sh

/-- Runs something as a loop in which there can be more loops. -/
def inLoop (loop : Shell → Shell) (sh : Shell) : Shell :=
  { loop { sh with loops := sh.loops + 1 } with loops := sh.loops }

/-- Whether a text fits one of some patterns. -/
def fitsAny (run : Runner) (text : List Char) : List Word → Shell → Bool × Shell
  | [], sh => (false, sh)
  | w :: ws, sh =>
    let (ps, sh) := sh.expandPattern run w
    if !sh.goesOn then (false, sh)
    else if Glob.fits ps text then (true, sh)
    else fitsAny run text ws sh

/-- Runs the first of some cases that a text fits. -/
def choose (run : Interpreter) (m : Mode) (text : List Char) :
    List (List Word × Command) → Shell → Shell
  | [], sh => sh.withStatus 0
  | (patterns, body) :: rest, sh =>
    match fitsAny (runner run) text patterns sh with
    | (true, sh) => run m body sh
    | (false, sh) => if sh.goesOn then choose run m text rest sh else sh

/-! ### Pipelines and jobs -/

/-- Looks up the program that a stage of a pipeline names. -/
def trackStage (sh : Shell) : Command → Shell
  | .simple _ _ ([.text _ name] :: _) _ => if isName name then sh.track name else sh
  | _ => sh

/-- A new process that reads from a channel, if one is given. -/
def stageOf (input : Option Nat) (sh : Shell) : Shell :=
  match input with
  | some n => sh.fork.lead 0 n
  | none => sh.fork

/-- Lets a stage of a pipeline begin beside the shell. If another one follows, its output goes into
  a new pipe. Its number is given, and the channel that the next one reads from. -/
def beginStage (run : Interpreter) (m : Mode) (isFollowed : Bool) (c : Command) (child sh : Shell) :
    Nat × Nat × Shell :=
  let pipe := child.channels.length
  let piped := { child with channels := child.channels ++ [Channel.source {}, .sink] }
  let child := if isFollowed then piped.lead 1 (pipe + 1) else child
  let act (sh : Shell) : Shell := finish run (run { m with isFinal := true } c sh)
  (child.self, pipe, sh.enlist child act)

/-- Runs the stages of a pipeline, each in a process of its own. All but the last go on beside the
  shell: their numbers are given, and the channel that the next one reads from if there is one. -/
def runStages (run : Interpreter) (m : Mode) :
    List Nat → Option Nat → List Command → Shell → Shell
  | _, _, [], sh => sh
  | processes, input, [c], sh =>
    let sh := trackStage sh c
    let child := (stageOf input sh).spend Shell.timeToBegin
    let ended := finish run (run { m with isFinal := true } c child)
    let joined := (sh.rejoin ended).await (.ends processes none) false
    let exits := processes.filterMap fun p => joined.ended.lookup p
    (exits ++ [ended.exit]).foldl Shell.reap joined
  | processes, input, c :: cs, sh =>
    let sh := trackStage sh c
    let (process, pipe, sh) := beginStage run m true c (stageOf input sh) sh
    runStages run m (processes ++ [process]) (some pipe) cs sh

/-- Runs a pipeline, and takes its pipes away behind it. -/
def runPipeline (run : Interpreter) (m : Mode) (stages : List Command) (sh : Shell) : Shell :=
  let after := runStages run { isTested := m.isTested } [] none stages sh.makePlace
  if after.isPaused then after else after.dropChannels sh.channels.length

/-- Starts stages of a pipeline in the background, behind those with some numbers. Nothing is read
  from the input of the shell, and the signals of a keyboard are ignored. -/
def beginStages (run : Interpreter) :
    List Nat → Option Nat → List Command → Shell → List Nat × Shell
  | processes, _, [], sh => (processes, sh)
  | processes, input, c :: cs, sh =>
    let child := stageOf input sh
    let child := if input.isNone then child.attach 0 .null else child
    let child := { child with deaf := 2 :: 3 :: child.deaf }
    let (process, pipe, sh) := beginStage run {} (!cs.isEmpty) c child sh
    beginStages run (processes ++ [process]) (some pipe) cs sh

/-- Starts a command in the background. -/
def runInBackground (run : Interpreter) (c : Command) (sh : Shell) : Shell :=
  let stages := match c with
    | .pipeline stages => stages
    | c => [c]
  let sh := sh.makePlace
  let (processes, begun) := beginStages run [] none stages sh
  { begun with
    lastJob := processes.getLast?
    jobs := begun.jobs ++ [{ number := sh.firstPlace, processes }]
    status := 0 }

/-! ### All commands -/

/-- Ends the shell where a command has failed and nothing looks at its failure, if the shell is to
  do so. -/
def checkFailure (m : Mode) (sh : Shell) : Shell :=
  if sh.goesOn && sh.has .exitsOnFailure && !m.isTested && sh.status ≠ 0 then
    sh.exiting (.code sh.status)
  else sh

/-- What a command does, on top of an interpreter for the commands inside of it. -/
def perform (run : Interpreter) (m : Mode) (c : Command) (sh : Shell) : Shell :=
  let tested : Mode := { isTested := true }
  let inside : Mode := { isTested := m.isTested }
  match c with
  | .nothing => sh.withStatus 0
  | .simple line assignments words redirections =>
    checkFailure m (simpleCommand run m line assignments words redirections sh)
  | .pipeline stages => checkFailure m (runPipeline run m stages sh)
  | .negation c =>
    let sh := run tested c sh
    if sh.goesOn then sh.withStatus (if sh.status = 0 then 1 else 0) else sh
  | .sequence a b =>
    let sh := run inside a sh
    if sh.goesOn then run m b sh else sh
  | .both a b =>
    let sh := run tested a sh
    if sh.goesOn && sh.status = 0 then run m b sh else sh
  | .either a b =>
    let sh := run tested a sh
    if sh.goesOn && sh.status ≠ 0 then run m b sh else sh
  | .background c => runInBackground run c sh
  | .subshell line c redirections =>
    let sh := { sh with line }
    let act (sh : Shell) : Shell :=
      finish run (match sh.redirectAll (runner run) redirections with
        | (child, true) => run { isTested := m.isTested, isFinal := true } c child
        | (child, false) => child.exiting (.code 2))
    checkFailure m (inProcess m act sh)
  | .redirected line c redirections =>
    match { sh with line }.redirectAll (runner run) redirections with
    | (redirected, true) =>
      let after := run inside c (redirected.keeping sh.descriptors)
      { after.undo redirections sh.descriptors with saved := sh.saved }
    | (redirected, false) =>
      let restored := redirected.undo redirections sh.descriptors
      if restored.goesOn then checkFailure m (restored.withStatus 2) else restored
  | .conditional test yes no =>
    let sh := run tested test sh
    if !sh.goesOn then sh else if sh.status = 0 then run m yes sh else run m no sh
  | .loop whileSucceeds test body =>
    inLoop (rounds (run tested test) (run inside body) whileSucceeds 1000000 0) sh
  | .forEach line name words body =>
    let (values, sh) := match words with
      | none => (sh.parameters, sh)
      | some ws => { sh with line }.expandAll (runner run) ws
    if sh.goesOn then inLoop (forAll (run inside body) name values) (sh.withStatus 0) else sh
  | .choice line subject cases =>
    let (text, sh) := { sh with line }.expandWhole (runner run) subject
    if sh.goesOn then choose run m text cases sh else sh
  | .definition name body =>
    { sh with
      functions := (name, body) :: sh.functions.filter fun f => f.1 ≠ name
      status := 0 }

/-- Runs a command, and behind it the traps of the signals that have come. The number bounds how
  deeply commands are nested. -/
def interpret : Nat → Interpreter
  | 0, _, _, sh => sh.exiting (.code 2)
  | n + 1, m, c, sh =>
    if sh.goesOn && !(sh.has .runsNothing) then
      runTraps (interpret n) (perform (interpret n) m c sh)
    else sh

/-! ### Scripts -/

/-- What came of a script: what it wrote, how it ended, and the files it left. -/
structure Result where
  out : List Char
  err : List Char
  exit : Exit
  files : Tree

/-- How long the processes go on at most that a script leaves in the background. -/
def timeToRest : Nat := 10000000

/-- Runs the program `sh` with a script as an argument, under an environment, in a directory among
  files. A script that begins with a dash is taken for further options. -/
def run (script : String) (environment : List (String × String)) (files : Tree)
    (directory : Place) : Result :=
  let bindings := environment.filterMap fun v =>
    if isName (bytes v.1) then
      some { name := bytes v.1, value := some (bytes v.2), isExported := true : Variable }
    else none
  let sh : Shell := { bindings, files, directory }
  let after := shellProgram (interpret 100000) (bytes "sh") [bytes "-c", bytes script] sh
  let ended := { after with self := 0 }.spend timeToRest
  { out := ended.gathered 1, err := ended.gathered 2, exit := ended.exit, files := ended.files }

end Crond.Script
