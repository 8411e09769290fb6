import Crond.Machine.Script.Builtin.Basic

/-
  The commands of a shell that leave it or deal with processes: signals, traps and jobs.
-/

namespace Crond.Script

open Text

namespace Builtin

/-! ### Leaving -/

def exit : Builtin := fun sh args =>
  match args with
  | [] => sh.exiting (.code (sh.savedStatus.getD sh.status % 256))
  | n :: _ => withNumber sh n fun n => sh.exiting (.code (n % 256))

def giveBack : Builtin := fun sh args =>
  match args with
  | [] => { sh with course := .returning false }
  | n :: _ => withNumber sh n fun n => { sh with status := n, course := .returning true }

/-- Leaves loops, or goes on to the next round of one. -/
def leave (course : Nat → Course) : Builtin := fun sh args =>
  let loops (n : Nat) : Shell :=
    if sh.loops = 0 then sh.withStatus 0
    else { sh with status := 0, course := course (min n sh.loops) }
  match args with
  | [] => loops 1
  | n :: _ =>
    withNumber sh n fun m =>
      if m = 0 then sh.fail (bytes "Illegal number: " ++ n) else loops m

/-! ### Signals -/

/-- The name of a signal, which is its number where it has none. -/
def signalName (n : Nat) : List Char :=
  if n = 0 then "EXIT".toList
  else if n = 16 then numeral n
  else
    match signalName? n with
    | some name => name.toList
    | none =>
      if n < 34 then numeral n
      else if n = 34 then "RTMIN".toList
      else if n < 50 then "RTMIN+".toList ++ numeral (n - 34)
      else if n < lastSignal then "RTMAX-".toList ++ numeral (lastSignal - n)
      else "RTMAX".toList

/-- The signal that a number or a name means. The number zero is none, or the end of a shell. -/
def signalOf? (cs : List Char) : Option Nat :=
  match natural? cs with
  | some n => if n ≤ lastSignal then some n else none
  | none =>
    ((List.range lastSignal).map (· + 1)).find? fun n => lower (signalName n) = lower cs

def trapSignal? (cs : List Char) : Option Nat :=
  if lower cs = "exit".toList then some 0 else signalOf? cs

/-- The job that a text with a percent sign in front means. -/
def jobOf? (sh : Shell) (cs : List Char) : Option Job :=
  if cs.isEmpty || cs = ['%'] || cs = ['+'] then sh.jobs.getLast?
  else if cs = ['-'] then sh.jobs.dropLast.getLast?
  else (natural? cs).bind fun n => sh.jobs.find? fun j => j.number = n

/-- Goes on with the job that a text behind a percent sign means, or fails. -/
def withJob (sh : Shell) (cs : List Char) (k : Job → Shell) : Shell :=
  match jobOf? sh cs with
  | some j => k j
  | none => sh.fail (bytes "No such job: %" ++ cs)

/-- Sends a signal to a process; the flag tells whether there is one. -/
def send (sh : Shell) (n process : Nat) : Shell × Bool :=
  if process = sh.self || process = 0 then (if n = 0 then sh else sh.receive n, true)
  else if process ∈ sh.peers then (if n = 0 then sh else sh.post process n, true)
  else (sh, sh.jobs.any fun j => process ∈ j.processes && j.exit?.isNone)

def usageOfKill : String :=
  "Usage: kill [-s sigspec | -signum | -sigspec] [pid | job]... or\nkill -l [exitstatus]"

/-- Sends a signal to processes. Jobs have no groups of their own that it could reach. -/
def sendAll (sh : Shell) (n : Nat) (processes : List (List Char)) : Shell :=
  let miss (sh : Shell) : Shell := (sh.complain (bytes "No such process\n")).withStatus 1
  if processes.isEmpty then sh.fail (bytes usageOfKill)
  else
    each (sh.withStatus 0) processes fun sh p =>
      match p with
      | '%' :: rest => withJob sh rest fun _ => miss sh
      | p =>
        withNumber sh (if p.head? = some '-' then p.tail else p) fun process =>
          match send sh n process with
          | (sh, true) => sh
          | (sh, false) => miss sh

def listSignals (sh : Shell) (args : List (List Char)) : Shell :=
  match args with
  | [] =>
    let names := (List.range lastSignal).map fun n => signalName (n + 1)
    ((['0'] :: names).foldl Shell.printLine sh).withStatus 0
  | n :: _ =>
    if n.head? = some '-' then sh.fail (bytes "Illegal option -" ++ (n.drop 1).take 1)
    else
      withNumber sh n fun n =>
        let signal := if 128 < n then n - 128 else n
        if 0 < signal && signal ≤ lastSignal then
          (sh.printLine (signalName signal)).withStatus 0
        else sh.fail (bytes "invalid signal number or exit status: " ++ numeral n)

def kill : Builtin := fun sh args =>
  match args with
  | ['-', 'l'] :: rest => listSignals sh rest
  | [['-', 's']] => sh.fail (bytes "No arg for -s option")
  | ['-', 's'] :: name :: processes =>
    match signalOf? name with
    | some n => sendAll sh n processes
    | none => sh.fail (bytes "invalid signal number or name: " ++ name)
  | ['-', '-'] :: processes => sendAll sh 15 processes
  | ('-' :: name) :: processes =>
    match signalOf? name with
    | some n => sendAll sh n processes
    | none => sh.fail (bytes "Illegal option -" ++ name.take 1)
  | processes => sendAll sh 15 processes

def setTrap (action : Option (List Char)) (sh : Shell) (n : Nat) : Shell :=
  let others := sh.traps.filter fun t => t.1 ≠ n
  match action with
  | none | some ['-'] => { sh with traps := others }
  | some cs => { sh with traps := others ++ [(n, cs)] }

def trap : Builtin := withOptions "" "" fun _ sh args =>
  let rec setAll (action : Option (List Char)) (sh : Shell) : List (List Char) → Shell
    | [] => sh.withStatus 0
    | name :: names =>
      match trapSignal? name with
      | some n => setAll action (setTrap action sh n) names
      | none => (sh.write 2 (bytes "trap: " ++ name ++ bytes ": bad trap\n")).withStatus 1
  match args with
  | [] =>
    let traps := sh.traps.mergeSort fun a b => a.1 ≤ b.1
    (traps.foldl (fun (sh : Shell) t =>
      sh.printLine (bytes "trap -- " ++ singleQuoted t.2 ++ ' ' :: signalName t.1)) sh).withStatus 0
  | [name] => setAll none sh [name]
  | action :: names =>
    if (natural? action).isSome then setAll none sh args else setAll (some action) sh names

/-! ### Jobs -/

/-- Waits until processes have ended, unless a signal comes that has a trap. -/
def waitFor (sh : Shell) (processes : List Nat) (k : Shell → Shell) : Shell :=
  let after := sh.await (.ends processes none) true
  if processes.all fun p => (after.ended.lookup p).isSome then k after.seeEnds
  else after.withStatus (128 + after.signals.headD 0)

/-- Notes that the end of jobs has been told. -/
def told (sh : Shell) (isMeant : Job → Bool) : Shell :=
  { sh with jobs := sh.jobs.map fun j => if isMeant j then { j with isWaited := true } else j }

/-- Waits for jobs, and tells how the last of them ended. -/
def wait : Builtin := withOptions "" "" fun _ sh args =>
  let waitForJob (sh : Shell) (j : Job) : Shell :=
    waitFor sh j.processes fun sh =>
      let sh := told sh fun k => k.number = j.number
      let exits := j.processes.filterMap fun p => sh.ended.lookup p
      if j.exit?.isSome then sh.withStatus (exits.getLast?.map Exit.status |>.getD 0)
      else exits.foldl Shell.reap sh
  match args with
  | [] =>
    waitFor sh (sh.jobs.flatMap Job.processes) fun sh => (told sh fun _ => true).withStatus 0
  | args =>
    each sh args fun sh arg =>
      match arg with
      | '%' :: rest => withJob sh rest (waitForJob sh)
      | arg =>
        withNumber sh arg fun process =>
          match sh.jobs.reverse.find? fun j => j.process = process with
          | none => sh.withStatus 127
          | some j => waitForJob sh j

/-- Fails unless every argument means a job. -/
def withJobs (sh : Shell) (args : List (List Char)) (k : Shell → Shell) : Shell :=
  let named (arg : List Char) : List Char := if arg.head? = some '%' then arg.tail else arg
  match args.find? fun arg => (jobOf? sh (named arg)).isNone with
  | some arg => sh.fail (bytes "No such job: " ++ arg)
  | none => k sh

/-- How a job stands, in words. -/
def standing (j : Job) : List Char :=
  match j.exit? with
  | none => bytes "Running"
  | some (.code 0) => bytes "Done"
  | some (.code n) => bytes "Done(" ++ numeral n ++ [')']
  | some (.signal n) => bytes (noticeOf n)

/-- The line that tells about a job, or the lines with its processes. -/
def jobLine (sh : Shell) (tellsProcesses : Bool) (j : Job) : List Char :=
  let isMeant (k : Option Job) : Bool := k.any fun k => k.number = j.number
  let mark :=
    if isMeant sh.jobs.getLast? then '+'
    else if isMeant sh.jobs.dropLast.getLast? then '-' else ' '
  let number (p : Nat) : List Char := if tellsProcesses then numeral p ++ [' '] else []
  let head := '[' :: numeral j.number ++ [']', ' ', mark, ' ']
  let wide (cs : List Char) : List Char := cs ++ List.replicate (33 - cs.length) ' '
  let further := j.processes.tail.map fun p =>
    if tellsProcesses then
      wide ([' ', '|', '\n'] ++ List.replicate head.length ' ' ++ numeral p)
    else bytes " | "
  wide (head ++ number (j.processes.headD 0) ++ standing j) ++ further.flatten ++ ['\n']

/-- Lists jobs. Those that have ended are forgotten then. -/
def listJobs : Builtin := withOptions "lp" "" fun options sh args =>
  withJobs sh args fun sh =>
    let sh := sh.seeEnds
    let named (arg : List Char) : List Char := if arg.head? = some '%' then arg.tail else arg
    let meant :=
      if args.isEmpty then sh.jobs.reverse else args.filterMap fun arg => jobOf? sh (named arg)
    match options.getLast? with
    | some ('p', _) =>
      (printLines sh (meant.map fun j => numeral (j.processes.headD 0))).withStatus 0
    | option =>
      let forget (j : Job) (sh : Shell) : Shell :=
        { sh with jobs := sh.jobs.filter fun k => k.number ≠ j.number }
      meant.foldl (fun (sh : Shell) j =>
        let after := sh.print (jobLine sh option.isSome j)
        if j.exit?.isNone then after else forget j after) (sh.withStatus 0)

/-- Moves a job to the foreground or the background, which only a shell with a terminal can do. -/
def moveJob : Builtin := withOptions "" "" fun _ sh args =>
  if args.isEmpty && sh.jobs.isEmpty then sh.fail (bytes "No current job")
  else
    withJobs sh args fun sh =>
      let name := args.headD (bytes "(null)")
      sh.fail (bytes "job " ++ name ++ bytes " not created under job control")

/-- The processor time that has been used: none, as far as can be told. -/
def times : Builtin := fun sh _ =>
  let line := bytes "0m0.000000s 0m0.000000s"
  (printLines sh [line, line]).withStatus 0

/-- The limits on what processes use: there are none. -/
def limits : Builtin := withOptions "HSatfdscmlpnvwr" "" fun _ sh args =>
  match args with
  | [] => (sh.printLine (bytes "unlimited")).withStatus 0
  | _ => sh.withStatus 0

end Builtin

end Crond.Script
