import Crond.Machine.Script.Launch

/-
  Programs that run a command under conditions: `timeout` with a limit of time, `nice` with another
  priority, and `nohup` so that the end of a session does not end it.
-/

namespace Crond.Script

open Text Files

/-- How some programs tell that they cannot run a command. -/
def unrunnableWord (program : String) (name : Name) (f : PathFault) : List Char :=
  bytes program ++ ':' :: ' ' :: Utility.inEscapes name ++ bytes (": " ++ f.text)

/-! ### Limits of time -/

def timeoutTable : OptionTable where
  letters := "k:s:v"
  names := [("foreground", ""), ("kill-after", "k"), ("preserve-status", ""), ("signal", "s"),
    ("verbose", "v")]
  isMixed := false

/-- A command that is run for a limited time. -/
structure Limited where
  process : Nat
  command : Name
  /-- The signal that it gets when the time has gone by. -/
  signal : Nat
  /-- How long it can go on after that, in microseconds. -/
  grace : Option Nat
  /-- Whether what the command has started is spared. -/
  isAlone : Bool
  tells : Bool
  keepsStatus : Bool

namespace Limited

/-- Sends a signal to the command, and to what it has started. -/
def strike (l : Limited) (signal : Nat) (sh : Shell) : Shell :=
  let name := ((signalName? signal).map bytes).getD (numeral signal)
  let sh := if l.tells then
      Utility.complain sh "timeout" (bytes "sending signal " ++ name ++ bytes " to command " ++
        Utility.inQuotes l.command) 0
    else sh
  let group := if l.isAlone then [l.process] else sh.peers.filter fun p => l.process ≤ p
  group.foldl (fun (sh : Shell) p => if signal = 0 then sh else sh.post p signal) sh

/-- Waits for the end of the command, for a while if that is said. -/
def wait (l : Limited) (time : Option Nat) (sh : Shell) : Shell × Option Exit :=
  let after := sh.await (.ends [l.process] (time.map (sh.clock + ·))) false
  (after, after.ended.lookup l.process)

/-- Ends as it has to be told of a command that has been struck. -/
def conclude (l : Limited) (e : Exit) (sh : Shell) : Shell :=
  let keeps := l.keepsStatus || e = .signal 9
  sh.exiting (.code (if keeps then e.status else 124))

/-- Strikes for the last time, with a signal that nothing survives. -/
def finish (l : Limited) (sh : Shell) : Shell :=
  let (sh, e) := l.wait none (l.strike 9 sh)
  if l.isAlone then l.conclude (e.getD (.signal 9)) sh else sh.exiting (.signal 9)

/-- Runs the command until its time has gone by. -/
def watch (l : Limited) (time : Option Nat) (sh : Shell) : Shell :=
  match l.wait time sh with
  | (sh, some e) => sh.exiting e
  | (sh, none) =>
    if l.signal = 9 then l.finish sh
    else
      match l.wait l.grace (l.strike l.signal sh) with
      | (sh, some e) => l.conclude e sh
      | (sh, none) => l.finish sh

end Limited

/-- The program `timeout`: a command that takes longer than it may is ended. -/
def timeoutProgram (run : Interpreter) : Builtin :=
  let badTime (v : List Char) : List Char := bytes "invalid time interval " ++ Utility.inEscapes v
  let fault? (sh : Shell) (o : GivenOption) : Option (List Char) :=
    match o.key, o.value with
    | "k", some v =>
      if (Utility.durationOf? v).isSome then none
      else some (badTime v ++ Utility.hint sh "timeout")
    | "s", some v =>
      if (namedSignal? v).isSome then none
      else some (Utility.inEscapes v ++ bytes ": invalid signal" ++ Utility.hint sh "timeout")
    | _, _ => none
  Utility.withOptions "timeout" 125 timeoutTable fault? fun os sh args =>
    match args with
    | limit :: words@(command :: _) =>
      match Utility.durationOf? limit with
      | none => Utility.misused sh "timeout" (badTime limit) 125
      | some millis =>
        let child := sh.fork
        let signal := ((lastValue? os "s").bind namedSignal?).getD 15
        let grace := (lastValue? os "k").bind Utility.durationOf?
        let l : Limited :=
          { process := child.self
            command
            signal
            grace := (grace.filter (· ≠ 0)).map (1000 * ·)
            isAlone := givenIn os "foreground"
            tells := givenIn os "v"
            keepsStatus := givenIn os "preserve-status" }
        let heard := [1, 2, 3, 14, 15, signal]
        let child := { child with
          traps := child.traps.filter fun t => !heard.contains t.1
          deaf := child.deaf.filter fun n => !heard.contains n }
        l.watch (if millis = 0 then none else some (1000 * millis))
          (sh.enlist child fun sh => finish run (runInstead run (unrunnable "timeout") words sh))
    | _ => (sh.write 2 ((Utility.hint sh "timeout").drop 1 ++ ['\n'])).exiting (.code 125)

/-! ### Priorities -/

/-- A change of priority, within what there is. -/
def adjustment? (cs : List Char) : Option Int :=
  let bare := cs.dropWhile isSpace
  let (isNegative, ds) := match bare with
    | '-' :: ds => (true, ds)
    | '+' :: ds => (false, ds)
    | ds => (false, ds)
  if ds.isEmpty || !ds.all Char.isDigit then none
  else
    let n : Int := min 39 (digitsValue 10 ds)
    some (if isNegative then -n else n)

/-- The words of `nice` with numbers in front of the command as options of the usual form. -/
def spelledOut : List (List Char) → List (List Char)
  | [] => []
  | a :: args =>
    let isNumber := match a with
      | '-' :: c :: cs => (if c = '-' || c = '+' then cs.headD 'x' else c).isDigit
      | _ => false
    if isNumber then ['-', 'n'] :: a.tail :: spelledOut args
    else if a = ['-', 'n'] then
      match args with
      | v :: args => a :: v :: spelledOut args
      | [] => [a]
    else if a.head? = some '-' && a ≠ ['-'] && a ≠ ['-', '-'] then a :: spelledOut args
    else a :: args

def niceTable : OptionTable where
  letters := "n:"
  names := [("adjustment", "n")]
  isMixed := false

/-- The program `nice`: a command runs with another priority. -/
def niceProgram (run : Interpreter) : Builtin := fun sh args =>
  Utility.withOptions "nice" 125 niceTable Utility.faultless (fun os sh words =>
    match words, lastValue? os "n" with
    | [], none => (sh.printLine (signedNumeral sh.niceness)).withStatus 0
    | [], some _ =>
      Utility.misused sh "nice" (bytes "a command must be given with an adjustment") 125
    | words, given =>
      match adjustment? (given.getD ['1', '0']) with
      | none =>
        Utility.complain sh "nice"
          (bytes "invalid adjustment " ++ Utility.inEscapes (given.getD [])) 125
      | some n =>
        runInstead run (unrunnableWord "nice") words
          { sh with niceness := max (-20) (min 19 (sh.niceness + n)) }) sh (spelledOut args)

/-! ### Sessions -/

/-- The program `nohup`: a command goes on when the session ends. -/
def unendingProgram (run : Interpreter) : Builtin :=
  Utility.withOptions "nohup" 125 { letters := "", isMixed := false } Utility.faultless
    fun _ sh words =>
      if words.isEmpty then
        (Utility.missingOperand sh "nohup" (bytes "operand")).withStatus 125
      else
        runInstead run (unrunnable "nohup") words
          { sh with
            traps := sh.traps.filter fun t => t.1 ≠ 1
            deaf := 1 :: sh.deaf }

end Crond.Script
