import Crond.Machine.Script.Expansion

/-
  Running scripts on top of an interpreter for single commands, and what happens around a command:
  signals, traps, and the end of a process.
-/

namespace Crond.Script

open Text

/-- The circumstances of a command: whether something else looks at its failure, and whether it is
  the last one of its shell, so that it need not be given a process of its own. -/
structure Mode where
  isTested : Bool := false
  isFinal : Bool := false
  deriving DecidableEq, Repr

abbrev Interpreter := Mode → Command → Shell → Shell

/-! ### Scripts and shells -/

/-- Runs a script from a place on. The number bounds the commands to go, and the flag tells whether
  there have been any. -/
def runFrom (run : Interpreter) (m : Mode) : Nat → Bool → Cursor → Shell → Shell
  | 0, _, _, sh => sh
  | n + 1, hasRun, c, sh =>
    if !sh.goesOn then sh
    else
      match nextCommand { c with aliases := sh.aliases } with
      | .error e =>
        { sh with line := e.line }.fail
          (bytes ("Syntax error: " ++ e.fault.text))
      | .ok r =>
        match r.command with
        | none => if hasRun then sh else sh.withStatus 0
        | some .nothing => runFrom run m n hasRun r.cursor sh
        | some command =>
          runFrom run m n true r.cursor
            (run { m with isFinal := m.isFinal && r.isLast } command
              { sh with reach := r.cursor.line })

/-- Runs commands that begin in a line. -/
def runText (run : Interpreter) (m : Mode) (line : Nat) (text : List Char) (sh : Shell) : Shell :=
  let after := runFrom run m (text.length + 1) false { rest := text, line } sh
  { after with line := sh.line, reach := sh.reach }

/-- Ends a shell: what is set to run at its end runs, unless a signal ended it, and does not change
  how it ends, unless it ends the shell itself. -/
def finish (run : Interpreter) (sh : Shell) : Shell :=
  let e := sh.exit
  match e, sh.traps.lookup 0 with
  | .code _, some (c :: cs) =>
    if sh.isPaused then sh else
    let traps := sh.traps.filter fun (t : Nat × List Char) => t.1 ≠ 0
    let after := runText run {} 1 (c :: cs)
      { sh with course := .onward, traps, speaker := none, savedStatus := some e.status }
    let isFailure := after.has .exitsOnFailure && after.status ≠ 0
    match after.course with
    | .paused => after
    | .exiting e => after.exiting e
    | .failed => after.exiting (.code after.status)
    | .returning true => after.exiting (if isFailure then .code after.status else e)
    | _ => after.exiting e
  | _, _ => sh.exiting e

/-- Runs commands to the end of the shell they run in. -/
def runner (run : Interpreter) : Runner := fun line text sh =>
  finish run (runText run { isFinal := sh.isSubshell } line text sh)

/-! ### Signals and processes -/

/-- Runs the traps of the signals that have come, in the order of their numbers. The status stays,
  unless they end the shell, or a function with a status of its own. -/
def runTraps (run : Interpreter) (sh : Shell) : Shell :=
  if sh.signals.isEmpty || !sh.goesOn then sh
  else
    let signals := (sh.signals.mergeSort fun m n => m ≤ n).eraseDups
    signals.foldl (fun (sh : Shell) n =>
      match sh.traps.lookup n with
      | some action =>
        if sh.goesOn then
          let after := runText run {} 1 action
            { sh with savedStatus := some (sh.savedStatus.getD sh.status) }
          let after := { after with savedStatus := sh.savedStatus }
          match after.course with
          | .returning true | .exiting _ | .failed | .paused => after
          | _ => after.withStatus sh.status
        else sh
      | none => sh) { sh with signals := [] }

/-- Whether the last command of a shell takes its place: nothing is left for the shell to do. -/
def isReplaced (m : Mode) (sh : Shell) : Bool := m.isFinal && sh.traps.all fun t => t.2.isEmpty

/-- Runs something in a process of its own, or in the place of the shell, which ends then as that
  did. -/
def inProcess (m : Mode) (act : Shell → Shell) (sh : Shell) : Shell :=
  if isReplaced m sh then
    let after := act sh
    after.exiting after.exit
  else
    let sh := sh.makePlace
    let child := act sh.forked
    let joined := sh.rejoin child
    if joined.goesOn then joined.reap child.exit else joined

end Crond.Script
