import Crond.Machine.Script.Stream

/-
  Shells in other processes.

  A shell waits for most of the processes that it starts: they have the world until they end, and
  give it back then. A process in the background goes on beside the shell.
-/

namespace Crond.Script

namespace Shell

/-- How long it takes until a new process begins, in microseconds. -/
def timeToBegin : Nat := 200

/-- How long it takes until a program begins. -/
def timeToLoad : Nat := 1000

/-- A new process: a copy of this shell, which shares the world with it. -/
def fork (sh : Shell) : Shell :=
  { sh with
    processes := sh.processes + 1
    self := sh.processes + 1
    lineage := sh.self :: sh.lineage
    enclosing := (sh.self, sh.arrangements) :: sh.enclosing
    held := sh.opened
    isSubshell := true
    traps := sh.traps.filter fun t => t.2.isEmpty
    signals := []
    jobs := [] }

/-- A new process, when it begins. -/
def forked (sh : Shell) : Shell := sh.fork.spend timeToBegin

/-- A shell whose process a program takes over. -/
def yielding (sh : Shell) : Shell :=
  { sh with
    traps := sh.traps.filter fun t => t.2.isEmpty
    signals := []
    jobs := []
    saved := [] }

/-- The first place in the table of jobs that another one can take. -/
def firstPlace (sh : Shell) : Nat :=
  let isTaken (n : Nat) : Bool := sh.jobs.any fun j => j.number = n && !j.isSpent
  (((List.range sh.jobs.length).map (· + 1)).find? fun n => !isTaken n).getD (sh.jobs.length + 1)

/-- Makes place in the table of jobs, as for everything that the shell waits for. -/
def makePlace (sh : Shell) : Shell :=
  let n := sh.firstPlace
  { sh with jobs := sh.jobs.filter fun j => j.number ≠ n }

/-- Notes which commands in the background have ended. -/
def seeEnds (sh : Shell) : Shell :=
  let exitOf (j : Job) : Option Exit :=
    if j.processes.all fun p => (sh.ended.lookup p).isSome then sh.ended.lookup j.process
    else none
  { sh with jobs := sh.jobs.map fun j => { j with exit? := j.exit?.or (exitOf j) } }

/-- The shell when a process has ended that it started and waited for. -/
def rejoin (sh child : Shell) : Shell :=
  if child.isPaused then { sh with course := .paused, turn? := child.turn? }
  else
    let world := (child.dropChannels sh.channels.length).toWorld
    let joined := { sh with
      toWorld := { world with posted := (sh.self, 17) :: world.posted }
      role := child.role }
    joined.seeEnds.collect

/-- The shell with a process that goes on in the background, given what that one is at its beginning
  and what it does. -/
def enlist (sh child : Shell) (act : Shell → Shell) : Shell :=
  let child := { child with enclosing := [], held := [], turn? := none }
  let process : Process :=
    { number := child.self
      creator := sh.self
      start := sh.clock + timeToBegin
      traps := child.arrangements
      held := child.opened
      conduct := child.conduct act }
  { sh with toWorld := child.toWorld }.launch process

end Shell

end Crond.Script
