import Crond.Machine.Script.Shell

/-
  Waiting, and signals.

  A shell that has the world by itself visits the others whose time has come before its own. Any
  other shell gives the world back where it cannot go on before something comes from elsewhere.
-/

namespace Crond.Script

namespace Shell

/-! ### Signals -/

/-- A signal that reaches this process. One with a trap waits until the command at work ends. -/
def receive (sh : Shell) (n : Nat) : Shell :=
  match sh.course, sh.arrangements.lookup n with
  | .exiting _, _ => sh
  | _, some (_ :: _) => { sh with signals := n :: sh.signals }
  | _, _ => if isLethal sh.arrangements n then sh.exiting (.signal n) else sh

/-- Takes the signals that have come for this process. -/
def collect (sh : Shell) : Shell :=
  if sh.isPaused then sh
  else
    let (own, posted) := sh.posted.partition fun s => s.1 = sh.self
    own.reverse.foldl (fun (sh : Shell) s => sh.receive s.2) { sh with posted }

/-- The role of a shell that goes on by itself only to a moment. -/
def withHorizon (sh : Shell) (moment : Nat) : Role :=
  match sh.role with
  | .guest g => .guest { g with visit.horizon := min g.visit.horizon moment }
  | r => r

/-- Sends a signal to another process. -/
def post (sh : Shell) (process n : Nat) : Shell :=
  { sh with posted := (process, n) :: sh.posted, role := sh.withHorizon sh.clock }

/-! ### Other processes -/

/-- The channels that other processes have open. -/
def heldByOthers (sh : Shell) : List Nat :=
  match sh.role with
  | .keeper others => others.flatMap fun r => r.pause.held
  | .guest g => g.visit.held ++ g.recent.flatMap Process.held

/-- Takes channels away that were added for a while, unless others have them open. -/
def dropChannels (sh : Shell) (count : Nat) : Shell :=
  if sh.heldByOthers.all (· < count) then { sh with channels := sh.channels.take count } else sh

/-- The other processes there are. -/
def peers (sh : Shell) : List Nat :=
  match sh.role with
  | .keeper others => sh.lineage ++ others.flatMap Running.numbers
  | .guest g => sh.lineage ++ g.visit.peers ++ g.recent.map Process.number

/-- Lets a process begin that goes on beside this one. -/
def launch (sh : Shell) (p : Process) : Shell :=
  match sh.role with
  | .keeper others => { sh with role := .keeper (others ++ [Running.ofProcess p]) }
  | .guest _ =>
    match sh.withHorizon p.start with
    | .guest g =>
      { sh with
        role := .guest { g with started := g.started ++ [p], recent := g.recent ++ [p] } }
    | r => { sh with role := r }

/-- Lets signals take effect on processes that do not go on by themselves: those that stop or go on
  again, and those that end while another process goes on that they have waited for. -/
def heed (sh : Shell) : Shell :=
  match sh.role with
  | .guest _ => sh
  | .keeper others =>
    let gone := others.filterMap fun r =>
      let number := r.process.number
      let lethal := sh.posted.filter fun s =>
        s.1 = number && r.pause.nest.tail.any fun (p, traps) => p = number && isLethal traps s.2
      if (sh.ended.lookup number).isSome then none
      else lethal.getLast?.map fun s => (number, Exit.signal s.2)
    { sh with
      role := .keeper (others.map (Running.heed · sh.posted))
      ended := gone ++ sh.ended }

/-- How a shell waits. -/
def pauseFor (sh : Shell) (wake : Wake) (isAlert : Bool) : Pause where
  wake
  nest := (sh.self, sh.arrangements) :: sh.enclosing
  isAlert
  held := sh.opened

/-- How long a process goes on at first while another one waits for what it does. -/
def patience : Nat := 300

/-- How long a process can go on if nothing else happens. -/
def longest : Nat := 600000000

/-- Visits one of the other processes. The shell waits itself meanwhile. -/
def visit (sh : Shell) (pause : Pause) (before : List Running) (r : Running)
    (behind : List Running) (moment : Nat) : Shell :=
  let others := before ++ behind
  let world := { sh.toWorld with clock := max sh.clock moment }
  let held := pause.held ++ others.flatMap fun s => s.pause.held
  let dues := pause.due? world (r.pause.held ++ others.flatMap fun s => s.pause.held) ::
    others.map fun s =>
      let rest := others.filter fun q => q.process.number ≠ s.process.number
      s.due? world (pause.held ++ r.pause.held ++ rest.flatMap fun q => q.pause.held)
  let isWatched := (pause :: others.map Running.pause).any fun p => p.wake.needsOthers
  let span := if isWatched then patience <<< min r.visits.length 40 else longest
  let horizon := (dues.filterMap id).foldl min (world.clock + span)
  let peers := pause.nest.map (·.1) ++ sh.lineage ++ others.flatMap Running.numbers
  let visits := { world, horizon, peers, held } :: r.visits
  let turn := r.process.conduct visits.reverse
  let started := (turn.started.drop r.adopted).map Running.ofProcess
  let adopted := turn.started.length
  let sh := { sh with toWorld := turn.world }
  let behind := behind ++ started
  match turn.stage with
  | .waits pause =>
    { sh with role := .keeper (before ++ { r with visits, adopted, pause } :: behind) }
  | .over e =>
    let number := r.process.number
    let ended := if (sh.ended.lookup number).isSome then sh.ended else (number, e) :: sh.ended
    { sh with
      role := .keeper (before ++ behind)
      ended
      posted := (r.process.creator, 17) :: sh.posted }

/-- The first of some processes that can go on, with those before and behind it, and when. -/
def foremost? (sh : Shell) (pause : Pause) (others : List Running) :
    Option (List Running × Running × List Running × Nat) :=
  let all := others.zipIdx.filterMap fun (r, n) =>
    let before := others.take n
    let behind := others.drop (n + 1)
    let held := pause.held ++ (before ++ behind).flatMap fun s => s.pause.held
    (r.due? sh.toWorld held).map fun moment => (before, r, behind, max sh.clock moment)
  all.foldl (fun best c =>
    match best with
    | some b => if c.2.2.2 < b.2.2.2 then some c else best
    | none => some c) none

/-- Visits others as long as they can go on before this shell. The number bounds the visits. If
  nothing can go on any more the shell does not wait any longer. -/
def attend : Nat → Pause → Shell → Shell
  | 0, _, sh => sh
  | n + 1, pause, sh =>
    let sh := sh.heed
    match sh.role with
    | .guest _ => sh
    | .keeper others =>
      let own := pause.due? sh.toWorld (others.flatMap fun r => r.pause.held)
      let wait (sh : Shell) : Shell := { sh with clock := max sh.clock (own.getD 0) }
      match sh.foremost? pause others with
      | some (before, r, behind, moment) =>
        if own.all fun m => moment ≤ max sh.clock m then
          attend n pause (sh.visit pause before r behind moment)
        else wait sh
      | none => wait sh

/-- Gives the world back. -/
def giveBack (sh : Shell) (g : Guest) (pause : Pause) : Shell :=
  { sh with
    course := .paused
    turn? := some { world := sh.toWorld, started := g.started, stage := .waits pause } }

/-- Waits. -/
def await (sh : Shell) (wake : Wake) (isAlert : Bool) : Shell :=
  if sh.isPaused then sh
  else
    match sh.role with
    | .keeper [] => { sh with clock := max sh.clock ((wake.due? sh.toWorld []).getD 0) }.collect
    | .keeper _ => (attend 100000 (sh.pauseFor wake isAlert) sh).collect
    | .guest g =>
      let due? := (wake.due? sh.toWorld sh.heldByOthers).filter fun moment =>
        moment < g.visit.horizon || (moment ≤ sh.clock && wake ≠ .time moment)
      match due?, g.visits with
      | some moment, _ => { sh with clock := max sh.clock moment }.collect
      | none, v :: visits =>
        { sh with
          toWorld := v.world
          role := .guest { g with visit := v, visits, recent := [] } }.collect
      | none, [] => sh.giveBack g (sh.pauseFor wake isAlert)

/-- Lets time go by, in microseconds. -/
def spend (sh : Shell) (time : Nat) : Shell := sh.await (.time (sh.clock + time)) false

/-- Lets time go by, in milliseconds. -/
def sleep (sh : Shell) (millis : Nat) : Shell := sh.spend (1000 * millis)

/-- What a process has done that has come so far. -/
def turn (sh : Shell) : Turn Process :=
  let started := match sh.role with
    | .guest g => g.started
    | .keeper _ => []
  sh.turn?.getD { world := sh.toWorld, started, stage := .over sh.exit }

/-- What a process does when it is visited, given what it is at its beginning. -/
def conduct (sh : Shell) (act : Shell → Shell) : List Visit → Turn Process
  | [] => { world := sh.toWorld, started := [], stage := .over sh.exit }
  | visit :: visits =>
    (act { sh with toWorld := visit.world, role := .guest { visit, visits } }.collect).turn

end Shell

end Crond.Script
