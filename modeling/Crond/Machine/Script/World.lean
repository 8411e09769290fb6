import Crond.Machine.Script.Channel
import Crond.Machine.Script.Signal

/-
  Processes that go on at the same time.

  They share a world, which one of them has at a time: it goes on until it has to wait, and gives
  the world back. What a process does is a function of its visits, that is, of the worlds that it
  has been given so far. So it can be asked again with one visit more when its time has come, and
  nothing has to be known about how it works inside.
-/

namespace Crond.Script

open Files

/-- What all processes share. -/
structure World where
  files : Tree
  channels : List Channel := [.null, .gathered [], .gathered []]
  /-- The number of the last process that was started. -/
  processes : Nat := 2
  /-- The time that has gone by, in microseconds. -/
  clock : Nat := 0
  /-- How processes in the background have ended, the latest first. -/
  ended : List (Nat × Exit) := []
  /-- Signals on their way, each with the process that it is for, the latest first. -/
  posted : List (Nat × Nat) := []

/-- What is set to run when signals come. They are ignored where it is empty. -/
abbrev Traps := List (Nat × List Char)

/-! ### Waiting -/

/-- What a process waits for. -/
inductive Wake where
  /-- A moment. -/
  | time (moment : Nat)
  /-- The end of processes, or a moment if that comes first. -/
  | ends (processes : List Nat) (limit : Option Nat)
  /-- The end of every other process that has a channel open. -/
  | closing (channel : Nat)
  /-- More than so much text to read from a pipe, or nobody who could write to it. -/
  | input (channel count : Nat)
  /-- Room in a pipe that is written to, or nobody who could read from it. -/
  | room (channel : Nat)
  /-- Another process that has a channel open. -/
  | opening (channel : Nat)
  deriving DecidableEq, Repr

/-- Whether others can make it come while they go on. -/
def Wake.needsOthers : Wake → Bool
  | .time _ | .ends _ _ | .closing _ => false
  | .input _ _ | .room _ | .opening _ => true

/-- When a process can go on that waits, if others have some channels open. -/
def Wake.due? (w : World) (held : List Nat) : Wake → Option Nat
  | .time moment => some moment
  | .ends processes limit =>
    if processes.all fun p => (w.ended.lookup p).isSome then some w.clock else limit
  | .closing channel => if channel ∈ held then none else some w.clock
  | .opening channel => if channel ∈ held then some w.clock else none
  | .input channel count =>
    match w.channels[channel]? with
    | some (.source s) =>
      if count < s.size || channel + 1 ∉ held then some w.clock else none
    | _ => some w.clock
  | .room channel =>
    match w.channels[channel - 1]? with
    | some (.source s) =>
      if s.size < s.room || channel - 1 ∉ held then some w.clock else none
    | _ => some w.clock

/-- A process that waits. -/
structure Pause where
  wake : Wake
  /-- The process and those that wait for it in turn, the innermost first. -/
  nest : List (Nat × Traps)
  /-- Whether a signal with a trap ends the waiting. -/
  isAlert : Bool
  /-- The channels that it has open. -/
  held : List Nat

/-- Whether a signal ends a process that has some traps. -/
def isLethal (traps : Traps) (n : Nat) : Bool :=
  n = 9 || (n ≠ 19 && (traps.lookup n).isNone && dispositionOf n = .terminate)

/-- Whether a signal takes effect at once on a process that waits. -/
def Pause.isRousedBy (p : Pause) (target n : Nat) : Bool :=
  match p.nest with
  | (process, traps) :: _ =>
    target = process && (isLethal traps n || (p.isAlert && (traps.lookup n).any (!·.isEmpty)))
  | [] => false

/-- When a process can go on that waits, be it because of a signal. -/
def Pause.due? (w : World) (held : List Nat) (p : Pause) : Option Nat :=
  if w.posted.any fun s => p.isRousedBy s.1 s.2 then some w.clock else p.wake.due? w held

/-! ### Processes -/

/-- What a process is given when it goes on. -/
structure Visit where
  world : World
  /-- When others go on. The process can wait by itself for what comes before that. -/
  horizon : Nat
  /-- The other processes there are. -/
  peers : List Nat
  /-- The channels that they have open. -/
  held : List Nat

/-- How far a process has come. -/
inductive Stage where
  | waits (p : Pause)
  | over (e : Exit)

/-- What has become of the world when a process gives it back. -/
structure Turn (P : Type) where
  world : World
  /-- The processes that it has started since its beginning. -/
  started : List P
  stage : Stage

structure Process where
  number : Nat
  /-- The process that started it. -/
  creator : Nat
  /-- The moment at which it begins. -/
  start : Nat
  traps : Traps
  /-- The channels that it has open when it begins. -/
  held : List Nat
  /-- What the process has done when it has been visited some times. -/
  conduct : List Visit → Turn Process

/-- A process that goes on beside others. -/
structure Running where
  process : Process
  /-- The visits so far, the latest first. -/
  visits : List Visit := []
  /-- How many of the processes that it has started are known. -/
  adopted : Nat := 0
  pause : Pause
  isStopped : Bool := false

namespace Running

def ofProcess (p : Process) : Running where
  process := p
  pause :=
    { wake := .time p.start
      nest := [(p.number, p.traps)]
      isAlert := false
      held := p.held }

/-- When a process goes on, if others have some channels open. -/
def due? (w : World) (held : List Nat) (r : Running) : Option Nat :=
  let isKilled := w.posted.any fun s => s.2 = 9 && r.pause.isRousedBy s.1 s.2
  if r.isStopped && !isKilled then none else r.pause.due? w held

/-- The processes it consists of. -/
def numbers (r : Running) : List Nat := r.pause.nest.map (·.1)

/-- Lets a process stop, or go on again. -/
def heed (r : Running) (posted : List (Nat × Nat)) : Running :=
  posted.reverse.foldl (fun r s =>
    if s.1 ∉ r.numbers then r
    else if s.2 = 18 then { r with isStopped := false }
    else if s.2 = 19 then { r with isStopped := true }
    else r) r

end Running

/-- A process on a visit. -/
structure Guest where
  visit : Visit
  /-- The visits that are still to come. -/
  visits : List Visit
  /-- The processes that it has started since its beginning. -/
  started : List Process := []
  /-- Those among them that it has started on this visit. -/
  recent : List Process := []

/-- Whether a process has the world by itself, and visits the others, or is visited. -/
inductive Role where
  | keeper (others : List Running)
  | guest (g : Guest)

end Crond.Script
