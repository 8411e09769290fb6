import Crond.Scheduler.Basic

/-
  One-shot timers under a clock in milliseconds.

  A timer elapses once the clock has reached the time at which it was armed plus its delay, unless
  it is cancelled first. Cancelling a timer that is not pending does nothing. Delays of more than
  thirty years count as thirty years.
-/

namespace Crond

/-- A timer that has neither elapsed nor been cancelled, and the time at which it is due. -/
structure Pending where
  timer : Timer
  due : Nat
  deriving DecidableEq, Repr

/-- The clock, the number of timers armed so far, and those that are pending. -/
structure Timers where
  clock : Nat := 0
  armed : Nat := 0
  pending : List Pending := []
  deriving DecidableEq, Repr

namespace Timers

/-- The name of the timer that will be armed next. -/
def next (ts : Timers) : Timer := ts.armed

/-- The longest delay: thirty years of 365 days. -/
def longestDelay : Nat := 946080000000

def arm (ts : Timers) (delay : Nat) : Timers :=
  let due := ts.clock + min delay longestDelay
  { ts with armed := ts.armed + 1, pending := ts.pending ++ [⟨ts.next, due⟩] }

/-- Takes a timer off the pending ones, as when it is cancelled or has elapsed. -/
def drop (ts : Timers) (t : Timer) : Timers :=
  { ts with pending := ts.pending.filter fun p => p.timer ≠ t }

def advance (ts : Timers) (millis : Nat) : Timers := { ts with clock := ts.clock + millis }

/-- The pending timers, by name. -/
def live (ts : Timers) : List Timer := ts.pending.map Pending.timer

/-- The pending timer that is due first; of those due together, the one armed first. -/
def earliest? (ts : Timers) : Option Pending :=
  ts.pending.foldl (fun best p =>
    match best with
    | some b => if p.due < b.due then some p else best
    | none => some p) none

/-- The number of pending timers that are due. -/
def dueCount (ts : Timers) : Nat := ts.pending.countP fun p => p.due ≤ ts.clock

/-- Takes off the pending timers that are due. -/
def settle (ts : Timers) : Timers :=
  { ts with pending := ts.pending.filter fun p => ts.clock < p.due }

/-- The timers after they have served an effect of a scheduler. -/
def serve (ts : Timers) : Effect → Timers
  | .arm _ delay => ts.arm delay.millis
  | .cancel t => ts.drop t
  | _ => ts

@[simp] theorem live_arm (ts : Timers) (delay : Nat) :
    (ts.arm delay).live = ts.live ++ [ts.next] := by
  simp [live, arm]

@[simp] theorem live_drop (ts : Timers) (t : Timer) :
    (ts.drop t).live = ts.live.filter fun u => u ≠ t := by
  simp [live, drop, List.filter_map, Function.comp_def]

end Timers

/-- What can be asked of timers alone. -/
inductive TimerRequest where
  | arm (delay : Nat)
  | cancel (timer : Timer)
  | advance (millis : Nat)
  deriving DecidableEq, Repr

/-- Serves a request, then lets every due timer elapse; the number is how many did. -/
def Timers.step (ts : Timers) (r : TimerRequest) : Timers × Nat :=
  let ts' := match r with
    | .arm delay => ts.arm delay
    | .cancel t => ts.drop t
    | .advance millis => ts.advance millis
  (ts'.settle, ts'.dueCount)

/-- The elapsed counts of a sequence of requests. -/
def Timers.run (ts : Timers) : List TimerRequest → List Nat
  | [] => []
  | r :: rs =>
    let (ts', count) := ts.step r
    count :: ts'.run rs

end Crond
