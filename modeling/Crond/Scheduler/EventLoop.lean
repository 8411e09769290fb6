import Crond.Scheduler.Timers

/-
  The event loop: a scheduler on timers that notify it.

  A pending timer may elapse at any moment; it then puts one notification in flight, which a
  later cancellation does not take back. Delivering a notification is one tick. So a notification
  can be overtaken by `stop`, and by a later `start`, before it arrives.
-/

namespace Crond

open Calendar

/-- A scheduler, its timers, and the number of notifications in flight. -/
structure EventLoop where
  scheduler : Scheduler := {}
  timers : Timers := {}
  inFlight : Nat := 0
  origin : Moment := Moment.epoch

inductive LoopEvent where
  | start
  | stop
  | elapse (timer : Timer)
  | deliver
  | idle (millis : Nat)
  deriving DecidableEq, Repr

namespace EventLoop

/-- What the clock shows: the time since the origin. -/
def now (l : EventLoop) : Moment := l.origin.add ⟨l.timers.clock * nanosPerMilli⟩

def offer (l : EventLoop) : Offer := ⟨l.now, l.timers.next⟩

/-- One operation of the scheduler, with the timers serving its effects. -/
def operate (l : EventLoop) (op : Op) : EventLoop :=
  let outcome := l.scheduler.step l.offer op
  { l with
    scheduler := outcome.scheduler
    timers := outcome.effects.foldl Timers.serve l.timers }

/-- A pending timer elapses. One that is not pending does nothing. -/
def elapse (l : EventLoop) (t : Timer) : EventLoop :=
  if t ∈ l.timers.live then
    { l with timers := l.timers.drop t, inFlight := l.inFlight + 1 }
  else l

/-- A notification arrives, if one is in flight. -/
def deliver (l : EventLoop) : EventLoop :=
  if l.inFlight = 0 then l
  else { l with inFlight := l.inFlight - 1 }.operate .tick

def step (l : EventLoop) : LoopEvent → EventLoop
  | .start => l.operate .start
  | .stop => l.operate .stop
  | .elapse t => l.elapse t
  | .deliver => l.deliver
  | .idle millis => { l with timers := l.timers.advance millis }

def run (l : EventLoop) (events : List LoopEvent) : EventLoop := events.foldl step l

/--
Waits for a notification for at most `patience` milliseconds and delivers it; says whether one
came. While it waits, timers elapse when they are due.
-/
def await (l : EventLoop) (patience : Nat) : EventLoop × Bool :=
  if l.inFlight ≠ 0 then (l.deliver, true)
  else
    match l.timers.earliest? with
    | some p =>
      if p.due ≤ l.timers.clock + patience then
        (l.run [.idle (p.due - l.timers.clock), .elapse p.timer, .deliver], true)
      else (l.step (.idle patience), false)
    | none => (l.step (.idle patience), false)

/-- How long the loop is watched for a tick: longer than from one tick to the next. -/
def tickPatience : Nat := 2000

/-- How often each registered job has run. -/
def runCounts (l : EventLoop) : List Nat := l.scheduler.registry.jobs.map fun j => j.task.runs

end EventLoop

end Crond
