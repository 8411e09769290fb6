import Crond.Log.Event
import Crond.Schedule.Expression
import Crond.Scheduler.Registry
import Crond.Scheduler.Tick

/-
  The scheduler: a registry of jobs and a tick once per second while it runs.

  The scheduler is a state machine beside its host. The host has the clock and the timers; when
  one of its timers elapses it calls `tick`. An operation gets an `Offer`, which is what the clock
  shows and which timer comes next should the operation ask for either, and answers with the new
  scheduler, a reply, and its effects in order: what it asked of the host, which tasks it ran and
  what it logged.
-/

namespace Crond

open Calendar Log

/-- The host's name for a timer. -/
abbrev Timer := Nat

/-- What the host answers when it is asked during an operation. -/
structure Offer where
  now : Moment
  timer : Timer
  deriving DecidableEq, Repr

/-- Whether a scheduler ticks, and then the timer of its next tick. -/
inductive Phase where
  | stopped
  | running (timer : Timer)
  deriving DecidableEq, Repr

inductive Effect where
  | readClock (now : Moment)
  | arm (timer : Timer) (delay : Duration)
  | cancel (timer : Timer)
  | warn (message : String)
  | ran (run : Run)
  | log (event : Event)
  deriving DecidableEq, Repr

/-- The effect for a host that shows no warnings itself: they go into the log. -/
def Effect.logWarning : Effect → Effect
  | .warn message => .log { level := .warn, message }
  | e => e

structure Scheduler where
  registry : Registry := {}
  phase : Phase := .stopped

namespace Scheduler

def isRunning (s : Scheduler) : Bool :=
  match s.phase with
  | .running _ => true
  | .stopped => false

/-! ### The registry -/

/-- Registers a task under a schedule. -/
def insert (s : Scheduler) (schedule : Schedule) (task : Task) : Scheduler :=
  { s with registry := s.registry.add schedule task }

/-- The log event of a registration under an expression. -/
def scheduledEvent (id : JobId) (expression : String) : Event :=
  { level := .debug, message := "Scheduled job", fields := [("expr", expression), ("id", id.text)] }

def unscheduledEvent (id : JobId) : Event :=
  { level := .debug, message := "Unscheduled job", fields := [("id", id.text)] }

/-! ### Passes -/

/-- The effects of one run of a job in a pass. -/
def runEffects (t : Moment) (j : Job) : List Effect :=
  [.log { level := .trace, message := "Running job", fields := [("job", j.id.text)] },
   .ran (j.nextRun t)] ++
  match j.task.next with
  | .ok _ => []
  | .error e => [.log { level := .error, message := e.message, fields := [("job", j.id.text)] }]

/-- Runs every due job once, in the order of registration. A failure does not stop the others. -/
def pass (s : Scheduler) (t : Moment) : Scheduler × List Effect :=
  ({ s with registry := s.registry.advance t }, (s.registry.due t).flatMap (runEffects t))

/-! ### Ticking -/

/-- Arming the timer of the next tick. -/
def armEffects (o : Offer) : List Effect :=
  [.readClock o.now,
   .log { level := .trace, message := "Arming next tick",
          fields := [("delay", (tickDelay o.now).text)] },
   .arm o.timer (tickDelay o.now)]

def start (s : Scheduler) (o : Offer) : Scheduler × List Effect :=
  match s.phase with
  | .running _ => (s, [.warn "already running"])
  | .stopped =>
    ({ s with phase := .running o.timer },
     armEffects o ++ [.log { level := .info, message := "Scheduler started" }])

def stop (s : Scheduler) : Scheduler × List Effect :=
  match s.phase with
  | .running timer =>
    ({ s with phase := .stopped },
     [.cancel timer, .log { level := .info, message := "Scheduler stopped" }])
  | .stopped => (s, [.warn "not running"])

/--
Answers an elapsed timer: arms the next tick, then runs the due jobs. A timer may have elapsed
before `stop` cancelled it, so a tick can come while stopped; it is ignored.
-/
def tick (s : Scheduler) (o : Offer) : Scheduler × List Effect :=
  match s.phase with
  | .stopped => (s, [.log { level := .trace, message := "Ignoring tick while stopped" }])
  | .running _ =>
    let passed := { s with phase := .running o.timer : Scheduler }.pass o.now
    (passed.1, armEffects o ++ passed.2)

end Scheduler

/-! ### Operations -/

inductive Op where
  | schedule (expression : String) (task : Task)
  | insert (schedule : Schedule) (task : Task)
  | unschedule (id : JobId)
  | start
  | stop
  | tick
  | pass (time : Moment)

inductive Reply where
  | done
  | registered (job : Job)
  | refused (fault : Fault)
  | removed (job : Option Job)
  | ran (count : Nat)

structure Outcome where
  scheduler : Scheduler
  effects : List Effect := []
  reply : Reply := .done

/-- One operation on a scheduler. -/
def Scheduler.step (s : Scheduler) (o : Offer) : Op → Outcome
  | .schedule expression task =>
    match Schedule.parse expression with
    | .error fault => { scheduler := s, reply := .refused fault }
    | .ok schedule =>
      let job := s.registry.nextJob schedule task
      { scheduler := s.insert schedule task
        effects := [.log (scheduledEvent job.id expression)]
        reply := .registered job }
  | .insert schedule task =>
    { scheduler := s.insert schedule task
      reply := .registered (s.registry.nextJob schedule task) }
  | .unschedule id =>
    match s.registry.find? id with
    | none => { scheduler := s, reply := .removed none }
    | some job =>
      { scheduler := { s with registry := s.registry.remove id }
        effects := [.log (unscheduledEvent id)]
        reply := .removed (some job) }
  | .start => { scheduler := (s.start o).1, effects := (s.start o).2 }
  | .stop => { scheduler := s.stop.1, effects := s.stop.2 }
  | .tick => { scheduler := (s.tick o).1, effects := (s.tick o).2 }
  | .pass t =>
    { scheduler := (s.pass t).1
      effects := (s.pass t).2
      reply := .ran (s.registry.due t).length }

end Crond
