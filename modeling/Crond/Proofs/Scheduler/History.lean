import Crond.Proofs.Scheduler.Effects

/-
  The history of a scheduler, computed from its operations alone.

  A `Watch` follows operations without a scheduler: it knows only whether one runs and which
  clock readings are to come. From these it tells what each operation means for a registry: a
  registration, a removal, a pass at some time, or nothing (`Change`). `Watch.history` is the
  list of these changes.

  Proved: a session follows its watch, operation by operation (`Session.follows`): in its
  registry, in the tasks it runs, in the readings it takes and in the timers it arms.
  `runs_effects` and `errors_effects` say the same of whole sequences of operations.
-/

namespace Crond

open Calendar Log

/-- What an operation means for a registry. -/
inductive Change where
  | register (schedule : Schedule) (task : Task)
  | remove (id : JobId)
  | pass (time : Moment)
  | keep

/-- What is known of a scheduler from its operations: whether it runs, and the clock readings
    that are to come. -/
structure Watch where
  running : Bool := false
  readings : List Moment := []
  deriving DecidableEq

namespace Watch

/-- The next clock reading. -/
def reading (w : Watch) : Moment := w.readings.headD Moment.epoch

/-- Whether an operation reads the clock and arms a timer. -/
def arms (w : Watch) : Op → Bool
  | .start => !w.running
  | .tick => w.running
  | _ => false

def next (w : Watch) (op : Op) : Watch where
  running := match op with
    | .start => true
    | .stop => false
    | _ => w.running
  readings := if w.arms op then w.readings.tail else w.readings

def change (w : Watch) : Op → Change
  | .insert schedule task => .register schedule task
  | .schedule expression task =>
    match Schedule.parse expression with
    | .ok schedule => .register schedule task
    | .error _ => .keep
  | .unschedule id => .remove id
  | .tick => if w.running then .pass w.reading else .keep
  | .pass t => .pass t
  | .start | .stop => .keep

def history (w : Watch) : List Op → List Change
  | [] => []
  | op :: ops => w.change op :: (w.next op).history ops

end Watch

namespace Registry

def apply (r : Registry) : Change → Registry
  | .register schedule task => r.add schedule task
  | .remove id => r.remove id
  | .pass t => r.advance t
  | .keep => r

/-- The runs that a change makes, in order. -/
def runs (r : Registry) : Change → List Run
  | .pass t => (r.due t).map fun j => j.nextRun t
  | _ => []

/-- The ERROR events that a change makes, in order. -/
def failures (r : Registry) : Change → List Event
  | .pass t => (r.due t).filterMap fun j => j.task.failure? (j.nextRun t)
  | _ => []

def runsOver (r : Registry) : List Change → List Run
  | [] => []
  | c :: h => r.runs c ++ (r.apply c).runsOver h

def failuresOver (r : Registry) : List Change → List Event
  | [] => []
  | c :: h => r.failures c ++ (r.apply c).failuresOver h

/-- Removing an id that is not there changes nothing. -/
theorem remove_of_find?_eq_none {r : Registry} {id : JobId} (h : r.find? id = none) :
    r.remove id = r := by
  have hall : ∀ j ∈ r.jobs, decide (j.id ≠ id) = true := by
    intro j hj
    have := List.find?_eq_none.mp h j hj
    simpa using this
  unfold remove
  rw [List.filter_eq_self.mpr hall]

end Registry

/-! ## One operation -/

namespace Scheduler

theorem isRunning_running {s : Scheduler} {t : Timer} (h : s.phase = .running t) :
    s.isRunning = true := by
  unfold isRunning
  rw [h]

theorem isRunning_stopped {s : Scheduler} (h : s.phase = .stopped) : s.isRunning = false := by
  unfold isRunning
  rw [h]

end Scheduler

namespace Session

/-- What is known of a session from outside. -/
def watch (s : Session) : Watch := ⟨s.scheduler.isRunning, s.host.readings⟩

theorem watch_running {s : Session} {t : Timer} (h : s.scheduler.phase = .running t) :
    s.watch = ⟨true, s.host.readings⟩ := by
  unfold watch
  rw [Scheduler.isRunning_running h]

theorem watch_stopped {s : Session} (h : s.scheduler.phase = .stopped) :
    s.watch = ⟨false, s.host.readings⟩ := by
  unfold watch
  rw [Scheduler.isRunning_stopped h]

/-- What an operation of a session comes to, all of it told against the watch. -/
structure Follows (s : Session) (op : Op) : Prop where
  watch : (s.step op).1.watch = s.watch.next op
  registry : (s.step op).1.scheduler.registry = s.scheduler.registry.apply (s.watch.change op)
  runs : (s.step op).2.effects.filterMap Effect.run? =
    s.scheduler.registry.runs (s.watch.change op)
  errors : (s.step op).2.effects.filterMap Effect.error? =
    s.scheduler.registry.failures (s.watch.change op)
  readings : (s.step op).2.effects.filterMap Effect.reading? =
    if s.watch.arms op then [s.watch.reading] else []
  armed : (s.step op).2.effects.filterMap Effect.armed? =
    if s.watch.arms op then [tickDelay s.watch.reading] else []

theorem follows_schedule (s : Session) (expression : String) (task : Task) :
    s.Follows (.schedule expression task) := by
  cases hp : Schedule.parse expression with
  | ok schedule => constructor <;> simp only [step, Scheduler.step, Watch.change, hp] <;> rfl
  | error fault => constructor <;> simp only [step, Scheduler.step, Watch.change, hp] <;> rfl

theorem follows_unschedule (s : Session) (id : JobId) : s.Follows (.unschedule id) := by
  cases hf : s.scheduler.registry.find? id with
  | none =>
    constructor <;> simp only [step, Scheduler.step, hf]
    case registry => exact (Registry.remove_of_find?_eq_none hf).symm
    all_goals rfl
  | some job => constructor <;> simp only [step, Scheduler.step, hf] <;> rfl

theorem follows_start (s : Session) : s.Follows .start := by
  cases hp : s.scheduler.phase with
  | stopped =>
    constructor <;> rw [watch_stopped hp] <;>
      simp only [step, Scheduler.step, Scheduler.start, hp] <;> rfl
  | running t =>
    constructor <;> rw [watch_running hp] <;>
      simp only [step, Scheduler.step, Scheduler.start, hp]
    case watch => exact watch_running hp
    all_goals rfl

theorem follows_stop (s : Session) : s.Follows .stop := by
  cases hp : s.scheduler.phase with
  | stopped =>
    constructor <;> rw [watch_stopped hp] <;>
      simp only [step, Scheduler.step, Scheduler.stop, hp]
    case watch => exact watch_stopped hp
    all_goals rfl
  | running t =>
    constructor <;> rw [watch_running hp] <;>
      simp only [step, Scheduler.step, Scheduler.stop, hp] <;> rfl

theorem follows_pass (s : Session) (t : Moment) : s.Follows (.pass t) := by
  have hq := s.scheduler.quiet_pass t
  refine ⟨?_, rfl, s.scheduler.runs_pass t, s.scheduler.errors_pass t,
    filterMap_reading_quiet hq, filterMap_armed_quiet hq⟩
  simp only [step, Scheduler.step, Host.foldl_serve_quiet _ hq]
  rfl

theorem follows_tick (s : Session) : s.Follows .tick := by
  cases hp : s.scheduler.phase with
  | stopped =>
    constructor <;> rw [watch_stopped hp] <;>
      simp only [step, Scheduler.step, Scheduler.tick, hp]
    case watch => exact watch_stopped hp
    all_goals rfl
  | running t =>
    -- A tick is arming followed by a pass of the scheduler that holds the new timer.
    have hq := Scheduler.quiet_pass { s.scheduler with phase := .running s.host.offer.timer }
      s.host.offer.now
    have hr := Scheduler.runs_pass { s.scheduler with phase := .running s.host.offer.timer }
      s.host.offer.now
    have he := Scheduler.errors_pass { s.scheduler with phase := .running s.host.offer.timer }
      s.host.offer.now
    constructor <;> rw [watch_running hp] <;>
      simp only [step, Scheduler.step, Scheduler.tick, hp, List.foldl_append,
        List.filterMap_append, filterMap_reading_quiet hq, filterMap_armed_quiet hq,
        Host.foldl_serve_quiet _ hq, hr, he] <;> rfl

theorem follows (s : Session) (op : Op) : s.Follows op := by
  cases op with
  | schedule expression task => exact s.follows_schedule expression task
  | insert schedule task => constructor <;> rfl
  | unschedule id => exact s.follows_unschedule id
  | start => exact s.follows_start
  | stop => exact s.follows_stop
  | tick => exact s.follows_tick
  | pass t => exact s.follows_pass t

/-! ## Sequences of operations -/

theorem runs_effects (s : Session) (ops : List Op) :
    (s.effects ops).filterMap Effect.run? =
      s.scheduler.registry.runsOver (s.watch.history ops) := by
  induction ops generalizing s with
  | nil => rfl
  | cons op ops ih =>
    have h := s.follows op
    rw [effects_cons, List.filterMap_append, ih, h.watch, h.registry, h.runs]
    rfl

theorem errors_effects (s : Session) (ops : List Op) :
    (s.effects ops).filterMap Effect.error? =
      s.scheduler.registry.failuresOver (s.watch.history ops) := by
  induction ops generalizing s with
  | nil => rfl
  | cons op ops ih =>
    have h := s.follows op
    rw [effects_cons, List.filterMap_append, ih, h.watch, h.registry, h.errors]
    rfl

/-- What holds of every step of a sequence of operations: each operation keeps `P`, and under
    `P` its step has the property `Q`. -/
theorem forall_steps {P : Session → Prop} {Q : Step → Prop}
    (hkeep : ∀ s op, P s → P (s.step op).1) (hstep : ∀ s op, P s → Q (s.step op).2)
    {s : Session} (hs : P s) (ops : List Op) : ∀ step ∈ (s.run ops).2, Q step := by
  induction ops generalizing s with
  | nil => exact fun _ h => absurd h List.not_mem_nil
  | cons op ops ih =>
    intro step hmem
    rcases List.mem_cons.mp hmem with rfl | hmem
    · exact hstep s op hs
    · exact ih (hkeep s op hs) step hmem

end Session

end Crond
