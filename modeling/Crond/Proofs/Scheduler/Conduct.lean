import Crond.Proofs.Scheduler.History

/-
  Runs of a scheduler against any host, and what one operation can do.

  A turn is an operation together with what the host offers during it, so a list of turns is a
  run against a host that answers as it likes. Besides what an operation asks of the host and
  tells of its phase there is only work: runs of tasks, and log events that are not INFO.

  Proved: `conduct`, which says once what an operation does, for each kind of it and each phase.
-/

namespace Crond

open Calendar Log

/-! ## Runs against any host -/

/-- An operation, and what the host offers during it. -/
structure Turn where
  op : Op
  offer : Offer

namespace Scheduler

def turn (s : Scheduler) (t : Turn) : Outcome := s.step t.offer t.op

/-- The scheduler after a sequence of turns. -/
def after (s : Scheduler) (turns : List Turn) : Scheduler :=
  turns.foldl (fun s t => (s.turn t).scheduler) s

/-- All effects of a sequence of turns, in order. -/
def effects (s : Scheduler) : List Turn → List Effect
  | [] => []
  | t :: turns => (s.turn t).effects ++ (s.turn t).scheduler.effects turns

/-- The replies of a sequence of turns, in order. -/
def replies (s : Scheduler) : List Turn → List Reply
  | [] => []
  | t :: turns => (s.turn t).reply :: (s.turn t).scheduler.replies turns

end Scheduler

/-! ## Work -/

/-- The message of an INFO event. -/
def Effect.info? : Effect → Option String
  | .log e => if e.level = .info then some e.message else none
  | _ => none

def infos (es : List Effect) : List String := es.filterMap Effect.info?

/-- Effects that ask nothing of the host and tell nothing at INFO. -/
structure Work (es : List Effect) : Prop where
  quiet : ∀ e ∈ es, e.IsQuiet
  infos : infos es = []

theorem work_nil : Work [] := ⟨fun _ h => absurd h List.not_mem_nil, rfl⟩

theorem work_log {event : Event} (h : event.level ≠ .info) : Work [.log event] := by
  refine ⟨fun e he => ?_, ?_⟩
  · rw [List.mem_singleton.mp he]
    exact trivial
  · exact List.filterMap_cons_none (if_neg h)

namespace Scheduler

theorem infos_runEffects (t : Moment) (j : Job) : infos (runEffects t j) = [] := by
  unfold runEffects
  cases j.task.next <;> rfl

theorem work_pass (s : Scheduler) (t : Moment) : Work (s.pass t).2 := by
  refine ⟨s.quiet_pass t, ?_⟩
  unfold infos pass
  rw [List.filterMap_flatMap]
  exact List.flatMap_eq_nil_iff.mpr fun j _ => infos_runEffects t j

end Scheduler

/-! ## What an operation can do -/

def startedEvent : Event := { level := .info, message := "Scheduler started" }

def stoppedEvent : Event := { level := .info, message := "Scheduler stopped" }

def ignoredEvent : Event := { level := .trace, message := "Ignoring tick while stopped" }

/-- What an operation registers, if it registers anything. -/
def Op.registration? : Op → Option (Schedule × Task)
  | .insert s task => some (s, task)
  | .schedule expression task =>
    match Schedule.parse expression with
    | .ok s => some (s, task)
    | .error _ => none
  | _ => none

namespace Scheduler

theorem isRunning_iff (s : Scheduler) : s.isRunning = true ↔ ∃ t, s.phase = .running t := by
  cases hp : s.phase with
  | stopped => simp [isRunning, hp]
  | running t => simp [isRunning, hp]

/-- What an operation does, by its kind and the phase of the scheduler. -/
inductive Conduct (s : Scheduler) (o : Offer) : Op → Outcome → Prop
  | register {op : Op} {schedule : Schedule} {task : Task} {work : List Effect}
      (hop : op.registration? = some (schedule, task)) (hw : Work work) :
      Conduct s o op
        ⟨s.insert schedule task, work, .registered (s.registry.nextJob schedule task)⟩
  | refuse {expression : String} {task : Task} {fault : Fault}
      (hf : Schedule.parse expression = .error fault) :
      Conduct s o (.schedule expression task) ⟨s, [], .refused fault⟩
  | remove {id : JobId} {job : Job} (hf : s.registry.find? id = some job) :
      Conduct s o (.unschedule id)
        ⟨{ s with registry := s.registry.remove id }, [.log (unscheduledEvent id)],
          .removed (some job)⟩
  | removeUnknown {id : JobId} (hf : s.registry.find? id = none) :
      Conduct s o (.unschedule id) ⟨s, [], .removed none⟩
  | start (hp : s.phase = .stopped) :
      Conduct s o .start
        ⟨{ s with phase := .running o.timer }, armEffects o ++ [.log startedEvent], .done⟩
  | startAgain {t : Timer} (hp : s.phase = .running t) :
      Conduct s o .start ⟨s, [.warn "already running"], .done⟩
  | stop {t : Timer} (hp : s.phase = .running t) :
      Conduct s o .stop ⟨{ s with phase := .stopped }, [.cancel t, .log stoppedEvent], .done⟩
  | stopAgain (hp : s.phase = .stopped) : Conduct s o .stop ⟨s, [.warn "not running"], .done⟩
  | tick {t : Timer} {work : List Effect} (hp : s.phase = .running t) (hw : Work work) :
      Conduct s o .tick
        ⟨⟨s.registry.advance o.now, .running o.timer⟩, armEffects o ++ work, .done⟩
  | ignored (hp : s.phase = .stopped) : Conduct s o .tick ⟨s, [.log ignoredEvent], .done⟩
  | pass {t : Moment} {work : List Effect} (hw : Work work) :
      Conduct s o (.pass t)
        ⟨{ s with registry := s.registry.advance t }, work, .ran (s.registry.due t).length⟩

theorem conduct (s : Scheduler) (o : Offer) (op : Op) : s.Conduct o op (s.step o op) := by
  cases op with
  | schedule expression task =>
    cases hf : Schedule.parse expression with
    | ok schedule =>
      have hop : (Op.schedule expression task).registration? = some (schedule, task) := by
        simp only [Op.registration?, hf]
      simp only [step, hf]
      exact .register hop (work_log Level.noConfusion)
    | error fault =>
      simp only [step, hf]
      exact .refuse hf
  | insert schedule task => exact .register rfl work_nil
  | unschedule id =>
    cases hf : s.registry.find? id with
    | none =>
      simp only [step, hf]
      exact .removeUnknown hf
    | some job =>
      simp only [step, hf]
      exact .remove hf
  | start =>
    cases hp : s.phase with
    | stopped =>
      simp only [step, Scheduler.start, hp]
      exact .start hp
    | running t =>
      simp only [step, Scheduler.start, hp]
      exact .startAgain hp
  | stop =>
    cases hp : s.phase with
    | stopped =>
      simp only [step, Scheduler.stop, hp]
      exact .stopAgain hp
    | running t =>
      simp only [step, Scheduler.stop, hp]
      exact .stop hp
  | tick =>
    cases hp : s.phase with
    | stopped =>
      simp only [step, Scheduler.tick, hp]
      exact .ignored hp
    | running t =>
      simp only [step, Scheduler.tick, hp]
      exact .tick hp (work_pass _ _)
  | pass t => exact .pass (s.work_pass t)

theorem conduct_turn (s : Scheduler) (t : Turn) : s.Conduct t.offer t.op (s.turn t) :=
  s.conduct t.offer t.op

namespace Conduct

variable {s : Scheduler} {o : Offer} {op : Op} {out : Outcome}

theorem eq_of_tick_stopped (hc : s.Conduct o op out) (hop : op = .tick)
    (hs : s.isRunning = false) :
    out = ⟨s, [.log ignoredEvent], .done⟩ := by
  subst hop
  cases hc with
  | register hop _ => exact absurd hop (by simp [Op.registration?])
  | tick hp _ => exact absurd (hs.symm.trans (isRunning_running hp)) Bool.false_ne_true
  | ignored _ => rfl

theorem eq_of_start_running (hc : s.Conduct o op out) (hop : op = .start)
    (hs : s.isRunning = true) :
    out = ⟨s, [.warn "already running"], .done⟩ := by
  subst hop
  cases hc with
  | register hop _ => exact absurd hop (by simp [Op.registration?])
  | start hp => exact absurd ((isRunning_stopped hp).symm.trans hs) Bool.false_ne_true
  | startAgain _ => rfl

theorem eq_of_stop_stopped (hc : s.Conduct o op out) (hop : op = .stop)
    (hs : s.isRunning = false) :
    out = ⟨s, [.warn "not running"], .done⟩ := by
  subst hop
  cases hc with
  | register hop _ => exact absurd hop (by simp [Op.registration?])
  | stop hp => exact absurd (hs.symm.trans (isRunning_running hp)) Bool.false_ne_true
  | stopAgain _ => rfl

theorem eq_of_refused {expression : String} {task : Task} {fault : Fault}
    (hc : s.Conduct o op out) (hop : op = .schedule expression task)
    (hf : Schedule.parse expression = .error fault) : out = ⟨s, [], .refused fault⟩ := by
  subst hop
  cases hc with
  | register hop _ => exact absurd hop (by simp [Op.registration?, hf])
  | refuse hf' =>
    cases hf.symm.trans hf'
    rfl

theorem eq_of_unknown {id : JobId} (hc : s.Conduct o op out) (hop : op = .unschedule id)
    (hf : s.registry.find? id = none) : out = ⟨s, [], .removed none⟩ := by
  subst hop
  cases hc with
  | register hop _ => exact absurd hop (by simp [Op.registration?])
  | remove hf' => exact absurd (hf.symm.trans hf') (by simp)
  | removeUnknown _ => rfl

end Conduct

end Scheduler

end Crond
