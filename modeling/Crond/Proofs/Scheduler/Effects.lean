import Mathlib.Data.List.Basic
import Crond.Scheduler.Session
import Crond.Scheduler.Timers

/-
  Views of the effects of a scheduler: the runs of tasks, the clock readings, the delays of the
  timers armed, and the ERROR events.

  A run and a log event ask nothing of the host (`Effect.IsQuiet`), and a pass has no other
  effects (`quiet_pass`). So a pass leaves a host and its timers as they are
  (`foldl_serve_quiet`). What it shows is one run for each due job (`runs_pass`), and one ERROR
  event for each of these that fails (`errors_pass`).
-/

namespace Crond

open Calendar Log

/-! ## Views of an effect -/

namespace Effect

/-- The run that an effect tells of. -/
def run? : Effect → Option Run
  | .ran r => some r
  | _ => none

def reading? : Effect → Option Moment
  | .readClock now => some now
  | _ => none

/-- The delay of the timer that an effect arms. -/
def armed? : Effect → Option Duration
  | .arm _ delay => some delay
  | _ => none

/-- The ERROR event that an effect logs. -/
def error? : Effect → Option Event
  | .log e => if e.level = .error then some e else none
  | _ => none

/-- An effect that asks nothing of the host: a run or a log event. -/
def IsQuiet : Effect → Prop
  | .ran _ | .log _ => True
  | _ => False

end Effect

theorem Timers.serve_quiet (ts : Timers) {e : Effect} (h : e.IsQuiet) : ts.serve e = ts := by
  cases e with
  | ran _ => rfl
  | log _ => rfl
  | _ => exact h.elim

theorem Timers.foldl_serve_quiet (ts : Timers) {es : List Effect} (h : ∀ e ∈ es, e.IsQuiet) :
    es.foldl Timers.serve ts = ts := by
  induction es with
  | nil => rfl
  | cons e es ih =>
    rw [List.foldl_cons, serve_quiet ts (h e List.mem_cons_self)]
    exact ih fun e' he' => h e' (List.mem_cons_of_mem e he')

theorem Host.serve_quiet (host : Host) {e : Effect} (h : e.IsQuiet) : host.serve e = host := by
  cases e with
  | ran _ => rfl
  | log _ => rfl
  | _ => exact h.elim

theorem Host.foldl_serve_quiet (host : Host) {es : List Effect} (h : ∀ e ∈ es, e.IsQuiet) :
    es.foldl Host.serve host = host := by
  induction es with
  | nil => rfl
  | cons e es ih =>
    rw [List.foldl_cons, serve_quiet host (h e List.mem_cons_self)]
    exact ih fun e' he' => h e' (List.mem_cons_of_mem e he')

/-- Quiet effects read no clock and arm no timer. -/
theorem Effect.IsQuiet.views {e : Effect} (h : e.IsQuiet) : e.reading? = none ∧ e.armed? = none := by
  cases e with
  | ran _ => exact ⟨rfl, rfl⟩
  | log _ => exact ⟨rfl, rfl⟩
  | _ => exact h.elim

theorem filterMap_reading_quiet {es : List Effect} (h : ∀ e ∈ es, e.IsQuiet) :
    es.filterMap Effect.reading? = [] :=
  List.filterMap_eq_nil_iff.mpr fun e he => (h e he).views.1

theorem filterMap_armed_quiet {es : List Effect} (h : ∀ e ∈ es, e.IsQuiet) :
    es.filterMap Effect.armed? = [] :=
  List.filterMap_eq_nil_iff.mpr fun e he => (h e he).views.2

/-! ## Passes -/

/-- The log event of a failure of a job. -/
def failureEvent (id : JobId) (e : TaskError) : Event :=
  { level := .error, message := e.message, fields := [("job", id.text)] }

/-- What a task logs about one of its runs. -/
def Task.failure? (task : Task) (run : Run) : Option Event :=
  match task.outcome (run.count - 1) with
  | .ok _ => none
  | .error e => some (failureEvent run.job e)

namespace Scheduler

theorem quiet_runEffects (t : Moment) (j : Job) : ∀ e ∈ runEffects t j, e.IsQuiet := by
  intro e he
  unfold runEffects at he
  cases hn : j.task.next with
  | ok _ =>
    simp only [hn, List.append_nil, List.mem_cons, List.not_mem_nil, or_false] at he
    rcases he with rfl | rfl <;> exact trivial
  | error _ =>
    simp only [hn, List.cons_append, List.nil_append, List.mem_cons, List.not_mem_nil,
      or_false] at he
    rcases he with rfl | rfl | rfl <;> exact trivial

theorem quiet_pass (s : Scheduler) (t : Moment) : ∀ e ∈ (s.pass t).2, e.IsQuiet := by
  intro e he
  obtain ⟨j, _, hj⟩ := List.mem_flatMap.mp he
  exact quiet_runEffects t j e hj

/-- A job that is run shows one run, its next one, whatever the outcome. -/
theorem runs_runEffects (t : Moment) (j : Job) :
    (runEffects t j).filterMap Effect.run? = [j.nextRun t] := by
  unfold runEffects
  cases j.task.next with
  | ok _ => rfl
  | error _ => rfl

theorem errors_runEffects (t : Moment) (j : Job) :
    (runEffects t j).filterMap Effect.error? = (j.task.failure? (j.nextRun t)).toList := by
  have hc : (j.nextRun t).count - 1 = j.task.runs := Nat.add_sub_cancel _ _
  unfold runEffects Task.failure?
  rw [hc, ← Task.next]
  cases j.task.next with
  | ok _ => rfl
  | error _ => rfl

theorem runs_pass (s : Scheduler) (t : Moment) :
    (s.pass t).2.filterMap Effect.run? = (s.registry.due t).map fun j => j.nextRun t := by
  simp only [pass, List.filterMap_flatMap, runs_runEffects]
  exact List.map_eq_flatMap.symm

theorem errors_pass (s : Scheduler) (t : Moment) :
    (s.pass t).2.filterMap Effect.error? =
      (s.registry.due t).filterMap fun j => j.task.failure? (j.nextRun t) := by
  simp only [pass, List.filterMap_flatMap, errors_runEffects]
  exact (List.filterMap_eq_flatMap_toList _ _).symm

end Scheduler

end Crond
