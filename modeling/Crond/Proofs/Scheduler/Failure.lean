import Crond.Proofs.Scheduler.History

/-
  What a failing task changes: nothing but the log.

  `steady` is a scheduler in which every task succeeds, with the same names, scripts, schedules
  and counts. Proved:
  * `run_steady`: a steady session does what the session itself does, less the ERROR events. So
    no outcome of a task reaches a run, a reply, the host or the registry.
  * `failuresOver_eq`: there is one ERROR event for each run whose task fails, in order, and the
    task is the one that the history registered under the id of the run.
-/

namespace Crond

open Calendar Log

/-! ## One ERROR event for each failing run -/

def Change.registration? : Change → Option (Schedule × Task)
  | .register schedule task => some (schedule, task)
  | _ => none

/-- The registrations of a history; the id of each is its position. -/
def registered (h : List Change) : List (Schedule × Task) := h.filterMap Change.registration?

/-- What the log tells of a run, given the registrations. -/
def failure? (registrations : List (Schedule × Task)) (run : Run) : Option Event :=
  match registrations[run.job.number]? with
  | some (_, task) => task.failure? run
  | none => none

/-- The jobs of a registry are among the registrations, each at the position of its id. -/
structure Registry.From (registrations : List (Schedule × Task)) (r : Registry) : Prop where
  length : registrations.length = r.next
  jobs : ∀ j ∈ r.jobs, ∃ entry, registrations[j.id.number]? = some entry ∧
    entry.2.outcome = j.task.outcome

theorem Registry.from_empty : From [] {} := ⟨rfl, fun _ h => absurd h List.not_mem_nil⟩

theorem Task.failure?_congr {task task' : Task} (h : task.outcome = task'.outcome) (run : Run) :
    task.failure? run = task'.failure? run := by
  unfold failure?
  rw [h]

theorem getElem?_registrations {registrations : List (Schedule × Task)} {n : Nat}
    {entry : Schedule × Task} (h : registrations[n]? = some entry) (more : List (Schedule × Task)) :
    (registrations ++ more)[n]? = some entry := by
  obtain ⟨hn, _⟩ := List.getElem?_eq_some_iff.mp h
  rw [List.getElem?_append_left hn, h]

theorem Registry.From.apply {registrations : List (Schedule × Task)} {r : Registry}
    (h : From registrations r) (c : Change) :
    From (registrations ++ c.registration?.toList) (r.apply c) := by
  cases c with
  | register schedule task =>
    refine ⟨by simp [Change.registration?, Registry.apply, add, h.length], fun j hj => ?_⟩
    rcases List.mem_append.mp hj with hj | hj
    · obtain ⟨entry, hentry, ho⟩ := h.jobs j hj
      exact ⟨entry, getElem?_registrations hentry _, ho⟩
    · rw [List.mem_singleton.mp hj]
      refine ⟨(schedule, task), ?_, rfl⟩
      change (registrations ++ [(schedule, task)])[r.next]? = _
      rw [← h.length, List.getElem?_concat_length]
  | remove id =>
    change From (registrations ++ []) _
    rw [List.append_nil]
    exact ⟨h.length, fun j hj => h.jobs j (List.mem_filter.mp hj).1⟩
  | pass t =>
    change From (registrations ++ []) _
    rw [List.append_nil]
    refine ⟨h.length, fun j hj => ?_⟩
    obtain ⟨k, hk, rfl⟩ := List.mem_map.mp hj
    obtain ⟨entry, hentry, ho⟩ := h.jobs k hk
    refine ⟨entry, ?_, ?_⟩ <;> split <;> assumption
  | keep =>
    change From (registrations ++ []) _
    rwa [List.append_nil]

theorem Registry.From.failures_eq {registrations more : List (Schedule × Task)} {r : Registry}
    (h : From registrations r) (c : Change) :
    r.failures c = (r.runs c).filterMap (failure? (registrations ++ more)) := by
  cases c with
  | pass t =>
    rw [Registry.runs, Registry.failures, List.filterMap_map]
    refine List.filterMap_congr fun j hj => ?_
    obtain ⟨entry, hentry, ho⟩ := h.jobs j (List.mem_filter.mp hj).1
    have hfound : (registrations ++ more)[(j.nextRun t).job.number]? = some entry :=
      getElem?_registrations hentry more
    simp only [Function.comp_apply, failure?, hfound]
    exact (Task.failure?_congr ho _).symm
  | _ => rfl

/-- The ERROR events of a history are those of its failing runs. -/
theorem Registry.From.failuresOver_eq {registrations : List (Schedule × Task)} {r : Registry}
    (hr : From registrations r) (h : List Change) :
    r.failuresOver h = (r.runsOver h).filterMap (failure? (registrations ++ registered h)) := by
  induction h generalizing r registrations with
  | nil => rfl
  | cons c h ih =>
    have hsplit : registrations ++ registered (c :: h) =
        registrations ++ c.registration?.toList ++ registered h := by
      unfold registered
      rw [List.append_assoc, List.filterMap_cons]
      cases c.registration? <;> rfl
    rw [Registry.failuresOver, Registry.runsOver, List.filterMap_append, hr.failures_eq,
      ih (hr.apply c), hsplit]

/-! ## Schedulers without failures -/

/-- The task with the same name and script whose runs all succeed. -/
def Task.steady (task : Task) : Task := { task with outcome := fun _ => .ok () }

def Job.steady (j : Job) : Job := { j with task := j.task.steady }

def Registry.steady (r : Registry) : Registry := { r with jobs := r.jobs.map Job.steady }

def Scheduler.steady (s : Scheduler) : Scheduler := { s with registry := s.registry.steady }

def Session.steady (s : Session) : Session := { s with scheduler := s.scheduler.steady }

def Op.steady : Op → Op
  | .schedule expression task => .schedule expression task.steady
  | .insert s task => .insert s task.steady
  | op => op

def Reply.steady : Reply → Reply
  | .registered job => .registered job.steady
  | .removed job => .removed (job.map Job.steady)
  | r => r

/-- Effects without the ERROR events among them. -/
def withoutErrors (es : List Effect) : List Effect := es.filter fun e => e.error?.isNone

def Step.steady (s : Step) : Step := ⟨s.op.steady, withoutErrors s.effects, s.reply.steady⟩

theorem withoutErrors_cons (e : Effect) (es : List Effect) :
    withoutErrors (e :: es) =
      if e.error?.isNone then e :: withoutErrors es else withoutErrors es :=
  List.filter_cons

theorem withoutErrors_append (es es' : List Effect) :
    withoutErrors (es ++ es') = withoutErrors es ++ withoutErrors es' :=
  List.filter_append es es'

namespace Registry

theorem steady_add (r : Registry) (schedule : Schedule) (task : Task) :
    (r.add schedule task).steady = r.steady.add schedule task.steady := by
  simp only [steady, add, List.map_append]
  rfl

theorem steady_remove (r : Registry) (id : JobId) : (r.remove id).steady = r.steady.remove id := by
  simp only [steady, remove, List.filter_map]
  rfl

theorem find?_steady (r : Registry) (id : JobId) :
    r.steady.find? id = (r.find? id).map Job.steady :=
  List.find?_map

theorem due_steady (r : Registry) (t : Moment) :
    r.steady.due t = (r.due t).map Job.steady :=
  List.filter_map

theorem steady_advance (r : Registry) (t : Moment) :
    (r.advance t).steady = r.steady.advance t := by
  simp only [steady, advance, List.map_map]
  congr 1
  refine List.map_congr_left fun j _ => ?_
  by_cases hd : j.isDue t
  · simp only [Function.comp_apply, if_pos hd, show j.steady.isDue t = true from hd]
    rfl
  · simp only [Function.comp_apply, if_neg hd, show ¬ j.steady.isDue t = true from hd]
    rfl

end Registry

namespace Scheduler

theorem runEffects_steady (t : Moment) (j : Job) :
    runEffects t j.steady = withoutErrors (runEffects t j) := by
  unfold runEffects
  cases hn : j.task.next with
  | ok _ => rfl
  | error _ => rfl

theorem pass_steady (s : Scheduler) (t : Moment) :
    s.steady.pass t = ((s.pass t).1.steady, withoutErrors (s.pass t).2) := by
  refine Prod.ext ?_ ?_
  · simp only [pass, steady, Registry.steady_advance]
  · change (s.registry.steady.due t).flatMap (runEffects t) = _
    rw [Registry.due_steady, List.flatMap_map]
    simp only [runEffects_steady]
    exact List.filter_flatMap.symm

end Scheduler

def Outcome.steady (o : Outcome) : Outcome :=
  ⟨o.scheduler.steady, withoutErrors o.effects, o.reply.steady⟩

namespace Scheduler

theorem step_steady (s : Scheduler) (o : Offer) (op : Op) :
    s.steady.step o op.steady = (s.step o op).steady := by
  cases op with
  | schedule expression task =>
    cases hp : Schedule.parse expression with
    | ok schedule =>
      simp only [step, Op.steady, hp, Outcome.steady, steady, insert, Registry.steady_add]
      rfl
    | error fault =>
      simp only [step, Op.steady, hp, Outcome.steady]
      rfl
  | insert schedule task =>
    simp only [step, Op.steady, Outcome.steady, steady, insert, Registry.steady_add]
    rfl
  | unschedule id =>
    simp only [step, Op.steady, Outcome.steady]
    rw [show s.steady.registry.find? id = _ from Registry.find?_steady _ _]
    cases s.registry.find? id with
    | none => rfl
    | some job =>
      simp only [Option.map_some, steady, Registry.steady_remove]
      rfl
  | start =>
    simp only [step, Op.steady, Outcome.steady, start, show s.steady.phase = s.phase from rfl]
    cases s.phase <;> rfl
  | stop =>
    simp only [step, Op.steady, Outcome.steady, stop, show s.steady.phase = s.phase from rfl]
    cases s.phase <;> rfl
  | tick =>
    simp only [step, Op.steady, Outcome.steady, tick, show s.steady.phase = s.phase from rfl]
    cases s.phase with
    | stopped => rfl
    | running _ =>
      have hpass := pass_steady { s with phase := .running o.timer } o.now
      simp only [withoutErrors_append]
      rw [show ({ s.steady with phase := .running o.timer } : Scheduler) =
        ({ s with phase := .running o.timer } : Scheduler).steady from rfl, hpass]
      rfl
  | pass t =>
    have hlen : (s.steady.registry.due t).length = (s.registry.due t).length := by
      rw [show s.steady.registry.due t = _ from Registry.due_steady _ _, List.length_map]
    simp only [step, Op.steady, Outcome.steady, pass_steady, hlen]
    rfl

end Scheduler

/-- The host does not see ERROR events. -/
theorem Host.foldl_serve_withoutErrors (host : Host) (es : List Effect) :
    (withoutErrors es).foldl Host.serve host = es.foldl Host.serve host := by
  induction es generalizing host with
  | nil => rfl
  | cons e es ih =>
    by_cases he : e.error?.isNone
    · rw [withoutErrors_cons, if_pos he]
      exact ih _
    · have hq : e.IsQuiet := by
        cases e with
        | log _ => trivial
        | _ => exact absurd rfl he
      rw [withoutErrors_cons, if_neg he, List.foldl_cons, serve_quiet host hq]
      exact ih host

namespace Session

theorem step_steady (s : Session) (op : Op) :
    s.steady.step op.steady = ((s.step op).1.steady, (s.step op).2.steady) := by
  unfold step
  rw [show s.steady.scheduler = s.scheduler.steady from rfl,
    show s.steady.host = s.host from rfl, Scheduler.step_steady]
  simp only [Outcome.steady, Host.foldl_serve_withoutErrors]
  rfl

/-- A session without failures does what the session does, less the ERROR events. -/
theorem run_steady (s : Session) (ops : List Op) :
    s.steady.run (ops.map Op.steady) =
      ((s.run ops).1.steady, (s.run ops).2.map Step.steady) := by
  induction ops generalizing s with
  | nil => rfl
  | cons op ops ih =>
    rw [List.map_cons, run, step_steady]
    simp only [ih]
    rfl

end Session

end Crond
