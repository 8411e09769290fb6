import Crond.Daemon.Boot
import Crond.Proofs.JobTable.Reading
import Crond.Proofs.Scheduler.Effects
import Crond.Proofs.Scheduler.Registrations

/-
  From a job table to the jobs that are run.

  Registering entries one after another makes one job of each, with the ids in the order of the
  table (`registerAll_scheduler`), and does for each what its entry asks (`registerAll_acts`):
  which scripts are handed to the shell (`launches_registerAll`) and which failures are logged
  (`errors_registerAll`). What becomes of a script at startup has no part in the jobs.

  Proved: `table_comes_up`. The entries are those of the sections of the table; each has one job,
  with its own schedule and script; those tagged for startup have run once, before the scheduler
  was started; and from then on a pass runs just the entries that are due, in the order of the
  table.
-/

namespace Crond.Daemon

open Calendar JobTable Log Text

/-! ## Views of an act -/

namespace Act

/-- The label and the script that are handed to the shell, and whether it came up. -/
def launch? : Act → Option (String × String × Except TaskError Unit)
  | .launch label script outcome => some (label, script, outcome)
  | .effect _ => none

/-- The ERROR event that an act logs. -/
def error? : Act → Option Event
  | .effect e => e.error?
  | .launch _ _ _ => none

/-- An act that asks nothing of the host. -/
def IsQuiet : Act → Prop
  | .effect e => e.IsQuiet
  | .launch _ _ _ => True

end Act

/-! ## Jobs -/

/-- The job that an entry becomes under a number. -/
def jobOf (launches : Launches) (e : Entry) (n : Nat) : Job :=
  ⟨⟨n⟩, e.schedule, prepared e (task launches ⟨n⟩ e)⟩

/-- How often an entry has run when it is registered. -/
def startupRuns (e : Entry) : Nat := if e.startup then 1 else 0

/-- A job is that of an entry with a number. -/
structure IsJobOf (e : Entry) (n : Nat) (j : Job) : Prop where
  id : j.id = ⟨n⟩
  text : j.id.text = "job" ++ toString n
  schedule : j.schedule = e.schedule
  name : j.task.name = e.label
  script : j.task.script = "\n".intercalate e.commands
  runs : j.task.runs = startupRuns e

section

variable (launches : Launches)

theorem task_jobOf (e : Entry) (n : Nat) :
    (jobOf launches e n).task =
      { name := e.label, script := e.script, outcome := launches ⟨n⟩ e.script,
        runs := startupRuns e } := by
  unfold jobOf prepared startupRuns
  cases e.startup <;> rfl

theorem isJobOf_jobOf (e : Entry) (n : Nat) : IsJobOf e n (jobOf launches e n) := by
  have htask := task_jobOf launches e n
  exact ⟨rfl, JobId.text_eq n, rfl, by rw [htask], by rw [htask]; rfl, by rw [htask]⟩

theorem nextRun_jobOf (e : Entry) (n : Nat) (t : Moment) :
    (jobOf launches e n).nextRun t =
      ⟨⟨n⟩, e.label, "\n".intercalate e.commands, startupRuns e + 1, t⟩ := by
  unfold Job.nextRun
  rw [task_jobOf]
  rfl

/-- Each entry becomes the job with the next number. -/
theorem registerAll_scheduler (s : Scheduler) (es : List Entry) :
    (registerAll launches s es).1 =
      { s with registry :=
          { jobs := s.registry.jobs ++
              (es.zipIdx s.registry.next).map fun (e, n) => jobOf launches e n
            next := s.registry.next + es.length } } := by
  induction es generalizing s with
  | nil => simp [registerAll]
  | cons e es ih =>
    have hfirst : (register launches s e).1.registry =
        ⟨s.registry.jobs ++ [jobOf launches e s.registry.next], s.registry.next + 1⟩ := rfl
    have hphase : (register launches s e).1.phase = s.phase := rfl
    unfold registerAll
    dsimp only
    rw [ih, hfirst, hphase, List.zipIdx_cons, List.map_cons, List.append_assoc, List.length_cons,
      Nat.add_assoc, Nat.add_comm 1]
    rfl

/-- What is done for an entry with a number. -/
def entryActs (e : Entry) (n : Nat) : List Act :=
  prepareActs e (task launches ⟨n⟩ e) ++ [.log (registeredEvent e ⟨n⟩)]

theorem registerAll_acts (s : Scheduler) (es : List Entry) :
    (registerAll launches s es).2 =
      (es.zipIdx s.registry.next).flatMap fun (e, n) => entryActs launches e n := by
  induction es generalizing s with
  | nil => rfl
  | cons e es ih =>
    unfold registerAll
    dsimp only
    rw [ih, List.zipIdx_cons, List.flatMap_cons]
    rfl

/-! ## Startup -/

theorem quiet_entryActs (e : Entry) (n : Nat) : ∀ act ∈ entryActs launches e n, act.IsQuiet := by
  intro act hact
  unfold entryActs prepareActs startupActs at hact
  rcases List.mem_append.mp hact with hact | hact
  · split at hact
    · rcases List.mem_append.mp hact with hact | hact
      · rcases List.mem_pair.mp hact with rfl | rfl <;> exact trivial
      · split at hact
        · exact absurd hact List.not_mem_nil
        · rw [List.mem_singleton.mp hact]
          exact trivial
    · exact absurd hact List.not_mem_nil
  · rw [List.mem_singleton.mp hact]
    exact trivial

theorem launches_entryActs (e : Entry) (n : Nat) :
    (entryActs launches e n).filterMap Act.launch? =
      if e.startup then [(e.label, e.script, launches ⟨n⟩ e.script 0)] else [] := by
  unfold entryActs prepareActs startupActs
  cases e.startup with
  | false => rfl
  | true =>
    rw [if_pos rfl, if_pos rfl]
    cases hnext : (task launches ⟨n⟩ e).next with
    | ok _ => exact congrArg (fun outcome => [(e.label, e.script, outcome)]) hnext.symm
    | error _ => exact congrArg (fun outcome => [(e.label, e.script, outcome)]) hnext.symm

/-- The ERROR event of an entry whose run at startup fails. -/
def startupFailure? (e : Entry) (outcome : Except TaskError Unit) : Option Event :=
  match outcome with
  | .ok _ => none
  | .error fault => some { level := .error, message := e.label ++ ": " ++ fault.message }

theorem errors_entryActs (e : Entry) (n : Nat) :
    (entryActs launches e n).filterMap Act.error? =
      if e.startup then (startupFailure? e (launches ⟨n⟩ e.script 0)).toList else [] := by
  have hnext : (task launches ⟨n⟩ e).next = launches ⟨n⟩ e.script 0 := rfl
  unfold entryActs prepareActs startupActs
  rw [hnext]
  cases e.startup with
  | false => rfl
  | true => cases launches ⟨n⟩ e.script 0 <;> rfl

end

/-- Acts that are made entry by entry are looked at entry by entry. -/
theorem filterMap_flatMap_startup {β : Type} (view? : Act → Option β)
    (acts : Entry × Nat → List Act) (results : Entry × Nat → List β)
    (h : ∀ p, (acts p).filterMap view? = if p.1.startup then results p else [])
    (ps : List (Entry × Nat)) :
    (ps.flatMap acts).filterMap view? = (ps.filter fun p => p.1.startup).flatMap results := by
  induction ps with
  | nil => rfl
  | cons p ps ih =>
    rw [List.flatMap_cons, List.filterMap_append, h p, ih]
    by_cases hp : p.1.startup = true
    · rw [if_pos hp, List.filter_cons_of_pos (by simpa using hp), List.flatMap_cons]
    · rw [if_neg hp, List.filter_cons_of_neg (by simpa using hp), List.nil_append]

/-- The entries that are tagged for startup, with their numbers. -/
def startupEntries (es : List Entry) : List (Entry × Nat) :=
  es.zipIdx.filter fun p => p.1.startup

/-- The entries that are due at a moment, with their numbers. -/
def dueEntries (es : List Entry) (t : Moment) : List (Entry × Nat) :=
  es.zipIdx.filter fun p => p.1.schedule.isDue t

theorem launches_registerAll (launches : Launches) (es : List Entry) :
    (registerAll launches {} es).2.filterMap Act.launch? =
      (startupEntries es).map fun (e, n) => (e.label, e.script, launches ⟨n⟩ e.script 0) := by
  rw [registerAll_acts, filterMap_flatMap_startup Act.launch? _
    (fun p => [(p.1.label, p.1.script, launches ⟨p.2⟩ p.1.script 0)])
    fun p => launches_entryActs launches p.1 p.2]
  exact List.map_eq_flatMap.symm

theorem errors_registerAll (launches : Launches) (es : List Entry) :
    (registerAll launches {} es).2.filterMap Act.error? =
      (startupEntries es).filterMap fun (e, n) =>
        startupFailure? e (launches ⟨n⟩ e.script 0) := by
  rw [registerAll_acts, filterMap_flatMap_startup Act.error? _
    (fun p => (startupFailure? p.1 (launches ⟨p.2⟩ p.1.script 0)).toList)
    fun p => errors_entryActs launches p.1 p.2]
  exact (List.filterMap_eq_flatMap_toList _ _).symm

/-! ## The jobs of a table -/

/-- A registry holds one job for each of some entries, in their order and under their numbers. -/
structure HoldsEntries (r : Registry) (es : List Entry) : Prop where
  jobs : List.Forall₂ (fun p j => IsJobOf p.1 p.2 j) es.zipIdx r.jobs
  find : ∀ i, r.find? ⟨i⟩ = r.jobs[i]?

section

variable (launches : Launches)

/-- The job with a number is found at the place of the number. -/
theorem find?_jobOf (es : List Entry) (k i : Nat) :
    ((es.zipIdx k).map fun (e, n) => jobOf launches e n).find? (fun j => j.id = ⟨k + i⟩) =
      ((es.zipIdx k).map fun (e, n) => jobOf launches e n)[i]? := by
  induction es generalizing k i with
  | nil => rfl
  | cons e es ih =>
    rw [List.zipIdx_cons, List.map_cons]
    cases i with
    | zero => exact List.find?_cons_of_pos (by simp [jobOf])
    | succ i =>
      rw [List.find?_cons_of_neg (by simp [jobOf]), List.getElem?_cons_succ, ← ih (k + 1) i,
        Nat.add_right_comm, Nat.add_assoc]

theorem registerAll_new (es : List Entry) :
    (registerAll launches {} es).1 =
      { registry := ⟨es.zipIdx.map fun (e, n) => jobOf launches e n, es.length⟩ } := by
  have hscheduler := registerAll_scheduler launches {} es
  simp only [List.nil_append, Nat.zero_add] at hscheduler
  exact hscheduler

theorem holdsEntries_registerAll (es : List Entry) :
    HoldsEntries (registerAll launches {} es).1.registry es := by
  rw [registerAll_new]
  constructor
  · exact List.forall₂_map_right_iff.mpr
      (List.forall₂_same.mpr fun p _ => isJobOf_jobOf launches p.1 p.2)
  · intro i
    have hfind := find?_jobOf launches es 0 i
    rw [Nat.zero_add] at hfind
    exact hfind

/-- A pass over the jobs of entries runs the entries that are due. -/
theorem runs_registerAll (es : List Entry) (t : Moment) (phase : Phase) :
    ((Scheduler.mk (registerAll launches {} es).1.registry phase).pass t).2.filterMap
        Effect.run? =
      (dueEntries es t).map fun (e, n) =>
        ⟨⟨n⟩, e.label, "\n".intercalate e.commands, startupRuns e + 1, t⟩ := by
  rw [Scheduler.runs_pass, registerAll_new]
  unfold Registry.due dueEntries
  rw [List.filter_map, List.map_map]
  exact List.map_congr_left fun p _ => nextRun_jobOf launches p.1 p.2 t

end

/-! ## Coming up -/

/-- Acts that hand the scripts of the entries tagged for startup to the shell, once each and in
    order, log those that fail, and ask nothing else of the host. -/
structure RunsStartup (launches : Launches) (es : List Entry) (acts : List Act) : Prop where
  launched : acts.filterMap Act.launch? = (startupEntries es).map fun (e, n) =>
    (e.label, "\n".intercalate e.commands, launches ⟨n⟩ ("\n".intercalate e.commands) 0)
  failed : acts.filterMap Act.error? = (startupEntries es).filterMap fun (e, n) =>
    startupFailure? e (launches ⟨n⟩ ("\n".intercalate e.commands) 0)
  quiet : ∀ act ∈ acts, act.IsQuiet

/-- What is done before the scheduler is started. -/
def beforeStart (s : Surroundings) (path : String) (es : List Entry) : List Act :=
  (if es.isEmpty then [.log { level := .warn, message := "No jobs in " ++ path }] else []) ++
    (registerAll s.launches {} es).2

section

variable (s : Surroundings) (path : String) (es : List Entry)

/-- A warning of an empty table shows neither a launch nor an error. -/
theorem filterMap_beforeStart {β : Type} (view? : Act → Option β)
    (h : ∀ message, view? (.log { level := .warn, message }) = none) :
    (beforeStart s path es).filterMap view? =
      (registerAll s.launches {} es).2.filterMap view? := by
  unfold beforeStart
  rw [List.filterMap_append]
  split
  · rw [List.filterMap_cons_none (h _)]
    rfl
  · rfl

theorem runsStartup_beforeStart : RunsStartup s.launches es (beforeStart s path es) where
  launched := (filterMap_beforeStart s path es Act.launch? fun _ => rfl).trans
    (launches_registerAll s.launches es)
  failed := (filterMap_beforeStart s path es Act.error? fun _ => rfl).trans
    (errors_registerAll s.launches es)
  quiet := by
    intro act hact
    rcases List.mem_append.mp hact with hact | hact
    · split at hact
      · rw [List.mem_singleton.mp hact]
        exact trivial
      · exact absurd hact List.not_mem_nil
    · rw [registerAll_acts] at hact
      obtain ⟨p, _, hp⟩ := List.mem_flatMap.mp hact
      exact quiet_entryActs s.launches p.1 p.2 act hp

end

theorem registry_start (s : Scheduler) (o : Offer) : (s.start o).1.registry = s.registry := by
  unfold Scheduler.start
  cases s.phase <;> rfl

/-- From a job table that is read to what is run. The entries are those of the sections of the
    table, with the schedules and the commands written there. Registering them makes one job of
    each, whatever becomes of their scripts. Before the scheduler is started, the entries tagged
    for startup are run once each, and starting runs nothing more. A pass then runs just the
    entries that are due, in the order of the table and each with its own script. -/
theorem table_comes_up (table : String) {es : List Entry} (h : JobTable.parse table = .ok es)
    (s : Surroundings) (path : String) :
    let loop := registerAll s.launches {} es
    let up := comeUp s path es
    (∃ above sections, Outline (lines table.toList) above sections ∧
      List.Forall₂ Section.Tells sections es) ∧
    (HoldsEntries loop.1.registry es ∧ loop.1.phase = .stopped) ∧
    (∃ before, RunsStartup s.launches es before ∧
      up.2 = before ++ (loop.1.start s.offer).2.map .effect) ∧
    (up.1 = (loop.1.start s.offer).1 ∧ up.1.registry = loop.1.registry) ∧
    ∀ t phase, ((Scheduler.mk loop.1.registry phase).pass t).2.filterMap Effect.run? =
      (dueEntries es t).map fun (e, n) =>
        ⟨⟨n⟩, e.label, "\n".intercalate e.commands, startupRuns e + 1, t⟩ := by
  intro loop up
  have hstopped : loop.1.phase = .stopped := by
    unfold loop
    rw [registerAll_new]
  refine ⟨?_, ⟨holdsEntries_registerAll s.launches es, hstopped⟩,
    ⟨beforeStart s path es, runsStartup_beforeStart s path es, rfl⟩,
    ⟨rfl, registry_start loop.1 s.offer⟩, runs_registerAll s.launches es⟩
  obtain ⟨above, sections, houtline⟩ := exists_outline (lines table.toList)
  exact ⟨above, sections, houtline, ((read_eq_ok_iff_outline houtline).mp h).2⟩

/-- Two jobs, of which the first is tagged for startup and fails: the second one is registered
    all the same and is run alone on a Thursday. -/
theorem table_comes_up_failing :
    let table := "a: * * * * * 1 @startup\n\tx\n  y\nb: * * * * * *\n\tz"
    let mondays : Schedule := ⟨.any, .any, .any, .any, .any, .value 1⟩
    let any : Schedule := ⟨.any, .any, .any, .any, .any, .any⟩
    let es : List Entry := [⟨"a", mondays, true, ["x", "y"]⟩, ⟨"b", any, false, ["z"]⟩]
    let s : Surroundings :=
      { build := ⟨"unknown", "2000-01-01"⟩, arguments := [], environment := []
        file := fun _ => none, launches := fun _ _ _ => .error (.failed "no shell")
        offer := ⟨Moment.epoch, 1⟩ }
    JobTable.parse table = .ok es ∧
      ((registerAll s.launches {} es).1.pass Moment.epoch).2.filterMap Effect.run? =
        [⟨⟨1⟩, "b", "z", 1, Moment.epoch⟩] := by
  intro table mondays any es s
  have h : JobTable.parse table = .ok es := by decide +kernel
  obtain ⟨-, -, -, -, hpass⟩ := table_comes_up table h s "jobs"
  refine ⟨h, (hpass Moment.epoch _).trans ?_⟩
  decide +kernel

end Crond.Daemon
