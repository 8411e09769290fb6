import Crond.Schedule.Basic
import Crond.Scheduler.JobId

/-
  Tasks and jobs. A task is work that can be run again and again, and each run may fail; a job is
  a task with a schedule and an id.
-/

namespace Crond

open Calendar

/-- Why a run of a task failed. -/
inductive TaskError where
  | failed (reason : String)
  | unavailable (message : String)
  deriving DecidableEq, Repr

def TaskError.message : TaskError → String
  | failed reason => "Task failed: " ++ reason
  | unavailable message => message

/--
A task: a name, the script it runs if it runs one, the outcome of its n-th run counted from 0, and
the number of its runs so far.
-/
structure Task where
  name : String
  script : String := ""
  outcome : Nat → Except TaskError Unit
  runs : Nat := 0

/-- One run of a job's task; the count includes it. -/
structure Run where
  job : JobId
  task : String
  script : String
  count : Nat
  time : Moment
  deriving DecidableEq, Repr

namespace Task

/-- A task whose runs all succeed. -/
def reliable (name : String) : Task := { name, outcome := fun _ => .ok () }

/-- A task whose outcomes repeat in turn. Without any, all its runs succeed. -/
def cycling (name : String) (outcomes : List (Except TaskError Unit)) : Task where
  name := name
  outcome n := outcomes[n % outcomes.length]?.getD (.ok ())

/-- The outcome of the next run. -/
def next (t : Task) : Except TaskError Unit := t.outcome t.runs

/-- The task after one more run. -/
def advance (t : Task) : Task := { t with runs := t.runs + 1 }

end Task

structure Job where
  id : JobId
  schedule : Schedule
  task : Task

namespace Job

def isDue (j : Job) (t : Moment) : Bool := j.schedule.isDue t

/-- The next run of a job, at a moment. -/
def nextRun (j : Job) (t : Moment) : Run :=
  ⟨j.id, j.task.name, j.task.script, j.task.runs + 1, t⟩

/-- The job after one more run of its task. -/
def advance (j : Job) : Job := { j with task := j.task.advance }

@[simp] theorem id_advance (j : Job) : j.advance.id = j.id := rfl

@[simp] theorem schedule_advance (j : Job) : j.advance.schedule = j.schedule := rfl

end Job

end Crond
