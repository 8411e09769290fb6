import Crond.JobTable.Basic
import Crond.Scheduler.Basic

/-
  From the job table to the scheduler: every entry becomes a job, in the order of the table, and
  one that is tagged for startup is run once before it is registered. A run that fails is logged
  and changes nothing else.
-/

namespace Crond.Daemon

open JobTable Log

/-- What the daemon does, in order. -/
inductive Act where
  /-- What the scheduler does, or could do. -/
  | effect (e : Effect)
  /-- Hands a script to the shell, which may fail to come up. -/
  | launch (label script : String) (outcome : Except TaskError Unit)

def Act.log (e : Event) : Act := .effect (.log e)

/-- Whether the shell comes up with a script for the n-th run of a job, counted from 0. -/
abbrev Launches := JobId → String → Nat → Except TaskError Unit

/-- The task of an entry that becomes a job with an id. -/
def task (launches : Launches) (id : JobId) (e : Entry) : Task where
  name := e.label
  script := e.script
  outcome := launches id e.script

def registeredEvent (e : Entry) (id : JobId) : Event :=
  { level := .debug, message := "Registered " ++ e.label, fields := [("id", id.text)] }

/-- The run of an entry at startup. -/
def startupActs (t : Task) : List Act :=
  [.log { level := .info, message := "Running @startup job " ++ t.name },
   .launch t.name t.script t.next] ++
  match t.next with
  | .ok _ => []
  | .error e => [.log { level := .error, message := t.name ++ ": " ++ e.message }]

/-- What is done for an entry before it is registered. -/
def prepareActs (e : Entry) (t : Task) : List Act := if e.startup then startupActs t else []

/-- The task of an entry when it is registered. -/
def prepared (e : Entry) (t : Task) : Task := if e.startup then t.advance else t

def register (launches : Launches) (s : Scheduler) (e : Entry) : Scheduler × List Act :=
  let id : JobId := ⟨s.registry.next⟩
  let t := task launches id e
  (s.insert e.schedule (prepared e t), prepareActs e t ++ [.log (registeredEvent e id)])

def registerAll (launches : Launches) (s : Scheduler) : List Entry → Scheduler × List Act
  | [] => (s, [])
  | e :: es =>
    let first := register launches s e
    let rest := registerAll launches first.1 es
    (rest.1, first.2 ++ rest.2)

end Crond.Daemon
