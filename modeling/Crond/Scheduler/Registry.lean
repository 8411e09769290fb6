import Crond.Scheduler.Job

/-
  The registry: the jobs of a scheduler in the order in which they were registered, and the
  number of the next id. Ids are given out once; removing a job frees none.
-/

namespace Crond

open Calendar

structure Registry where
  jobs : List Job := []
  next : Nat := 0

namespace Registry

/-- The job that registering a task makes. -/
def nextJob (r : Registry) (s : Schedule) (t : Task) : Job := ⟨⟨r.next⟩, s, t⟩

def add (r : Registry) (s : Schedule) (t : Task) : Registry :=
  { jobs := r.jobs ++ [r.nextJob s t], next := r.next + 1 }

def find? (r : Registry) (id : JobId) : Option Job := r.jobs.find? fun j => j.id = id

def remove (r : Registry) (id : JobId) : Registry :=
  { r with jobs := r.jobs.filter fun j => j.id ≠ id }

/-- The jobs due at a moment, in the order of registration. -/
def due (r : Registry) (t : Moment) : List Job := r.jobs.filter fun j => j.isDue t

/-- The registry after every due job has run once. -/
def advance (r : Registry) (t : Moment) : Registry :=
  { r with jobs := r.jobs.map fun j => if j.isDue t then j.advance else j }

end Registry

end Crond
