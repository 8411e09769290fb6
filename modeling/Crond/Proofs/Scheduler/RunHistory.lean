import Crond.Proofs.Scheduler.Failure

/-
  When the tasks of a scheduler are run.

  `expectedRuns` is the rule: a job is run at every pass after its registration and before its
  removal at which its schedule is due, once. It is computed from the history of the operations
  and looks at no registry.

  Proved:
  * `runsOver_registered`, `runsOver_removed`, `runsOver_unregistered`: what a registry runs of
    a job that it has, that it had, and that it will have.
  * `Session.runs_follow_history`: from a new scheduler on, the runs of every job are the
    expected ones; a pass runs its jobs in the order of registration and counts them; each
    failure is one ERROR event; and a scheduler whose tasks never fail does the same otherwise.
-/

namespace Crond

open Calendar Log

/-! ## The rule -/

/-- The run of a task after `i` others since its registration. -/
def Task.runAt (task : Task) (id : JobId) (i : Nat) (t : Moment) : Run :=
  ⟨id, task.name, task.script, task.runs + i + 1, t⟩

/-- After one more run, the i-th run is what the (i + 1)-th was before. -/
theorem Task.runAt_advance (task : Task) (id : JobId) :
    task.advance.runAt id = fun i => task.runAt id (i + 1) := by
  funext i t
  simp only [runAt, advance, Run.mk.injEq, true_and, and_true]
  omega

namespace Change

/-- The time of a pass at which a schedule is due. -/
def dueTime? (schedule : Schedule) : Change → Option Moment
  | .pass t => if schedule.isDue t then some t else none
  | _ => none

def removes (id : JobId) : Change → Bool
  | .remove i => i = id
  | _ => false

end Change

/-- The passes before the removal of an id at which a schedule is due. -/
def dueTimes (schedule : Schedule) (id : JobId) (h : List Change) : List Moment :=
  (h.takeWhile fun c => !c.removes id).filterMap (Change.dueTime? schedule)

/-- The registration with a number, counted from 0, and what comes after it. -/
def registration? : Nat → List Change → Option (Schedule × Task × List Change)
  | _, [] => none
  | 0, .register schedule task :: h => some (schedule, task, h)
  | n + 1, .register _ _ :: h => registration? n h
  | n, _ :: h => registration? n h

/-- The runs of a job that a history asks for. -/
def expectedRuns (h : List Change) (id : JobId) : List Run :=
  match registration? id.number h with
  | some (schedule, task, rest) => (dueTimes schedule id rest).mapIdx (task.runAt id)
  | none => []

/-- The runs of one job. -/
def runsOf (id : JobId) (runs : List Run) : List Run := runs.filter fun r => r.job = id

theorem runsOf_append (id : JobId) (runs runs' : List Run) :
    runsOf id (runs ++ runs') = runsOf id runs ++ runsOf id runs' :=
  List.filter_append runs runs'

theorem dueTimes_cons (schedule : Schedule) (id : JobId) {c : Change} (hc : c.removes id = false)
    (h : List Change) :
    dueTimes schedule id (c :: h) = (c.dueTime? schedule).toList ++ dueTimes schedule id h := by
  unfold dueTimes
  rw [List.takeWhile_cons_of_pos (by rw [hc]; rfl)]
  cases hd : c.dueTime? schedule with
  | none => rw [List.filterMap_cons_none hd]; rfl
  | some t => rw [List.filterMap_cons_some hd]; rfl

theorem dueTimes_removal (schedule : Schedule) {id : JobId} {c : Change} (hc : c.removes id = true)
    (h : List Change) : dueTimes schedule id (c :: h) = [] := by
  unfold dueTimes
  rw [List.takeWhile_cons_of_neg (by rw [hc]; decide)]
  rfl

namespace Registry

/-! ## Ids -/

/-- The jobs stand in the order of their ids, and the next id is larger than all of them. -/
structure Ordered (r : Registry) : Prop where
  sorted : r.jobs.Pairwise fun j j' => j.id.number < j'.id.number
  below : ∀ j ∈ r.jobs, j.id.number < r.next

theorem ordered_empty : Ordered {} :=
  ⟨List.Pairwise.nil, fun _ h => absurd h List.not_mem_nil⟩

/-- A job of a registry after a change was there before, maybe run once more, or is the job
    that the change registers. -/
theorem mem_apply {r : Registry} {c : Change} {j : Job} (hj : j ∈ (r.apply c).jobs) :
    (∃ k ∈ r.jobs, k.id = j.id) ∨ j.id.number = r.next ∧ (r.apply c).next = r.next + 1 := by
  cases c with
  | register schedule task =>
    rcases List.mem_append.mp hj with hj | hj
    · exact Or.inl ⟨j, hj, rfl⟩
    · rw [List.mem_singleton.mp hj]
      exact Or.inr ⟨rfl, rfl⟩
  | remove id => exact Or.inl ⟨j, (List.mem_filter.mp hj).1, rfl⟩
  | pass t =>
    obtain ⟨k, hk, rfl⟩ := List.mem_map.mp hj
    refine Or.inl ⟨k, hk, ?_⟩
    split <;> rfl
  | keep => exact Or.inl ⟨j, hj, rfl⟩

theorem next_le_apply (r : Registry) (c : Change) : r.next ≤ (r.apply c).next := by
  cases c with
  | register schedule task => exact Nat.le_succ _
  | _ => exact Nat.le_refl _

theorem Ordered.apply {r : Registry} (h : r.Ordered) (c : Change) : (r.apply c).Ordered := by
  constructor
  · cases c with
    | register schedule task =>
      refine List.pairwise_append.mpr ⟨h.sorted, List.pairwise_singleton _ _, fun j hj k hk => ?_⟩
      rw [List.mem_singleton.mp hk]
      exact h.below j hj
    | remove id => exact h.sorted.filter _
    | pass t =>
      refine List.pairwise_map.mpr (h.sorted.imp fun {j k} hjk => ?_)
      split <;> split <;> exact hjk
    | keep => exact h.sorted
  · intro j hj
    have hle := r.next_le_apply c
    rcases mem_apply hj with ⟨k, hk, hid⟩ | ⟨hid, hn⟩
    · have := h.below k hk
      rw [hid] at this
      omega
    · omega

/-- An id is that of one job at most. -/
theorem Ordered.filter_id {r : Registry} (h : r.Ordered) {j : Job} (hj : j ∈ r.jobs) :
    r.jobs.filter (fun k => k.id = j.id) = [j] := by
  obtain ⟨before, after, hsplit⟩ := List.append_of_mem hj
  have hs := h.sorted
  rw [hsplit, List.pairwise_append, List.pairwise_cons] at hs
  obtain ⟨_, ⟨hafter, _⟩, hbefore⟩ := hs
  have hb : before.filter (fun k => decide (k.id = j.id)) = [] := by
    refine List.filter_eq_nil_iff.mpr fun k hk => ?_
    have := hbefore k hk j List.mem_cons_self
    simp only [decide_eq_true_eq]
    intro he
    rw [he] at this
    omega
  have ha : after.filter (fun k => decide (k.id = j.id)) = [] := by
    refine List.filter_eq_nil_iff.mpr fun k hk => ?_
    have := hafter k hk
    simp only [decide_eq_true_eq]
    intro he
    rw [he] at this
    omega
  rw [hsplit, List.filter_append, hb, List.filter_cons_of_pos (by simp), ha]
  rfl

/-! ## The runs of one job -/

theorem runsOf_runs_pass (r : Registry) (id : JobId) (t : Moment) :
    runsOf id (r.runs (.pass t)) =
      ((r.jobs.filter fun k => k.id = id).filter fun k => k.isDue t).map fun k => k.nextRun t := by
  unfold runsOf runs due
  rw [List.filter_map, List.filter_filter, List.filter_filter]
  congr 1
  exact List.filter_congr fun k _ => Bool.and_comm _ _

/-- A registered job is run at a pass exactly when it is due there. -/
theorem Ordered.runsOf_runs {r : Registry} (h : r.Ordered) {j : Job} (hj : j ∈ r.jobs)
    (c : Change) :
    runsOf j.id (r.runs c) = (c.dueTime? j.schedule).toList.map fun t => j.nextRun t := by
  cases c with
  | pass t =>
    rw [runsOf_runs_pass, h.filter_id hj]
    by_cases hd : j.schedule.isDue t <;> simp [Job.isDue, Change.dueTime?, hd]
  | _ => rfl

theorem runsOf_runs_of_not_mem {r : Registry} {id : JobId} (hid : ∀ j ∈ r.jobs, j.id ≠ id)
    (c : Change) : runsOf id (r.runs c) = [] := by
  cases c with
  | pass t =>
    have hnone : r.jobs.filter (fun k => k.id = id) = [] :=
      List.filter_eq_nil_iff.mpr fun k hk => by simpa using hid k hk
    rw [runsOf_runs_pass, hnone]
    rfl
  | _ => rfl

/-- A registered job stays, with its schedule, until it is removed; its task counts its runs. -/
theorem exists_mem_apply {r : Registry} {j : Job} (hj : j ∈ r.jobs) {c : Change}
    (hc : c.removes j.id = false) :
    ∃ k ∈ (r.apply c).jobs, k.id = j.id ∧ k.schedule = j.schedule ∧
      k.task = if (c.dueTime? j.schedule).isSome then j.task.advance else j.task := by
  cases c with
  | register schedule task => exact ⟨j, List.mem_append_left _ hj, rfl, rfl, rfl⟩
  | remove id =>
    refine ⟨j, List.mem_filter.mpr ⟨hj, ?_⟩, rfl, rfl, rfl⟩
    simp only [Change.removes, decide_eq_false_iff_not] at hc
    simpa using Ne.symm hc
  | pass t =>
    refine ⟨if j.isDue t then j.advance else j, List.mem_map.mpr ⟨j, hj, rfl⟩, ?_⟩
    by_cases hd : j.schedule.isDue t <;> simp [Job.isDue, Change.dueTime?, hd, Job.advance]
  | keep => exact ⟨j, hj, rfl, rfl, rfl⟩

theorem runsOver_cons (r : Registry) (c : Change) (h : List Change) :
    r.runsOver (c :: h) = r.runs c ++ (r.apply c).runsOver h := rfl

/-- An id that has been given out, and whose job is gone, is never run again. -/
theorem Ordered.runsOver_removed {r : Registry} (ho : r.Ordered) {id : JobId}
    (hn : id.number < r.next) (hid : ∀ j ∈ r.jobs, j.id ≠ id) (h : List Change) :
    runsOf id (r.runsOver h) = [] := by
  induction h generalizing r with
  | nil => rfl
  | cons c h ih =>
    rw [runsOver_cons, runsOf_append, runsOf_runs_of_not_mem hid, List.nil_append]
    refine ih (ho.apply c) (Nat.lt_of_lt_of_le hn (r.next_le_apply c)) fun j hj he => ?_
    rcases mem_apply hj with ⟨k, hk, hkid⟩ | ⟨hnew, _⟩
    · exact hid k hk (hkid.trans he)
    · rw [he] at hnew
      omega

/-- A registered job is run at every pass at which it is due, until it is removed. -/
theorem Ordered.runsOver_registered {r : Registry} (ho : r.Ordered) {j : Job} (hj : j ∈ r.jobs)
    (h : List Change) :
    runsOf j.id (r.runsOver h) =
      (dueTimes j.schedule j.id h).mapIdx (j.task.runAt j.id) := by
  induction h generalizing r j with
  | nil => rfl
  | cons c h ih =>
    rw [runsOver_cons, runsOf_append, ho.runsOf_runs hj]
    cases hc : c.removes j.id with
    | true =>
      -- The removal is no pass, and after it the id is gone for good.
      cases c with
      | remove id =>
        simp only [Change.removes, decide_eq_true_eq] at hc
        rw [dueTimes_removal _ (by simp [Change.removes, hc])]
        refine (ho.apply _).runsOver_removed (ho.below j hj) (fun k hk => ?_) h
        have := (List.mem_filter.mp hk).2
        rw [hc] at this
        simpa using this
      | _ => simp [Change.removes] at hc
    | false =>
      obtain ⟨k, hk, hid, hsch, htask⟩ := exists_mem_apply hj hc
      have hrest := ih (ho.apply c) hk
      rw [hid, hsch] at hrest
      rw [hrest, dueTimes_cons _ _ hc]
      cases hd : c.dueTime? j.schedule with
      | none =>
        simp only [hd, Option.isSome_none, Bool.false_eq_true, if_false] at htask
        rw [htask]
        rfl
      | some t =>
        simp only [hd, Option.isSome_some, if_true] at htask
        rw [htask, Option.toList_some, List.singleton_append, List.mapIdx_cons,
          Task.runAt_advance]
        rfl

/-- A job that is still to come is run from its registration on. -/
theorem Ordered.runsOver_unregistered {r : Registry} (ho : r.Ordered) {id : JobId} {n : Nat}
    (hn : id.number = r.next + n) (h : List Change) :
    runsOf id (r.runsOver h) =
      match registration? n h with
      | some (schedule, task, rest) => (dueTimes schedule id rest).mapIdx (task.runAt id)
      | none => [] := by
  induction h generalizing r n with
  | nil => cases n <;> rfl
  | cons c h ih =>
    have hid : ∀ j ∈ r.jobs, j.id ≠ id := by
      intro j hj he
      have := ho.below j hj
      rw [he] at this
      omega
    rw [runsOver_cons, runsOf_append, runsOf_runs_of_not_mem hid, List.nil_append]
    cases c with
    | register schedule task =>
      cases n with
      | zero =>
        have hj : r.nextJob schedule task ∈ (r.apply (.register schedule task)).jobs :=
          List.mem_append_right _ (List.mem_singleton.mpr rfl)
        have hjid : (r.nextJob schedule task).id = id := by
          cases id
          simp only [nextJob, JobId.mk.injEq]
          exact hn.symm
        have hrun := (ho.apply _).runsOver_registered hj h
        rw [hjid] at hrun
        exact hrun
      | succ n =>
        refine ih (ho.apply _) ?_
        change id.number = r.next + 1 + n
        omega
    | _ => exact ih (ho.apply _) hn

/-- From an empty registry on, every job is run as the history of changes asks. -/
theorem runsOver_empty (h : List Change) (id : JobId) :
    runsOf id (runsOver {} h) = expectedRuns h id := by
  unfold expectedRuns
  exact ordered_empty.runsOver_unregistered (Nat.zero_add _).symm h

/-- A change runs its jobs in the order of registration, each once. -/
theorem Ordered.sorted_runs {r : Registry} (h : r.Ordered) (c : Change) :
    (r.runs c).Pairwise fun run run' => run.job.number < run'.job.number := by
  cases c with
  | pass t =>
    have hdue : (r.due t).Pairwise fun j j' => j.id.number < j'.id.number := h.sorted.filter _
    exact List.pairwise_map.mpr hdue
  | _ => exact List.Pairwise.nil

end Registry

namespace Session

theorem ordered_step {s : Session} (h : s.scheduler.registry.Ordered) (op : Op) :
    (s.step op).1.scheduler.registry.Ordered := by
  rw [(s.follows op).registry]
  exact h.apply _

theorem sorted_runs_step {s : Session} (h : s.scheduler.registry.Ordered) (op : Op) :
    ((s.step op).2.effects.filterMap Effect.run?).Pairwise
      fun run run' => run.job.number < run'.job.number := by
  rw [(s.follows op).runs]
  exact h.sorted_runs _

/-- A pass replies how many runs it has made. -/
theorem reply_pass (s : Session) (op : Op) (t : Moment) (hop : (s.step op).2.op = .pass t) :
    (s.step op).2.reply = .ran ((s.step op).2.effects.filterMap Effect.run?).length := by
  have he : op = .pass t := hop
  subst he
  rw [(s.follows _).runs]
  simp only [Watch.change, Registry.runs, List.length_map]
  rfl

/-- The runs of a new scheduler. Every job is run as the history of the operations asks; a pass
    keeps to the order of registration and replies with the number of its runs; the ERROR events
    are one for each failing run; and with tasks that never fail all else is the same. Ids are
    numbers without a bound: for a counter of 64 bits, fewer than 2^64 registrations are meant. -/
theorem runs_follow_history (host : Host) (ops : List Op) :
    let s : Session := { host := host }
    let h := Watch.history { readings := host.readings } ops
    (∀ id, runsOf id ((s.effects ops).filterMap Effect.run?) = expectedRuns h id) ∧
    (∀ step ∈ (s.run ops).2,
      (step.effects.filterMap Effect.run?).Pairwise
        (fun run run' => run.job.number < run'.job.number) ∧
      ∀ t, step.op = .pass t →
        step.reply = .ran (step.effects.filterMap Effect.run?).length) ∧
    (s.effects ops).filterMap Effect.error? =
      ((s.effects ops).filterMap Effect.run?).filterMap (failure? (registered h)) ∧
    s.run (ops.map Op.steady) = ((s.run ops).1.steady, (s.run ops).2.map Step.steady) := by
  intro s h
  have hruns : (s.effects ops).filterMap Effect.run? = Registry.runsOver {} h := s.runs_effects ops
  refine ⟨fun id => ?_, ?_, ?_, s.run_steady ops⟩
  · rw [hruns]
    exact Registry.runsOver_empty h id
  · exact forall_steps (P := fun s => s.scheduler.registry.Ordered)
      (fun _ op hs => ordered_step hs op)
      (fun s op hs => ⟨sorted_runs_step hs op, s.reply_pass op⟩) Registry.ordered_empty ops
  · rw [hruns, s.errors_effects]
    exact Registry.from_empty.failuresOver_eq h

end Session

end Crond
