import Crond.Proofs.Scheduler.RunHistory
import Crond.Proofs.Scheduler.TickDelay

/-
  The cadence of a running scheduler whose ticks come late.

  `tickReadings` are the readings of its ticks: from one reading to the next the clock goes on by
  the delay of the first, and by the lateness of the tick on top. Nothing bounds a lateness; the
  run time of slow jobs is part of it.

  Proved:
  * `seconds_lateTick`: a tick falls in the second after that of the reading before, and later by
    the whole seconds of its lateness and the part of a millisecond that the delay cannot see.
    An error of one tick is not carried on to the next.
  * `ticks_keep_time`: between a start and a stop the scheduler takes just these readings and
    arms its timers for their delays; the seconds of the ticks strictly increase, so no job is
    run twice in a second; and with latenesses up to 999 ms none is left out.
-/

namespace Crond

open Calendar Log

/-! ## Readings -/

/-- The reading of a tick that comes late. -/
def lateTick (n : Moment) (late : Duration) : Moment := (n.add (tickDelay n)).add late

/-- The readings of the ticks after a reading, each late by its own time. -/
def tickReadings (n : Moment) : List Duration → List Moment
  | [] => []
  | late :: rest => lateTick n late :: tickReadings (lateTick n late) rest

theorem length_tickReadings (n : Moment) (late : List Duration) :
    (tickReadings n late).length = late.length := by
  induction late generalizing n with
  | nil => rfl
  | cons e late ih => rw [tickReadings, List.length_cons, ih, List.length_cons]

theorem seconds_lateTick (n : Moment) (late : Duration) :
    (lateTick n late).seconds =
      n.seconds + 1 + (n.subMilli + late.nanos) / nanosPerSecond := by
  have hn : (lateTick n late).nanos =
      (n.seconds + 1) * nanosPerSecond + n.subMilli + late.nanos := by
    unfold lateTick
    rw [← nanos_add_tickDelay]
    rfl
  unfold Moment.seconds
  rw [hn]
  unfold Moment.seconds nanosPerSecond
  omega

theorem seconds_lt_lateTick (n : Moment) (late : Duration) :
    n.seconds < (lateTick n late).seconds := by
  have hs := seconds_lateTick n late
  have hu := n.subMilli_nonneg
  unfold nanosPerSecond at hs
  omega

/-- A lateness of at most 999 ms does not reach into the next second. -/
theorem seconds_lateTick_of_le {n : Moment} {late : Duration}
    (hl : late.nanos ≤ 999 * nanosPerMilli) : (lateTick n late).seconds = n.seconds + 1 := by
  have hs := seconds_lateTick n late
  have hu := n.subMilli_nonneg
  have hu' := n.subMilli_lt
  unfold nanosPerMilli at hl hu'
  unfold nanosPerSecond at hs
  omega

theorem seconds_tickReadings_step {n n' n'' : Moment} {late : List Duration} {e : Duration} {k : Nat}
    (hn : (n :: tickReadings n late)[k]? = some n') (he : late[k]? = some e)
    (hn' : (n :: tickReadings n late)[k + 1]? = some n'') :
    n''.seconds = n'.seconds + 1 + (n'.subMilli + e.nanos) / nanosPerSecond := by
  induction late generalizing n k with
  | nil => simp at he
  | cons e₁ late ih =>
    cases k with
    | zero =>
      simp only [List.getElem?_cons_zero, Option.some.injEq] at hn he
      simp only [tickReadings, List.getElem?_cons_succ, List.getElem?_cons_zero,
        Option.some.injEq] at hn'
      subst hn he hn'
      exact seconds_lateTick _ _
    | succ k => exact ih hn he hn'

theorem pairwise_seconds (n : Moment) (late : List Duration) :
    ((n :: tickReadings n late).map Moment.seconds).Pairwise (· < ·) := by
  induction late generalizing n with
  | nil => exact List.pairwise_singleton _ _
  | cons e late ih =>
    have hrest := ih (lateTick n e)
    have hlt := seconds_lt_lateTick n e
    rw [tickReadings, List.map_cons]
    refine List.pairwise_cons.mpr ⟨fun s hs => ?_, hrest⟩
    rw [List.map_cons, List.pairwise_cons] at hrest
    rcases List.mem_cons.mp hs with rfl | hs
    · exact hlt
    · exact Int.lt_trans hlt (hrest.1 s hs)

/-- The last of the readings. -/
def lastReading (n : Moment) (late : List Duration) : Moment := (tickReadings n late).getLastD n

theorem lastReading_cons (n : Moment) (e : Duration) (late : List Duration) :
    lastReading n (e :: late) = lastReading (lateTick n e) late := by
  unfold lastReading
  rw [tickReadings, List.getLastD_cons]

theorem seconds_le_lastReading (n : Moment) (late : List Duration) :
    n.seconds ≤ (lastReading n late).seconds := by
  induction late generalizing n with
  | nil => exact Int.le_refl _
  | cons e late ih =>
    rw [lastReading_cons]
    exact Int.le_trans (Int.le_of_lt (seconds_lt_lateTick n e)) (ih _)

/-- With short latenesses the ticks take every second up to the last one, each once. -/
theorem count_seconds {late : List Duration} (hl : ∀ e ∈ late, e.nanos ≤ 999 * nanosPerMilli)
    (n : Moment) (s : Int) :
    ((tickReadings n late).map Moment.seconds).count s =
      if n.seconds < s ∧ s ≤ (lastReading n late).seconds then 1 else 0 := by
  induction late generalizing n with
  | nil =>
    rw [if_neg (by unfold lastReading tickReadings; simp only [List.getLastD_nil]; omega)]
    rfl
  | cons e late ih =>
    have hs := seconds_lateTick_of_le (n := n) (hl e List.mem_cons_self)
    have hle := seconds_le_lastReading (lateTick n e) late
    rw [tickReadings, List.map_cons, List.count_cons,
      ih (fun e he => hl e (List.mem_cons_of_mem _ he)), lastReading_cons]
    simp only [beq_iff_eq]
    split <;> split <;> split <;> omega

/-! ## Between a start and a stop -/

def Op.isTick : Op → Bool
  | .tick => true
  | _ => false

/-- What can come between a start and a stop besides ticks: jobs are registered and removed.
    Passes by hand are left out, they are no ticks. -/
def Op.isTurn : Op → Bool
  | .start | .stop | .pass _ => false
  | _ => true

def Change.time? : Change → Option Moment
  | .pass t => some t
  | _ => none

namespace Watch

/-- The clock readings that operations take. -/
def taken (w : Watch) : List Op → List Moment
  | [] => []
  | op :: ops => (if w.arms op then [w.reading] else []) ++ (w.next op).taken ops

/-- A running scheduler takes one reading for each tick, and makes a pass at it. -/
theorem taken_turns {times : List Moment} {ops : List Op} (hops : ∀ op ∈ ops, op.isTurn = true)
    (hcount : ops.countP Op.isTick = times.length) :
    taken ⟨true, times⟩ ops = times ∧
      (history ⟨true, times⟩ ops).filterMap Change.time? = times := by
  induction ops generalizing times with
  | nil =>
    rw [List.countP_nil] at hcount
    rw [List.length_eq_zero_iff.mp hcount.symm]
    exact ⟨rfl, rfl⟩
  | cons op ops ih =>
    have hop := hops op List.mem_cons_self
    have hrest : ∀ op ∈ ops, op.isTurn = true := fun op h => hops op (List.mem_cons_of_mem _ h)
    have hother : op.isTick = false → ops.countP Op.isTick = times.length := by
      intro hno
      rwa [List.countP_cons_of_neg (by rw [hno]; decide)] at hcount
    cases op with
    | tick =>
      rw [List.countP_cons_of_pos rfl] at hcount
      cases times with
      | nil => simp at hcount
      | cons t times =>
        obtain ⟨htaken, hpass⟩ := ih hrest (by simpa using hcount)
        exact ⟨congrArg (t :: ·) htaken, congrArg (t :: ·) hpass⟩
    | schedule expression task =>
      obtain ⟨htaken, hpass⟩ := ih hrest (hother rfl)
      refine ⟨htaken, ?_⟩
      -- The text may hold a schedule or not, but it is no pass.
      have hc : (change ⟨true, times⟩ (.schedule expression task)).time? = none := by
        cases hp : Schedule.parse expression <;> simp [change, hp, Change.time?]
      rw [history, List.filterMap_cons_none hc]
      exact hpass
    | insert schedule task => exact ih hrest (hother rfl)
    | unschedule id => exact ih hrest (hother rfl)
    | start => simp [Op.isTurn] at hop
    | stop => simp [Op.isTurn] at hop
    | pass t => simp [Op.isTurn] at hop

end Watch

/-! ## The runs of one job -/

namespace Registry

/-- A change runs a job once at most, at the time of the change. -/
theorem Ordered.times_runs {r : Registry} (h : r.Ordered) (id : JobId) (c : Change) :
    ((runsOf id (r.runs c)).map Run.time).Sublist c.time?.toList := by
  by_cases hid : ∃ j ∈ r.jobs, j.id = id
  · obtain ⟨j, hj, rfl⟩ := hid
    rw [h.runsOf_runs hj]
    cases c with
    | pass t =>
      by_cases hd : j.schedule.isDue t <;> simp [Change.dueTime?, Change.time?, hd, Job.nextRun]
    | _ => exact List.Sublist.refl _
  · have hnone : ∀ j ∈ r.jobs, j.id ≠ id := fun j hj he => hid ⟨j, hj, he⟩
    rw [runsOf_runs_of_not_mem hnone]
    exact List.nil_sublist _

/-- The passes of a history run a job each once at most. -/
theorem Ordered.times_runsOver {r : Registry} (ho : r.Ordered) (id : JobId) (h : List Change) :
    ((runsOf id (r.runsOver h)).map Run.time).Sublist (h.filterMap Change.time?) := by
  induction h generalizing r with
  | nil => exact List.Sublist.refl _
  | cons c h ih =>
    have hc := ho.times_runs id c
    have hsplit : (c :: h).filterMap Change.time? =
        c.time?.toList ++ h.filterMap Change.time? := by
      cases ht : c.time? with
      | none => rw [List.filterMap_cons_none ht]; rfl
      | some t => rw [List.filterMap_cons_some ht]; rfl
    rw [runsOver_cons, runsOf_append, List.map_append, hsplit]
    exact hc.append (ih (ho.apply c))

end Registry

theorem Change.dueTime?_eq (schedule : Schedule) (c : Change) :
    c.dueTime? schedule = c.time?.filter schedule.isDue := by
  cases c with
  | pass t => by_cases hd : schedule.isDue t <;> simp [dueTime?, time?, hd, Option.filter]
  | _ => rfl

/-- Without a removal a job is due at just the passes that its schedule matches. -/
theorem dueTimes_eq_filter (schedule : Schedule) {id : JobId} {h : List Change}
    (hr : ∀ c ∈ h, c.removes id = false) :
    dueTimes schedule id h = (h.filterMap Change.time?).filter schedule.isDue := by
  induction h with
  | nil => rfl
  | cons c h ih =>
    rw [dueTimes_cons _ _ (hr c List.mem_cons_self), ih fun c hc => hr c (List.mem_cons_of_mem _ hc),
      Change.dueTime?_eq]
    cases ht : c.time? with
    | none => rw [List.filterMap_cons_none ht]; rfl
    | some t =>
      rw [List.filterMap_cons_some ht]
      by_cases hd : schedule.isDue t <;> simp [hd, Option.filter]

/-- The runs of a task tell the times at which it was due. -/
theorem map_time_mapIdx (task : Task) (id : JobId) (times : List Moment) :
    (times.mapIdx (task.runAt id)).map Run.time = times := by
  rw [List.mapIdx_eq_zipIdx_map, List.map_map]
  exact times.zipIdx_map_fst 0

/-- Whether a schedule is due can be asked of a whole second. -/
theorem count_seconds_filter (schedule : Schedule) (times : List Moment) (s : Int) :
    ((times.filter schedule.isDue).map Moment.seconds).count s =
      if schedule.isDue (Moment.ofSeconds s) then (times.map Moment.seconds).count s else 0 := by
  have hcongr : ∀ t ∈ times, (((· == s) ∘ Moment.seconds) t && schedule.isDue t) = true ↔
      (((· == s) ∘ Moment.seconds) t && schedule.isDue (Moment.ofSeconds s)) = true := by
    intro t _
    simp only [Function.comp_apply, Bool.and_eq_true, beq_iff_eq]
    refine and_congr_right fun ht => ?_
    rw [schedule.isDue_congr (ht.trans (Moment.seconds_ofSeconds s).symm)]
  unfold List.count
  rw [List.countP_map, List.countP_map, List.countP_filter, List.countP_congr hcongr]
  cases schedule.isDue (Moment.ofSeconds s) with
  | true => simp only [Bool.and_true, if_true]
  | false => simp

/-- Only an `unschedule` of its id removes a job. -/
theorem Watch.removes_of_mem_history {w : Watch} {ops : List Op} {id : JobId}
    (hops : .unschedule id ∉ ops) : ∀ c ∈ w.history ops, c.removes id = false := by
  induction ops generalizing w with
  | nil => exact fun _ h => absurd h List.not_mem_nil
  | cons op ops ih =>
    rw [List.mem_cons, not_or] at hops
    intro c hc
    rcases List.mem_cons.mp hc with rfl | hc
    · cases op with
      | unschedule i =>
        refine decide_eq_false fun hi => hops.1 ?_
        rw [hi]
      | schedule expression task =>
        cases hp : Schedule.parse expression <;> simp [change, hp, Change.removes]
      | tick => cases hr : w.running <;> simp [change, hr, Change.removes]
      | _ => rfl
    · exact ih hops.2 c hc

namespace Session

theorem readings_effects (s : Session) (ops : List Op) :
    (s.effects ops).filterMap Effect.reading? = s.watch.taken ops := by
  induction ops generalizing s with
  | nil => rfl
  | cons op ops ih =>
    have h := s.follows op
    rw [effects_cons, List.filterMap_append, ih, h.watch, h.readings]
    rfl

/-- Every timer is armed for the delay of the reading taken just before. -/
theorem armed_effects (s : Session) (ops : List Op) :
    (s.effects ops).filterMap Effect.armed? = (s.watch.taken ops).map tickDelay := by
  induction ops generalizing s with
  | nil => rfl
  | cons op ops ih =>
    have h := s.follows op
    rw [effects_cons, List.filterMap_append, ih, h.watch, h.armed, Watch.taken, List.map_append]
    split <;> rfl

/-- Without a start a new scheduler stays stopped and takes no reading. -/
theorem watch_after_of_no_start {s : Session} {readings : List Moment}
    (hs : s.watch = ⟨false, readings⟩) {ops : List Op} (hops : .start ∉ ops) :
    (s.after ops).watch = ⟨false, readings⟩ := by
  induction ops generalizing s with
  | nil => exact hs
  | cons op ops ih =>
    rw [List.mem_cons, not_or] at hops
    have hw : (s.step op).1.watch = ⟨false, readings⟩ := by
      rw [(s.follows op).watch, hs]
      cases op with
      | start => exact absurd rfl hops.1
      | _ => rfl
    exact ih hw hops.2

theorem ordered_after {s : Session} (h : s.scheduler.registry.Ordered) (ops : List Op) :
    (s.after ops).scheduler.registry.Ordered := by
  induction ops generalizing s with
  | nil => exact h
  | cons op ops ih => exact ih (ordered_step h op)

/-- The ticks of a scheduler that is started once, whatever was registered before and is
    registered and removed between them. -/
theorem ticks_keep_time (n₀ : Moment) (late : List Duration) (setup ops : List Op)
    (hsetup : .start ∉ setup) (hops : ∀ op ∈ ops, op.isTurn = true)
    (hcount : ops.countP Op.isTick = late.length) :
    let readings := n₀ :: tickReadings n₀ late
    let s := after { host := { readings := readings } } setup
    let effects := s.effects (.start :: ops)
    let seconds id := (runsOf id (effects.filterMap Effect.run?)).map fun run => run.time.seconds
    -- The k-th tick is taken at its reading, and re-arms from it.
    effects.filterMap Effect.reading? = readings ∧
    effects.filterMap Effect.armed? = readings.map tickDelay ∧
    (∀ (k : Nat) n e n', readings[k]? = some n → late[k]? = some e → readings[k + 1]? = some n' →
      n'.seconds = n.seconds + 1 + (n.subMilli + e.nanos) / nanosPerSecond) ∧
    (readings.map Moment.seconds).Pairwise (· < ·) ∧
    (∀ id, (seconds id).Pairwise (· < ·)) ∧
    ((∀ e ∈ late, e.nanos ≤ 999 * nanosPerMilli) →
      ∀ j ∈ s.scheduler.registry.jobs, .unschedule j.id ∉ ops → ∀ second : Int,
        (seconds j.id).count second =
          if n₀.seconds < second ∧ second ≤ (lastReading n₀ late).seconds ∧
            j.schedule.isDue (Moment.ofSeconds second) then 1 else 0) := by
  intro readings s effects seconds
  have hw : s.watch = ⟨false, readings⟩ := watch_after_of_no_start rfl hsetup
  have hordered : s.scheduler.registry.Ordered := ordered_after Registry.ordered_empty setup
  -- The start takes the first reading, the ticks the others.
  have hlen : ops.countP Op.isTick = (tickReadings n₀ late).length := by
    rw [hcount, length_tickReadings]
  obtain ⟨htaken, hpasses⟩ := Watch.taken_turns hops hlen
  have hreadings : s.watch.taken (.start :: ops) = readings := by
    rw [hw]
    exact congrArg (n₀ :: ·) htaken
  have htimes : (s.watch.history (.start :: ops)).filterMap Change.time? =
      tickReadings n₀ late := by
    rw [hw]
    exact hpasses
  have hruns : effects.filterMap Effect.run? =
      s.scheduler.registry.runsOver (s.watch.history (.start :: ops)) := s.runs_effects _
  have hpairwise := pairwise_seconds n₀ late
  have hseconds : ∀ id, seconds id = ((runsOf id (s.scheduler.registry.runsOver
      (s.watch.history (.start :: ops)))).map Run.time).map Moment.seconds := by
    intro id
    rw [List.map_map, ← hruns]
    rfl
  refine ⟨?_, ?_, ?_, hpairwise, ?_, ?_⟩
  · rw [← hreadings]
    exact s.readings_effects _
  · rw [← hreadings]
    exact s.armed_effects _
  · intro k n e n' hn he hn'
    exact seconds_tickReadings_step hn he hn'
  · intro id
    have hsub := hordered.times_runsOver id (s.watch.history (.start :: ops))
    rw [htimes] at hsub
    rw [hseconds]
    exact (List.pairwise_cons.mp hpairwise).2.sublist (hsub.map Moment.seconds)
  · intro hl j hj hremove second
    have hnone : Op.unschedule j.id ∉ Op.start :: ops := by
      rw [List.mem_cons, not_or]
      exact ⟨by simp, hremove⟩
    rw [hseconds, hordered.runsOver_registered hj, map_time_mapIdx,
      dueTimes_eq_filter _ (Watch.removes_of_mem_history hnone), htimes, count_seconds_filter,
      count_seconds hl]
    by_cases hd : j.schedule.isDue (Moment.ofSeconds second) <;> simp [hd]

/-- Two ticks, the second of them 998 ms late, with a registration between them. -/
theorem ticks_keep_time_two_ticks :
    let first : Moment := ⟨1660839120092000500⟩
    let late : List Duration := [⟨0⟩, ⟨998000000⟩]
    let schedule : Schedule := ⟨.any, .any, .any, .any, .any, .any⟩
    let s := after { host := { readings := first :: tickReadings first late } }
      [.insert schedule (.reliable "a")]
    let effects := s.effects [.start, .tick, .insert schedule (.reliable "b"), .tick]
    let seconds id := (runsOf id (effects.filterMap Effect.run?)).map fun run => run.time.seconds
    effects.filterMap Effect.reading? =
      [first, ⟨1660839121000000500⟩, ⟨1660839122998000500⟩] ∧
    effects.filterMap Effect.armed? = [⟨908000000⟩, ⟨1000000000⟩, ⟨2000000⟩] ∧
    (∀ id, (seconds id).Pairwise (· < ·)) ∧
    ∀ second, (seconds ⟨0⟩).count second =
      if first.seconds < second ∧ second ≤ 1660839122 then 1 else 0 := by
  intro first late schedule s effects seconds
  obtain ⟨hread, harmed, _, _, honce, hall⟩ :=
    ticks_keep_time first late [.insert schedule (.reliable "a")]
      [.tick, .insert schedule (.reliable "b"), .tick] (by simp) (by simp [Op.isTurn]) rfl
  refine ⟨hread.trans (by decide), harmed.trans (by decide), honce, fun second => ?_⟩
  have hdue : schedule.isDue (Moment.ofSeconds second) = true :=
    (schedule.isDue_iff _).mpr fun f => by cases f <;> rfl
  have hlast : (lastReading first late).seconds = 1660839122 := by decide
  have h := hall (by decide) ⟨⟨0⟩, schedule, .reliable "a"⟩ List.mem_cons_self (by simp) second
  simp only [hdue, hlast, and_true] at h
  exact h

end Session

end Crond
