import Crond.Proofs.Scheduler.Effects
import Crond.Scheduler.EventLoop

/-
  How many timers of a scheduler can be pending at once.

  A scheduler should have one: none while it is stopped, and while it runs at most the timer that
  it holds (`EventLoop.SingleTimer`). That is NOT so in every run. A timer that has elapsed
  cannot be cancelled any more, so its notification can be overtaken by `stop` and by the next
  `start`; the tick that it then makes is taken for a tick of the new run, and arms a timer
  beside the pending one (`two_timers_after_overtaken_notification`).

  Proved:
  * `singleTimer_step_iff`: a step keeps the property exactly when it is no such delivery
    (`EventLoop.Overtaken`).
  * `singleTimer_throughout_iff`: a run from a fresh loop has the property in all its states
    exactly when it makes no such delivery. It makes none when nothing is in flight at any
    `start`; a loop that starts its scheduler only once is of this kind.
  * `load_run`: while a scheduler runs, its pending timers and the notifications in flight
    together stay as many as they are, so a second timer never goes away by itself.
-/

namespace Crond

open Calendar

namespace EventLoop

/-- A loop as it begins: a stopped scheduler, no timer armed, nothing in flight. -/
def fresh (r : Registry) (origin : Moment) : EventLoop := { scheduler := { registry := r }, origin }

/-- No timer is pending while stopped, and while running at most the one that is held. -/
def SingleTimer (l : EventLoop) : Prop :=
  match l.scheduler.phase with
  | .stopped => l.timers.live = []
  | .running t => l.timers.live = [] ∨ l.timers.live = [t]

/-- A notification is delivered while the timer that the scheduler holds is still pending. The
    notification is of an earlier timer then. -/
def Overtaken (l : EventLoop) (e : LoopEvent) : Prop :=
  e = .deliver ∧ l.inFlight ≠ 0 ∧ ∃ t, l.scheduler.phase = .running t ∧ t ∈ l.timers.live

theorem singleTimer_stopped {l : EventLoop} (h : l.scheduler.phase = .stopped) :
    l.SingleTimer ↔ l.timers.live = [] := by
  unfold SingleTimer
  rw [h]

theorem singleTimer_running {l : EventLoop} {t : Timer} (h : l.scheduler.phase = .running t) :
    l.SingleTimer ↔ l.timers.live = [] ∨ l.timers.live = [t] := by
  unfold SingleTimer
  rw [h]

theorem singleTimer_fresh (r : Registry) (origin : Moment) : (fresh r origin).SingleTimer :=
  rfl

/-! ## What an operation does to the timers -/

/-- The loop after its scheduler has armed the next timer and holds it. -/
def rearmed (l : EventLoop) (r : Registry) : EventLoop :=
  { l with
    scheduler := { registry := r, phase := .running l.timers.next }
    timers := l.timers.arm (tickDelay l.now).millis }

theorem phase_rearmed (l : EventLoop) (r : Registry) :
    (l.rearmed r).scheduler.phase = .running l.timers.next := rfl

theorem live_rearmed (l : EventLoop) (r : Registry) :
    (l.rearmed r).timers.live = l.timers.live ++ [l.timers.next] :=
  Timers.live_arm _ _

theorem step_start_stopped {l : EventLoop} (h : l.scheduler.phase = .stopped) :
    l.step .start = l.rearmed l.scheduler.registry := by
  simp only [step, operate, Scheduler.step, Scheduler.start, h]
  rfl

theorem step_start_running {l : EventLoop} {t : Timer} (h : l.scheduler.phase = .running t) :
    l.step .start = l := by
  simp only [step, operate, Scheduler.step, Scheduler.start, h]
  rfl

theorem step_stop_stopped {l : EventLoop} (h : l.scheduler.phase = .stopped) :
    l.step .stop = l := by
  simp only [step, operate, Scheduler.step, Scheduler.stop, h]
  rfl

theorem step_stop_running {l : EventLoop} {t : Timer} (h : l.scheduler.phase = .running t) :
    l.step .stop =
      { l with scheduler := { l.scheduler with phase := .stopped }, timers := l.timers.drop t } := by
  simp only [step, operate, Scheduler.step, Scheduler.stop, h]
  rfl

theorem step_elapse_live {l : EventLoop} {t : Timer} (h : t ∈ l.timers.live) :
    l.step (.elapse t) = { l with timers := l.timers.drop t, inFlight := l.inFlight + 1 } := by
  simp only [step, elapse, if_pos h]

theorem step_elapse_dead {l : EventLoop} {t : Timer} (h : t ∉ l.timers.live) :
    l.step (.elapse t) = l := by
  simp only [step, elapse, if_neg h]

theorem step_deliver_nothing {l : EventLoop} (h : l.inFlight = 0) : l.step .deliver = l := by
  simp only [step, deliver, if_pos h]

theorem step_deliver_stopped {l : EventLoop} (hn : l.inFlight ≠ 0)
    (h : l.scheduler.phase = .stopped) :
    l.step .deliver = { l with inFlight := l.inFlight - 1 } := by
  simp only [step, deliver, if_neg hn, operate, Scheduler.step, Scheduler.tick, h]
  rfl

/-- A tick of a running scheduler arms one timer and holds it; the pass behind it asks nothing
    of the timers. -/
theorem step_deliver_running {l : EventLoop} {t : Timer} (hn : l.inFlight ≠ 0)
    (h : l.scheduler.phase = .running t) :
    l.step .deliver =
      { l with inFlight := l.inFlight - 1 }.rearmed (l.scheduler.registry.advance l.now) := by
  simp only [step, deliver, if_neg hn, operate, Scheduler.step, Scheduler.tick, h,
    List.foldl_append]
  rw [Timers.foldl_serve_quiet _ (Scheduler.quiet_pass _ _)]
  rfl

/-! ## Runs -/

/-- A step keeps to a single timer exactly when it delivers no overtaken notification. -/
theorem singleTimer_step_iff {l : EventLoop} (hs : l.SingleTimer) (e : LoopEvent) :
    (l.step e).SingleTimer ↔ ¬ l.Overtaken e := by
  cases hp : l.scheduler.phase with
  | stopped =>
    have hl : l.timers.live = [] := (singleTimer_stopped hp).mp hs
    have hno : ¬ l.Overtaken e := by
      rintro ⟨_, _, t, ht, _⟩
      rw [hp] at ht
      exact absurd ht (by simp)
    refine iff_of_true ?_ hno
    cases e with
    | start =>
      rw [step_start_stopped hp, singleTimer_running (phase_rearmed _ _), live_rearmed, hl]
      exact Or.inr rfl
    | stop => rwa [step_stop_stopped hp]
    | elapse t => rwa [step_elapse_dead (by simp [hl])]
    | deliver =>
      by_cases hn : l.inFlight = 0
      · rwa [step_deliver_nothing hn]
      · rw [step_deliver_stopped hn hp]
        exact (singleTimer_stopped hp).mpr hl
    | idle millis => exact hs
  | running t =>
    have hl : l.timers.live = [] ∨ l.timers.live = [t] := (singleTimer_running hp).mp hs
    cases e with
    | start =>
      rw [step_start_running hp]
      exact iff_of_true hs (fun h => by simp [Overtaken] at h)
    | stop =>
      rw [step_stop_running hp]
      refine iff_of_true ?_ (fun h => by simp [Overtaken] at h)
      rw [singleTimer_stopped rfl, Timers.live_drop]
      rcases hl with hl | hl <;> simp [hl]
    | elapse u =>
      refine iff_of_true ?_ (fun h => by simp [Overtaken] at h)
      by_cases hu : u ∈ l.timers.live
      · rw [step_elapse_live hu, singleTimer_running (t := t) (by exact hp), Timers.live_drop]
        left
        rcases hl with hl | hl
        · rw [hl, List.filter_nil]
        · rw [hl, List.mem_singleton] at hu
          simp [hl, hu]
      · rwa [step_elapse_dead hu]
    | deliver =>
      by_cases hn : l.inFlight = 0
      · rw [step_deliver_nothing hn]
        exact iff_of_true hs (fun h => h.2.1 hn)
      · rw [step_deliver_running hn hp, singleTimer_running (phase_rearmed _ _), live_rearmed]
        -- The new timer is alone exactly when the held one is not pending any more.
        rcases hl with hl | hl
        · refine iff_of_true (Or.inr (by rw [hl]; rfl)) ?_
          rintro ⟨_, _, u, _, hu⟩
          simp [hl] at hu
        · exact iff_of_false (by simp [hl]) (not_not_intro ⟨rfl, hn, t, hp, by simp [hl]⟩)
    | idle millis => exact iff_of_true hs (fun h => by simp [Overtaken] at h)

/-- A run has a single timer in all its states exactly when it never delivers an overtaken
    notification. -/
theorem singleTimer_run_iff {l : EventLoop} (hs : l.SingleTimer) (events : List LoopEvent) :
    (∀ past, past <+: events → (l.run past).SingleTimer) ↔
      ∀ past e, past ++ [e] <+: events → ¬ (l.run past).Overtaken e := by
  induction events generalizing l with
  | nil => simp [run, hs]
  | cons e events ih =>
    have hstep := singleTimer_step_iff hs e
    constructor
    · intro h past e' hp
      have he : (l.step e).SingleTimer := h [e] ⟨events, rfl⟩
      cases past with
      | nil =>
        have : e' = e := (List.cons_prefix_cons.mp hp).1
        rw [this]
        exact hstep.mp he
      | cons e₁ past =>
        obtain ⟨rfl, hrest⟩ := List.cons_prefix_cons.mp hp
        refine (ih he).mp (fun past' hp' => ?_) past e' hrest
        exact h (e₁ :: past') (List.cons_prefix_cons.mpr ⟨rfl, hp'⟩)
    · intro h past hp
      have he : (l.step e).SingleTimer := hstep.mpr (h [] e ⟨events, rfl⟩)
      cases past with
      | nil => exact hs
      | cons e₁ past =>
        obtain ⟨rfl, hrest⟩ := List.cons_prefix_cons.mp hp
        refine (ih he).mpr (fun past' e' hp' => ?_) past hrest
        exact h (e₁ :: past') e' (List.cons_prefix_cons.mpr ⟨rfl, hp'⟩)

/-! ## What stays while a scheduler runs -/

/-- How many ticks are under way: the pending timers and the notifications in flight. -/
def load (l : EventLoop) : Nat := l.timers.live.length + l.inFlight

theorem load_rearmed (l : EventLoop) (r : Registry) : (l.rearmed r).load = l.load + 1 := by
  unfold load
  rw [live_rearmed, List.length_append, List.length_singleton]
  exact Nat.add_right_comm _ _ _

/-- The pending timers are named in the order in which they were armed. -/
structure Ordered (l : EventLoop) : Prop where
  sorted : l.timers.live.Pairwise (· < ·)
  below : ∀ t ∈ l.timers.live, t < l.timers.next

theorem ordered_fresh (r : Registry) (origin : Moment) : (fresh r origin).Ordered :=
  ⟨List.Pairwise.nil, fun _ h => by simp [fresh, Timers.live] at h⟩

theorem Ordered.rearmed {l : EventLoop} (h : l.Ordered) (r : Registry) : (l.rearmed r).Ordered := by
  constructor
  · rw [live_rearmed, List.pairwise_append]
    refine ⟨h.sorted, List.pairwise_singleton _ _, fun t ht u hu => ?_⟩
    rw [List.mem_singleton.mp hu]
    exact h.below t ht
  · intro t ht
    rw [live_rearmed, List.mem_append, List.mem_singleton] at ht
    change t < l.timers.next + 1
    rcases ht with ht | rfl
    · exact Nat.lt_succ_of_lt (h.below t ht)
    · exact Nat.lt_succ_self _

theorem Ordered.drop {l : EventLoop} (h : l.Ordered) (t : Timer) :
    (l.timers.drop t).live.Pairwise (· < ·) ∧ ∀ u ∈ (l.timers.drop t).live, u < l.timers.next := by
  rw [Timers.live_drop]
  exact ⟨h.sorted.filter _, fun u hu => h.below u (List.mem_filter.mp hu).1⟩

theorem Ordered.step {l : EventLoop} (h : l.Ordered) (e : LoopEvent) : (l.step e).Ordered := by
  cases e with
  | start =>
    cases hp : l.scheduler.phase with
    | stopped => rw [step_start_stopped hp]; exact h.rearmed _
    | running t => rwa [step_start_running hp]
  | stop =>
    cases hp : l.scheduler.phase with
    | stopped => rwa [step_stop_stopped hp]
    | running t => rw [step_stop_running hp]; exact ⟨(h.drop t).1, (h.drop t).2⟩
  | elapse t =>
    by_cases ht : t ∈ l.timers.live
    · rw [step_elapse_live ht]; exact ⟨(h.drop t).1, (h.drop t).2⟩
    · rwa [step_elapse_dead ht]
  | deliver =>
    by_cases hn : l.inFlight = 0
    · rwa [step_deliver_nothing hn]
    · cases hp : l.scheduler.phase with
      | stopped => rw [step_deliver_stopped hn hp]; exact ⟨h.sorted, h.below⟩
      | running t =>
        rw [step_deliver_running hn hp]
        exact Ordered.rearmed (l := { l with inFlight := l.inFlight - 1 }) ⟨h.sorted, h.below⟩ _
  | idle millis => exact ⟨h.sorted, h.below⟩

/-- A pending timer has its name to itself, so that dropping it drops one timer. -/
theorem Ordered.length_drop {l : EventLoop} (h : l.Ordered) {t : Timer} (ht : t ∈ l.timers.live) :
    (l.timers.drop t).live.length + 1 = l.timers.live.length := by
  have hnd : l.timers.live.Nodup := h.sorted.imp Nat.ne_of_lt
  have hpos := List.length_pos_of_mem ht
  have he : (l.timers.drop t).live = l.timers.live.erase t := by
    rw [Timers.live_drop, hnd.erase_eq_filter]
    exact List.filter_congr fun u _ => by by_cases h : u = t <;> simp [h]
  rw [he, List.length_erase_of_mem ht]
  omega

/-- Only `stop` changes how many ticks of a running scheduler are under way. -/
theorem load_step {l : EventLoop} {t : Timer} (ho : l.Ordered) (hp : l.scheduler.phase = .running t)
    {e : LoopEvent} (he : e ≠ .stop) :
    (∃ u, (l.step e).scheduler.phase = .running u) ∧ (l.step e).load = l.load := by
  cases e with
  | start => rw [step_start_running hp]; exact ⟨⟨t, hp⟩, rfl⟩
  | stop => exact absurd rfl he
  | elapse u =>
    by_cases hu : u ∈ l.timers.live
    · have hl := ho.length_drop hu
      rw [step_elapse_live hu]
      refine ⟨⟨t, hp⟩, ?_⟩
      unfold load
      dsimp only
      omega
    · rw [step_elapse_dead hu]; exact ⟨⟨t, hp⟩, rfl⟩
  | deliver =>
    by_cases hn : l.inFlight = 0
    · rw [step_deliver_nothing hn]; exact ⟨⟨t, hp⟩, rfl⟩
    · rw [step_deliver_running hn hp]
      refine ⟨⟨_, phase_rearmed _ _⟩, ?_⟩
      rw [load_rearmed]
      unfold load
      dsimp only
      omega
  | idle millis => exact ⟨⟨t, hp⟩, rfl⟩

/-- Until it is stopped, a running scheduler keeps as many ticks under way as it has: a second
    timer never goes away by itself. -/
theorem load_run {l : EventLoop} {t : Timer} (ho : l.Ordered) (hp : l.scheduler.phase = .running t)
    {events : List LoopEvent} (hs : .stop ∉ events) : (l.run events).load = l.load := by
  induction events generalizing l t with
  | nil => rfl
  | cons e events ih =>
    rw [List.mem_cons, not_or] at hs
    obtain ⟨⟨u, hu⟩, hl⟩ := load_step ho hp (Ne.symm hs.1)
    exact (ih (ho.step e) hu hs.2).trans hl

/-! ## Starts with nothing in flight -/

/-- A single timer, and while running at most one tick under way. -/
structure Tight (l : EventLoop) : Prop where
  ordered : l.Ordered
  single : l.SingleTimer
  load : ∀ t, l.scheduler.phase = .running t → l.load ≤ 1

theorem tight_fresh (r : Registry) (origin : Moment) : (fresh r origin).Tight :=
  ⟨ordered_fresh r origin, singleTimer_fresh r origin, fun _ h => by simp [fresh] at h⟩

/-- With one tick under way nothing can be overtaken. -/
theorem Tight.not_overtaken {l : EventLoop} (h : l.Tight) (e : LoopEvent) : ¬ l.Overtaken e := by
  rintro ⟨_, hn, t, hp, ht⟩
  have hl := h.load t hp
  have hpos := List.length_pos_of_mem ht
  unfold EventLoop.load at hl
  omega

theorem Tight.step {l : EventLoop} (h : l.Tight) {e : LoopEvent}
    (hq : e = .start → l.scheduler.phase = .stopped → l.inFlight = 0) : (l.step e).Tight := by
  refine ⟨h.ordered.step e, (singleTimer_step_iff h.single e).mpr (h.not_overtaken e), ?_⟩
  intro u hu
  cases hp : l.scheduler.phase with
  | running t =>
    by_cases he : e = .stop
    · subst he
      rw [step_stop_running hp] at hu
      exact absurd hu (by simp)
    · rw [(load_step h.ordered hp he).2]
      exact h.load t hp
  | stopped =>
    have hl : l.timers.live = [] := (singleTimer_stopped hp).mp h.single
    cases e with
    | start =>
      rw [step_start_stopped hp, load_rearmed]
      unfold EventLoop.load
      rw [hl, hq rfl hp]
      exact Nat.le_refl 1
    | stop => rw [step_stop_stopped hp, hp] at hu; exact absurd hu (by simp)
    | elapse t =>
      rw [step_elapse_dead (by simp [hl]), hp] at hu
      exact absurd hu (by simp)
    | deliver =>
      by_cases hn : l.inFlight = 0
      · rw [step_deliver_nothing hn, hp] at hu; exact absurd hu (by simp)
      · rw [step_deliver_stopped hn hp] at hu; exact absurd (hp.symm.trans hu) (by simp)
    | idle millis => exact absurd (hp.symm.trans hu) (by simp)

theorem Tight.run {l : EventLoop} (h : l.Tight) {events : List LoopEvent}
    (hq : ∀ past, past ++ [.start] <+: events → (l.run past).scheduler.phase = .stopped →
      (l.run past).inFlight = 0) : ∀ past, past <+: events → (l.run past).Tight := by
  induction events generalizing l with
  | nil =>
    intro past hp
    rw [List.prefix_nil.mp hp]
    exact h
  | cons e events ih =>
    intro past hp
    cases past with
    | nil => exact h
    | cons e₁ past =>
      obtain ⟨rfl, hrest⟩ := List.cons_prefix_cons.mp hp
      have he : (l.step e₁).Tight := h.step fun hs => hq [] (hs ▸ ⟨events, rfl⟩)
      refine ih he (fun past' hp' => ?_) past hrest
      exact hq (e₁ :: past') (List.cons_prefix_cons.mpr ⟨rfl, hp'⟩)

/-! ## When there is a single timer -/

/-- From a fresh loop on there is a single timer in all states of a run exactly when the run
    delivers no overtaken notification; and so it is when every `start` of a stopped scheduler
    finds nothing in flight. -/
theorem singleTimer_throughout_iff (r : Registry) (origin : Moment) (events : List LoopEvent) :
    ((∀ past, past <+: events → ((fresh r origin).run past).SingleTimer) ↔
      ∀ past e, past ++ [e] <+: events → ¬ ((fresh r origin).run past).Overtaken e) ∧
    ((∀ past, past ++ [.start] <+: events →
        ((fresh r origin).run past).scheduler.phase = .stopped →
        ((fresh r origin).run past).inFlight = 0) →
      ∀ past, past <+: events → ((fresh r origin).run past).SingleTimer) := by
  refine ⟨singleTimer_run_iff (singleTimer_fresh r origin) events, fun hq past hp => ?_⟩
  exact ((tight_fresh r origin).run hq past hp).single

/-- The first timer elapses, its notification is overtaken by `stop` and `start`, and the tick
    that it makes arms a timer beside the pending one. `stop` then cancels the last of the two
    only, and leaves a pending timer with a stopped scheduler. -/
theorem two_timers_after_overtaken_notification :
    let l := (fresh {} Moment.epoch).run [.start, .elapse 0, .stop, .start, .deliver]
    l.scheduler.phase = .running 2 ∧ l.timers.live = [1, 2] ∧ ¬ l.SingleTimer ∧
      (l.step .stop).scheduler.phase = .stopped ∧ (l.step .stop).timers.live = [1] ∧
      ¬ (l.step .stop).SingleTimer := by
  intro l
  have hp : l.scheduler.phase = .running 2 := rfl
  have hl : l.timers.live = [1, 2] := rfl
  have hp' : (l.step .stop).scheduler.phase = .stopped := rfl
  have hl' : (l.step .stop).timers.live = [1] := rfl
  refine ⟨hp, hl, ?_, hp', hl', ?_⟩
  · rw [singleTimer_running hp, hl]
    decide
  · rw [singleTimer_stopped hp', hl']
    decide

end EventLoop

end Crond
