import Crond.Proofs.Scheduler.Conduct

/-
  What a scheduler asks of its host, over any sequence of operations and with any host.

  `Consistent` relates the effects of a run to the phase that it ends in: the timer that is held
  is the one armed last, and each timer is cancelled at most once. Every operation keeps it
  (`Consistent.step`).

  Proved:
  * `host_protocol`: timers are armed with the delay of a reading just taken, before any task is
    run, by a `start` while stopped or a tick while running; what is cancelled is the timer armed
    last, and none is cancelled twice; a scheduler runs exactly if its last timer call armed one;
    a needless `start` or `stop` is one warning, an ignored tick asks nothing; and starting and
    stopping are told in turn.
  * `Session.effects_eq_turns`, `Session.nodup_armedTimers`: a session is such a run, with a host
    that never offers a timer twice.
-/

namespace Crond

open Calendar Log Scheduler

/-! ## Views of effects -/

namespace Effect

def armedTimer? : Effect → Option Timer
  | .arm t _ => some t
  | _ => none

def cancelledTimer? : Effect → Option Timer
  | .cancel t => some t
  | _ => none

/-- Whether a timer is armed or cancelled. -/
def isTimerCall : Effect → Bool
  | .arm _ _ | .cancel _ => true
  | _ => false

/-- Whether something is asked of the host. -/
def isCall : Effect → Bool
  | .readClock _ | .arm _ _ | .cancel _ | .warn _ => true
  | .ran _ | .log _ => false

end Effect

def armedTimers (es : List Effect) : List Timer := es.filterMap Effect.armedTimer?

def cancelledTimers (es : List Effect) : List Timer := es.filterMap Effect.cancelledTimer?

def timerCalls (es : List Effect) : List Effect := es.filter Effect.isTimerCall

section Append

variable (es new : List Effect)

theorem armedTimers_append : armedTimers (es ++ new) = armedTimers es ++ armedTimers new :=
  List.filterMap_append

theorem cancelledTimers_append :
    cancelledTimers (es ++ new) = cancelledTimers es ++ cancelledTimers new :=
  List.filterMap_append

theorem infos_append : infos (es ++ new) = infos es ++ infos new := List.filterMap_append

theorem timerCalls_append : timerCalls (es ++ new) = timerCalls es ++ timerCalls new :=
  List.filter_append _ _

end Append

/-- Effects that concern neither a timer nor the phase. -/
structure Unseen (es : List Effect) : Prop where
  armed : armedTimers es = []
  cancelled : cancelledTimers es = []
  infos : infos es = []
  timerCalls : timerCalls es = []

theorem unseen_of_work {es : List Effect} (h : Work es) : Unseen es := by
  have hviews : ∀ e ∈ es, e.armedTimer? = none ∧ e.cancelledTimer? = none ∧
      e.isTimerCall = false := by
    intro e he
    have hq := h.quiet e he
    cases e with
    | ran r => exact ⟨rfl, rfl, rfl⟩
    | log event => exact ⟨rfl, rfl, rfl⟩
    | _ => exact hq.elim
  refine ⟨?_, ?_, h.infos, ?_⟩
  · exact List.filterMap_eq_nil_iff.mpr fun e he => (hviews e he).1
  · exact List.filterMap_eq_nil_iff.mpr fun e he => (hviews e he).2.1
  · exact List.filter_eq_nil_iff.mpr fun e he => by simp [(hviews e he).2.2]

theorem unseen_warn (message : String) : Unseen [.warn message] := ⟨rfl, rfl, rfl, rfl⟩

/-- Work asks nothing of the host. -/
theorem calls_of_work {es : List Effect} (h : Work es) : es.filter Effect.isCall = [] := by
  refine List.filter_eq_nil_iff.mpr fun e he => ?_
  have hq := h.quiet e he
  cases e with
  | ran r => exact Bool.false_ne_true
  | log event => exact Bool.false_ne_true
  | _ => exact hq.elim

/-! ## The effects of a run, and the phase in which it ends -/

/-- The first `n` of the messages that a scheduler tells in turn. -/
def alternation (n : Nat) : List String :=
  (List.range n).map fun i => if i % 2 = 0 then "Scheduler started" else "Scheduler stopped"

theorem length_alternation (n : Nat) : (alternation n).length = n := by
  rw [alternation, List.length_map, List.length_range]

theorem alternation_succ (n : Nat) :
    alternation (n + 1) =
      alternation n ++ [if n % 2 = 0 then "Scheduler started" else "Scheduler stopped"] := by
  rw [alternation, List.range_succ, List.map_append]
  rfl

/-- How the effects of a run from the beginning fit the phase in which it ends. Of the timers that
    were armed each is cancelled at most once, and the timer that is held has not been. -/
inductive Consistent (es : List Effect) : Phase → Prop
  | stopped {n : Nat} (hlast : ∀ t d, (timerCalls es).getLast? ≠ some (.arm t d))
      (hcancelled : (cancelledTimers es).Sublist (armedTimers es))
      (hinfos : infos es = alternation n) (hn : n % 2 = 0) : Consistent es .stopped
  | running {n : Nat} {t : Timer} {d : Duration} (earlier : List Timer)
      (hlast : (timerCalls es).getLast? = some (.arm t d))
      (harmed : armedTimers es = earlier ++ [t])
      (hcancelled : (cancelledTimers es).Sublist earlier)
      (hinfos : infos es = alternation n) (hn : n % 2 = 1) : Consistent es (.running t)

namespace Consistent

variable {es new : List Effect} {p : Phase}

theorem nil : Consistent [] .stopped :=
  .stopped (n := 0) (fun _ _ => by simp [timerCalls]) (.refl _) rfl rfl

theorem cancelled_sublist (h : Consistent es p) :
    (cancelledTimers es).Sublist (armedTimers es) := by
  cases h with
  | stopped _ hcancelled _ _ => exact hcancelled
  | running _ _ harmed hcancelled _ _ =>
    rw [harmed]
    exact hcancelled.trans (List.sublist_append_left _ _)

theorem infos_eq (h : Consistent es p) : infos es = alternation (infos es).length := by
  cases h <;> rename_i hinfos _ <;> rw [hinfos, length_alternation]

theorem getLast?_armedTimers {t : Timer} (h : Consistent es (.running t)) :
    (armedTimers es).getLast? = some t := by
  cases h with
  | running _ _ harmed _ _ _ => rw [harmed, List.getLast?_concat]

theorem running_iff (h : Consistent es p) (t : Timer) :
    p = .running t ↔ ∃ d, (timerCalls es).getLast? = some (.arm t d) := by
  cases h with
  | stopped hlast _ _ _ =>
    exact iff_of_false Phase.noConfusion fun ⟨d, hd⟩ => hlast t d hd
  | running _ hlast _ _ _ _ =>
    constructor
    · intro ht
      cases ht
      exact ⟨_, hlast⟩
    · rintro ⟨d, hd⟩
      cases hlast.symm.trans hd
      rfl

/-- Effects that are not seen change nothing. -/
theorem unseen (h : Consistent es p) (hu : Unseen new) : Consistent (es ++ new) p := by
  have ha : armedTimers (es ++ new) = armedTimers es := by
    rw [armedTimers_append, hu.armed, List.append_nil]
  have hc : cancelledTimers (es ++ new) = cancelledTimers es := by
    rw [cancelledTimers_append, hu.cancelled, List.append_nil]
  have hi : infos (es ++ new) = infos es := by
    rw [infos_append, hu.infos, List.append_nil]
  have ht : timerCalls (es ++ new) = timerCalls es := by
    rw [timerCalls_append, hu.timerCalls, List.append_nil]
  cases h with
  | stopped hlast hcancelled hinfos hn =>
    exact .stopped (by rwa [ht]) (by rwa [ha, hc]) (hi.trans hinfos) hn
  | running earlier hlast harmed hcancelled hinfos hn =>
    exact .running earlier (ht ▸ hlast) (ha.trans harmed) (by rwa [hc]) (hi.trans hinfos) hn

/-- A stopped scheduler arms a timer and tells of its start. -/
theorem start (h : Consistent es .stopped) (o : Offer) :
    Consistent (es ++ (armEffects o ++ [.log startedEvent])) (.running o.timer) := by
  cases h with
  | @stopped n hlast hcancelled hinfos hn =>
    refine .running (n := n + 1) (d := tickDelay o.now) (armedTimers es) ?_ ?_ ?_ ?_ (by omega)
    · rw [timerCalls_append]
      exact List.getLast?_concat
    · exact armedTimers_append _ _
    · rw [cancelledTimers_append]
      exact (List.append_nil _).symm ▸ hcancelled
    · rw [infos_append, hinfos, alternation_succ, if_pos hn]
      rfl

/-- A running scheduler arms another timer and holds that one. -/
theorem rearm {t : Timer} (h : Consistent es (.running t)) (o : Offer) :
    Consistent (es ++ armEffects o) (.running o.timer) := by
  have hsub := h.cancelled_sublist
  cases h with
  | running earlier hlast harmed hcancelled hinfos hn =>
    refine .running (d := tickDelay o.now) (armedTimers es) ?_ ?_ ?_ ?_ hn
    · rw [timerCalls_append]
      exact List.getLast?_concat
    · exact armedTimers_append _ _
    · rw [cancelledTimers_append]
      exact (List.append_nil _).symm ▸ hsub
    · rw [infos_append, ← hinfos]
      exact List.append_nil _

/-- A running scheduler cancels the timer that it holds and tells that it stopped. -/
theorem stop {t : Timer} (h : Consistent es (.running t)) :
    Consistent (es ++ [.cancel t, .log stoppedEvent]) .stopped := by
  cases h with
  | @running n _ d earlier hlast harmed hcancelled hinfos hn =>
    refine .stopped (n := n + 1) (fun u d' => ?_) ?_ ?_ (by omega)
    · rw [timerCalls_append]
      have hcall : timerCalls [.cancel t, .log stoppedEvent] = [.cancel t] := rfl
      rw [hcall, List.getLast?_concat]
      simp
    · rw [cancelledTimers_append, armedTimers_append, harmed]
      exact (hcancelled.append (.refl [t])).trans (List.sublist_append_left _ _)
    · rw [infos_append, hinfos, alternation_succ, if_neg (by omega)]
      rfl

/-- Every operation keeps the effects of a run in step with its phase. -/
theorem step {s : Scheduler} {o : Offer} {op : Op} {out : Outcome} (h : Consistent es s.phase)
    (hc : s.Conduct o op out) : Consistent (es ++ out.effects) out.scheduler.phase := by
  cases hc with
  | register _ hw => exact h.unseen (unseen_of_work hw)
  | refuse _ => exact h.unseen (unseen_of_work work_nil)
  | remove _ => exact h.unseen (unseen_of_work (work_log Level.noConfusion))
  | removeUnknown _ => exact h.unseen (unseen_of_work work_nil)
  | start hp => exact (hp ▸ h).start o
  | startAgain _ => exact h.unseen (unseen_warn _)
  | stop hp => exact (hp ▸ h).stop
  | stopAgain _ => exact h.unseen (unseen_warn _)
  | tick hp hw =>
    rw [← List.append_assoc]
    exact ((hp ▸ h).rearm o).unseen (unseen_of_work hw)
  | ignored _ => exact h.unseen (unseen_of_work (work_log Level.noConfusion))
  | pass hw => exact h.unseen (unseen_of_work hw)

end Consistent

namespace Scheduler

theorem consistent_after {s : Scheduler} {past : List Effect} (h : Consistent past s.phase)
    (turns : List Turn) : Consistent (past ++ s.effects turns) (s.after turns).phase := by
  induction turns generalizing s past with
  | nil =>
    rw [effects, List.append_nil]
    exact h
  | cons t turns ih =>
    rw [effects, ← List.append_assoc]
    exact ih (h.step (s.conduct_turn t))

/-! ## The calls of one operation -/

/-- Where a timer is armed among effects that begin with arming one. -/
theorem eq_of_armEffects_append {o : Offer} {rest before later : List Effect} {t : Timer}
    {d : Duration} (hrest : armedTimers rest = [])
    (h : armEffects o ++ rest = before ++ .arm t d :: later) :
    before = (armEffects o).dropLast ∧ t = o.timer ∧ d = tickDelay o.now ∧ later = rest := by
  unfold armEffects at h ⊢
  match before with
  | [] => simp at h
  | [a] => simp at h
  | [a, b] =>
    simp only [List.cons_append, List.nil_append, List.cons.injEq, Effect.arm.injEq] at h
    obtain ⟨rfl, rfl, ⟨rfl, rfl⟩, rfl⟩ := h
    exact ⟨rfl, rfl, rfl, rfl⟩
  | a :: b :: c :: before =>
    simp only [List.cons_append, List.nil_append, List.cons.injEq] at h
    obtain ⟨_, _, _, rfl⟩ := h
    simp [armedTimers, Effect.armedTimer?] at hrest

namespace Conduct

variable {s : Scheduler} {o : Offer} {op : Op} {out : Outcome}

theorem eq_of_arm {before later : List Effect} {t : Timer} {d : Duration}
    (hc : s.Conduct o op out) (h : out.effects = before ++ .arm t d :: later) :
    (op = .start ∧ s.isRunning = false ∨ op = .tick ∧ s.isRunning = true) ∧
      t = o.timer ∧ d = tickDelay o.now ∧ before = (armEffects o).dropLast ∧
      later.filter Effect.isCall = [] := by
  have hmem : .arm t d ∈ out.effects := by
    rw [h]
    exact List.mem_append_right _ List.mem_cons_self
  cases hc with
  | start hp =>
    obtain ⟨hb, ht, hd, rfl⟩ := eq_of_armEffects_append rfl h
    exact ⟨.inl ⟨rfl, isRunning_stopped hp⟩, ht, hd, hb, rfl⟩
  | tick hp hw =>
    obtain ⟨hb, ht, hd, rfl⟩ := eq_of_armEffects_append (unseen_of_work hw).armed h
    exact ⟨.inr ⟨rfl, isRunning_running hp⟩, ht, hd, hb, calls_of_work hw⟩
  | register _ hw => exact (hw.quiet _ hmem).elim
  | pass hw => exact (hw.quiet _ hmem).elim
  | _ => simp at hmem

theorem eq_of_cancel {before later : List Effect} {t : Timer}
    (hc : s.Conduct o op out) (h : out.effects = before ++ .cancel t :: later) :
    before = [] ∧ s.phase = .running t := by
  have hmem : .cancel t ∈ out.effects := by
    rw [h]
    exact List.mem_append_right _ List.mem_cons_self
  cases hc with
  | @stop u hp =>
    match before with
    | [] =>
      simp only [List.nil_append, List.cons.injEq, Effect.cancel.injEq] at h
      exact ⟨rfl, h.1 ▸ hp⟩
    | _ :: before =>
      have htail : .cancel t ∈ [Effect.log stoppedEvent] := by
        rw [(List.cons.inj h).2]
        exact List.mem_append_right before List.mem_cons_self
      simp at htail
  | tick hp hw =>
    rcases List.mem_append.mp hmem with hmem | hmem
    · simp [armEffects] at hmem
    · exact (hw.quiet _ hmem).elim
  | register _ hw => exact (hw.quiet _ hmem).elim
  | pass hw => exact (hw.quiet _ hmem).elim
  | _ => simp [armEffects] at hmem

/-- An operation arms the timer that it is offered, or none. -/
theorem armedTimers (hc : s.Conduct o op out) :
    armedTimers out.effects = [] ∨ armedTimers out.effects = [o.timer] := by
  cases hc with
  | start hp => exact .inr rfl
  | tick hp hw =>
    refine .inr ?_
    rw [armedTimers_append, (unseen_of_work hw).armed]
    rfl
  | register _ hw => exact .inl (unseen_of_work hw).armed
  | pass hw => exact .inl (unseen_of_work hw).armed
  | _ => exact .inl rfl

end Conduct

end Scheduler

/-! ## Sessions are such runs -/

theorem Host.armed_foldl_serve (h : Host) (es : List Effect) :
    (es.foldl serve h).armed = h.armed + (armedTimers es).length := by
  induction es generalizing h with
  | nil => rfl
  | cons e es ih =>
    rw [List.foldl_cons, ih]
    cases e with
    | arm t d =>
      change h.armed + 1 + (armedTimers es).length = h.armed + ((armedTimers es).length + 1)
      omega
    | _ => rfl

namespace Session

/-- The operations of a session, each with what its host offers. -/
def turns (s : Session) : List Op → List Turn
  | [] => []
  | op :: ops => ⟨op, s.host.offer⟩ :: (s.step op).1.turns ops

theorem effects_eq_turns (s : Session) (ops : List Op) :
    s.effects ops = s.scheduler.effects (s.turns ops) ∧
      (s.after ops).scheduler = s.scheduler.after (s.turns ops) := by
  induction ops generalizing s with
  | nil => exact ⟨rfl, rfl⟩
  | cons op ops ih =>
    obtain ⟨heffects, hafter⟩ := ih (s.step op).1
    exact ⟨congrArg (_ ++ ·) heffects, hafter⟩

/-- The timers of a session are numbered as they are armed. -/
theorem armedTimers_effects (s : Session) (ops : List Op) :
    ∃ n, armedTimers (s.effects ops) = List.range' (s.host.armed + 1) n := by
  induction ops generalizing s with
  | nil => exact ⟨0, rfl⟩
  | cons op ops ih =>
    obtain ⟨n, hn⟩ := ih (s.step op).1
    have hserve : (s.step op).1.host.armed =
        s.host.armed + (armedTimers (s.step op).2.effects).length :=
      s.host.armed_foldl_serve _
    have hc := s.scheduler.conduct s.host.offer op
    rw [effects_cons, armedTimers_append, hn, hserve]
    rcases hc.armedTimers with h | h
    · refine ⟨n, ?_⟩
      simp only [step, h]
      rfl
    · refine ⟨n + 1, ?_⟩
      simp only [step, h]
      rw [Nat.add_comm n 1, ← List.range'_append_1]
      rfl

/-- So a session never arms a timer twice. -/
theorem nodup_armedTimers (s : Session) (ops : List Op) :
    (armedTimers (s.effects ops)).Nodup := by
  obtain ⟨n, hn⟩ := s.armedTimers_effects ops
  rw [hn]
  exact List.nodup_range'

end Session

namespace Scheduler

/-! ## The protocol -/

/-- What a new scheduler asks of its host in any operation, after any operations before it. -/
theorem host_protocol (turns : List Turn) (next : Turn) :
    let s := after {} turns
    let past := effects {} turns
    let out := s.turn next
    -- A timer is armed by a `start` while stopped or a tick while running, for the delay of the one
    -- reading that was just taken, and before any task is run.
    (∀ before t delay later, out.effects = before ++ .arm t delay :: later →
      (next.op = .start ∧ s.isRunning = false ∨ next.op = .tick ∧ s.isRunning = true) ∧
      t = next.offer.timer ∧ delay = tickDelay next.offer.now ∧
      before.filter Effect.isCall = [.readClock next.offer.now] ∧
      later.filter Effect.isCall = [] ∧ ∀ run, .ran run ∉ before) ∧
    -- What is cancelled is the timer armed last, and no timer is cancelled twice.
    (∀ before t later, out.effects = before ++ .cancel t :: later →
      (armedTimers (past ++ before)).getLast? = some t) ∧
    ((armedTimers past).Nodup → (cancelledTimers past).Nodup) ∧
    (s.isRunning = true ↔ ∃ t delay, (timerCalls past).getLast? = some (.arm t delay)) ∧
    -- Operations that have nothing to do.
    (next.op = .tick → s.isRunning = false →
      out.scheduler = s ∧ out.effects.filter Effect.isCall = [] ∧
        out.effects.filterMap Effect.run? = []) ∧
    (next.op = .start → s.isRunning = true →
      out.scheduler = s ∧ out.effects = [.warn "already running"]) ∧
    (next.op = .stop → s.isRunning = false →
      out.scheduler = s ∧ out.effects = [.warn "not running"]) ∧
    infos past = alternation (infos past).length := by
  intro s past out
  have hpast : Consistent past s.phase := consistent_after (s := {}) .nil turns
  have hc : s.Conduct next.offer next.op out := s.conduct_turn next
  refine ⟨?_, ?_, ?_, ?_, ?_, ?_, ?_, hpast.infos_eq⟩
  · intro before t delay later h
    obtain ⟨hop, ht, hd, rfl, hlater⟩ := hc.eq_of_arm h
    exact ⟨hop, ht, hd, rfl, hlater, fun run => by simp [armEffects]⟩
  · intro before t later h
    obtain ⟨rfl, hp⟩ := hc.eq_of_cancel h
    rw [List.append_nil]
    exact (hp ▸ hpast).getLast?_armedTimers
  · exact fun h => h.sublist hpast.cancelled_sublist
  · rw [isRunning_iff]
    exact exists_congr hpast.running_iff
  · intro hop hs
    rw [hc.eq_of_tick_stopped hop hs]
    exact ⟨rfl, rfl, rfl⟩
  · intro hop hs
    rw [hc.eq_of_start_running hop hs]
    exact ⟨rfl, rfl⟩
  · intro hop hs
    rw [hc.eq_of_stop_stopped hop hs]
    exact ⟨rfl, rfl⟩

/-- A scheduler is started twice, ticks, is stopped, gets a tick that comes too late, and is
    started again. -/
theorem host_protocol_restart :
    let late (timer : Timer) : Offer := ⟨⟨1660839120092000500⟩, timer⟩
    let turns : List Turn := [⟨.start, late 1⟩, ⟨.start, late 2⟩, ⟨.tick, late 2⟩, ⟨.stop, late 3⟩,
      ⟨.tick, late 3⟩, ⟨.start, late 3⟩]
    let s := after {} turns
    let past := effects {} turns
    let stopped := after {} (turns ++ [⟨.stop, late 4⟩])
    (armedTimers past = [1, 2, 3] ∧ cancelledTimers past = [2] ∧ (cancelledTimers past).Nodup) ∧
    (s.isRunning = true ∧ ∃ t delay, (timerCalls past).getLast? = some (.arm t delay)) ∧
    infos past = alternation 3 ∧
    ((s.turn ⟨.start, late 4⟩).scheduler = s ∧
      (s.turn ⟨.start, late 4⟩).effects = [.warn "already running"]) ∧
    -- Another tick arms timer 4, and a stop instead of it cancels timer 3.
    (∃ before delay later, (s.turn ⟨.tick, late 4⟩).effects = before ++ .arm 4 delay :: later ∧
      delay = tickDelay (late 4).now ∧
      before.filter Effect.isCall = [.readClock (late 4).now] ∧ ∀ run, .ran run ∉ before) ∧
    (∃ later, (s.turn ⟨.stop, late 4⟩).effects = .cancel 3 :: later ∧
      (armedTimers past).getLast? = some 3) ∧
    -- Once it is stopped, it ignores a tick, and warns of another stop.
    (stopped.isRunning = false ∧ (stopped.turn ⟨.tick, late 4⟩).scheduler = stopped ∧
      (stopped.turn ⟨.tick, late 4⟩).effects.filter Effect.isCall = [] ∧
      (stopped.turn ⟨.stop, late 4⟩).effects = [.warn "not running"]) := by
  intro late turns s past stopped
  obtain ⟨_, _, honce, hruns, _, hagain, _, hinfos⟩ := host_protocol turns ⟨.start, late 4⟩
  obtain ⟨harm, _⟩ := host_protocol turns ⟨.tick, late 4⟩
  obtain ⟨_, hcancel, _⟩ := host_protocol turns ⟨.stop, late 4⟩
  have hrunning : s.isRunning = true := rfl
  refine ⟨⟨rfl, rfl, honce (by decide)⟩, ⟨hrunning, hruns.mp hrunning⟩, hinfos, hagain rfl hrunning,
    ?_, ?_, ?_⟩
  · obtain ⟨_, _, hdelay, hread, _, hran⟩ :=
      harm ((armEffects (late 4)).dropLast) 4 (tickDelay (late 4).now) [] rfl
    exact ⟨_, _, _, rfl, hdelay, hread, hran⟩
  · exact ⟨_, rfl, hcancel [] 3 _ rfl⟩
  · obtain ⟨_, _, _, _, hignored, _⟩ :=
      host_protocol (turns ++ [⟨.stop, late 4⟩]) ⟨.tick, late 4⟩
    obtain ⟨_, _, _, _, _, _, hstop, _⟩ :=
      host_protocol (turns ++ [⟨.stop, late 4⟩]) ⟨.stop, late 4⟩
    obtain ⟨hsame, hcalls, _⟩ := hignored rfl rfl
    exact ⟨rfl, hsame, hcalls, (hstop rfl rfl).2⟩

end Scheduler

end Crond
