import Crond.Daemon.Transcript
import Crond.Proofs.Daemon.Arguments

/-
  What a daemon leaves behind, on any machine.

  A machine is asked once for each script that the shell comes up with, in the order of the acts,
  and goes from state to state meanwhile (`Machine.serveAll`).

  Proved: `transcript_eq`. What is written, logged and left behind is what the daemon writes, logs
  and leaves by itself, and what the scripts come to, act by act. `transcript_of_page`: a daemon
  that shows a page leaves the machine alone.
-/

namespace Crond.Daemon

open Calendar Log

variable {σ : Type}

/-- What comes of the script that an act hands to the shell, if it comes up with one. -/
def Machine.serve (m : Machine σ) (state : σ) : Act → Option Outcome × σ
  | .launch _ script (.ok _) => (some (m.run script state).1, (m.run script state).2)
  | .launch _ _ (.error _) | .effect _ => (none, state)

/-- Acts, each with what comes of its script, and the state that they leave. -/
def Machine.serveAll (m : Machine σ) : List Act → σ → List (Act × Option Outcome) × σ
  | [], state => ([], state)
  | a :: acts, state =>
    let first := m.serve state a
    let rest := m.serveAll acts first.2
    ((a, first.1) :: rest.1, rest.2)

/-- The event that is logged when an act has come to what it comes to. -/
def servedEvent? (now : Moment) : Act × Option Outcome → Option Event
  | (.launch label _ _, some o) => some (endEvent label now o.ended)
  | (.launch _ _ _, none) => none
  | (.effect e, _) =>
    match e.logWarning with
    | .log event => some event
    | _ => none

namespace Transcript

/-- A transcript that goes on with acts that have been served. -/
def extended (t : Transcript σ) (now : Moment) (served : List (Act × Option Outcome)) (state : σ) :
    Transcript σ :=
  { t with
    out := t.out ++ (served.filterMap Prod.snd).flatMap Outcome.out
    err := t.err ++ (served.filterMap Prod.snd).flatMap Outcome.err
    events := t.events ++ served.filterMap (servedEvent? now)
    state }

theorem extended_nil (t : Transcript σ) (now : Moment) : t.extended now [] t.state = t := by
  simp [extended]

theorem extended_extended (t : Transcript σ) (now : Moment)
    (served served' : List (Act × Option Outcome)) (state state' : σ) :
    (t.extended now served state).extended now served' state' =
      t.extended now (served ++ served') state' := by
  simp [extended]

/-- An act extends a transcript by what it comes to. -/
theorem act_eq (m : Machine σ) (now : Moment) (t : Transcript σ) (a : Act) :
    act m now t a = t.extended now [(a, (m.serve t.state a).1)] (m.serve t.state a).2 := by
  unfold extended
  simp only [List.filterMap_cons, List.filterMap_nil]
  cases a with
  | launch label script outcome =>
    cases outcome with
    | ok => simp [act, Machine.serve, servedEvent?]
    | error e => simp [act, Machine.serve, servedEvent?]
  | effect e =>
    simp only [act, Machine.serve, servedEvent?]
    cases e.logWarning <;> simp

theorem foldl_act (m : Machine σ) (now : Moment) (acts : List Act) (t : Transcript σ) :
    acts.foldl (act m now) t =
      t.extended now (m.serveAll acts t.state).1 (m.serveAll acts t.state).2 := by
  induction acts generalizing t with
  | nil => exact (t.extended_nil now).symm
  | cons a acts ih =>
    rw [List.foldl_cons, ih, act_eq, extended_extended]
    rfl

end Transcript

/-- Opening the log file changes nothing but the state of the machine. -/
theorem Transcript.openLog_eq (m : Machine σ) (now : Moment) (t : Transcript σ) :
    t.openLog m now = { t with state := (t.openLog m now).state } := by
  unfold openLog
  cases t.fileLayout? now <;> rfl

/-- What a start of the daemon and the shutdown behind it leave on a machine: the lines of the
    daemon and behind them the output of the scripts, script by script; the events in the order of
    the acts, each script that has run being told by its end; and the state that the last script
    leaves. -/
theorem transcript_eq (m : Machine σ) (state : σ) (s : Surroundings) :
    let b := boot s
    let opened := ((b.begun state).openLog m s.offer.now).state
    let (served, left) := m.serveAll b.allActs opened
    let outcomes := served.filterMap Prod.snd
    transcript m state s =
      { status := b.status
        out := joinLines b.out ++ outcomes.flatMap Outcome.out
        err := joinLines b.err ++ outcomes.flatMap Outcome.err
        isVerbose := b.isVerbose
        settings := b.settings
        events := served.filterMap (servedEvent? s.offer.now)
        state := left } := by
  intro b opened
  have hrun : transcript m state s = _ := Transcript.foldl_act m s.offer.now b.allActs _
  rw [Transcript.openLog_eq] at hrun
  exact hrun

/-- A daemon that shows a page writes that page, and leaves the machine alone. -/
theorem transcript_of_page (m : Machine σ) (state : σ) {s : Surroundings} {p : CommandLine.Page}
    (h : CommandLine.resolve s.arguments (fun name => s.environment.lookup name) = .page p) :
    transcript m state s = { status := 0, out := joinLines (p.text s.build), state } := by
  unfold transcript
  rw [CommandLine.boot_of_page h]
  rfl

end Crond.Daemon
