import Crond.Scheduler.Basic

/-
  A scheduler with a host whose clock readings are known beforehand: the clock shows the queued
  readings in turn, and the timers are numbered 1, 2, … as they are armed.
-/

namespace Crond

open Calendar

/-- The clock readings to come, and the number of timers armed so far. -/
structure Host where
  readings : List Moment := []
  armed : Nat := 0
  deriving DecidableEq, Repr

namespace Host

/-- When no reading is left the clock shows the beginning of 1970. -/
def offer (h : Host) : Offer := ⟨h.readings.headD Moment.epoch, h.armed + 1⟩

/-- The host after it has served an effect. -/
def serve (h : Host) : Effect → Host
  | .readClock _ => { h with readings := h.readings.tail }
  | .arm _ _ => { h with armed := h.armed + 1 }
  | _ => h

end Host

structure Session where
  scheduler : Scheduler := {}
  host : Host := {}

/-- An operation with its effects and its reply. -/
structure Step where
  op : Op
  effects : List Effect
  reply : Reply

namespace Session

/-- One operation, with what the host offers. -/
def step (s : Session) (op : Op) : Session × Step :=
  let outcome := s.scheduler.step s.host.offer op
  (⟨outcome.scheduler, outcome.effects.foldl Host.serve s.host⟩,
   ⟨op, outcome.effects, outcome.reply⟩)

/-- A sequence of operations. -/
def run (s : Session) : List Op → Session × List Step
  | [] => (s, [])
  | op :: ops =>
    let (s', step) := s.step op
    let (s'', steps) := s'.run ops
    (s'', step :: steps)

/-- Queues clock readings behind those still to come. -/
def enqueue (s : Session) (readings : List Moment) : Session :=
  { s with host := { s.host with readings := s.host.readings ++ readings } }

/-- The session after a sequence of operations. -/
def after (s : Session) (ops : List Op) : Session := (s.run ops).1

/-- All effects of a sequence of operations, in order. -/
def effects (s : Session) (ops : List Op) : List Effect := (s.run ops).2.flatMap Step.effects

@[simp] theorem effects_cons (s : Session) (op : Op) (ops : List Op) :
    s.effects (op :: ops) = (s.step op).2.effects ++ (s.step op).1.effects ops := rfl

end Session

end Crond
