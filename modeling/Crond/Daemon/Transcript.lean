import Crond.Daemon.Boot
import Crond.Log.File
import Crond.Log.Layout
import Crond.Text.Bytes

/-
  What a daemon leaves behind: the lines it and its scripts write, the events it logs, and the
  files the events go to.

  The shell that scripts are handed to is no part of the daemon. What becomes of a script is up to
  the machine that the daemon runs on, which can be any.
-/

namespace Crond.Daemon

open Calendar Log

/-- What comes of a script: what it writes, in bytes, and how it ends, if that can be found out. -/
structure Outcome where
  out : List Char
  err : List Char
  ended : Except String Exit

/-- What a machine does for a daemon, in each of its states. -/
structure Machine (σ : Type) where
  /-- Hands a script to the shell, and lets it run to its end. -/
  run : String → σ → Outcome × σ
  /-- Makes a log file where there is none. -/
  openLog : FilePlace → σ → σ

variable {σ : Type}

structure Transcript (σ : Type) where
  status : Nat
  /-- What has been written, in bytes. -/
  out : List Char := []
  err : List Char := []
  isVerbose : Bool := false
  settings : Option Settings := none
  /-- All events, in order. -/
  events : List Event := []
  /-- The state that the machine is left in. -/
  state : σ

namespace Transcript

/-- Carries out an act: a script that is launched runs to its end. -/
def act (m : Machine σ) (now : Moment) (t : Transcript σ) : Act → Transcript σ
  | .launch _ _ (.error _) => t
  | .launch label script (.ok _) =>
    let (result, state) := m.run script t.state
    { t with
      out := t.out ++ result.out
      err := t.err ++ result.err
      events := t.events ++ [endEvent label now result.ended]
      state }
  | .effect e =>
    match e.logWarning with
    | .log event => { t with events := t.events ++ [event] }
    | _ => t

/-- The events that are logged. -/
def logged (t : Transcript σ) : List Event := t.events.filter fun e => e.isLogged t.isVerbose

/-- The layout of standard output, if events are logged there. -/
def stdoutLayout? (t : Transcript σ) : Option Layout :=
  match t.settings with
  | none => none
  | some c =>
    let stdout := c.log.stdout
    if stdout.isEnabled then some ⟨stdout.style, stdout.isColored⟩ else none

/-- The log file and its layout, if events are logged to a file. -/
def fileLayout? (t : Transcript σ) (now : Moment) : Option (FilePlace × Layout) :=
  match t.settings with
  | none => none
  | some c =>
    match c.log.file with
    | none => none
    | some l => (filePlace? l now).map fun place => (place, ⟨l.style, false⟩)

/-- Opens the log file: scripts find it, though not what it holds in the end. -/
def openLog (m : Machine σ) (now : Moment) (t : Transcript σ) : Transcript σ :=
  match t.fileLayout? now with
  | none => t
  | some (place, _) => { t with state := m.openLog place t.state }

/-- The text of the logged events in a layout. -/
def render (t : Transcript σ) (now : Moment) (l : Layout) : String :=
  String.join (t.logged.map (l.render now.logText))

end Transcript

/-- Lines in bytes. -/
def joinLines (ls : List String) : List Char := ls.flatMap fun l => Text.bytes l ++ ['\n']

/-- The status that a daemon ends with. One that has come up ends well when it is told to. -/
def Boot.status (b : Boot) : Nat :=
  match b.stage with
  | .ended status => status
  | .up _ => 0

/-- The acts of a start, and if the daemon comes up those of a shutdown before the first tick. -/
def Boot.allActs (b : Boot) : List Act :=
  match b.stage with
  | .ended _ => b.acts
  | .up scheduler => b.acts ++ (shutDown scheduler).2

/-- The transcript before the first act. -/
def Boot.begun (b : Boot) (state : σ) : Transcript σ where
  status := b.status
  out := joinLines b.out
  err := joinLines b.err
  isVerbose := b.isVerbose
  settings := b.settings
  state := state

/-- A start of the daemon on a machine, and if it comes up a shutdown before the first tick. -/
def transcript (m : Machine σ) (state : σ) (s : Surroundings) : Transcript σ :=
  let b := boot s
  let now := s.offer.now
  b.allActs.foldl (Transcript.act m now) ((b.begun state).openLog m now)

end Crond.Daemon
