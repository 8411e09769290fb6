import Crond.Calendar.Stamp
import Crond.CommandLine
import Crond.Daemon.Register
import Crond.Exit
import Crond.Log.Filter
import Crond.Settings.Reader

/-
  The daemon from its arguments to its end: coming up, ticking, and shutting down.

  It comes up once its settings and its job table can be read; otherwise it ends with a message.
  What it logs before that goes where its settings say.
-/

namespace Crond.Daemon

open Calendar JobTable Log

/-- What the daemon finds around it when it is started, and the build that it is of. -/
structure Surroundings where
  build : CommandLine.Build
  arguments : List String
  environment : List (String × String)
  file : String → Option (List UInt8)
  launches : Launches
  offer : Offer

/-- How far a daemon has come: it has ended, or it is up. -/
inductive Stage where
  | ended (status : Nat)
  | up (scheduler : Scheduler)

/-- A start of the daemon. The settings are there once they have been read. -/
structure Boot where
  stage : Stage
  out : List String := []
  err : List String := []
  isVerbose : Bool := false
  settings : Option Settings := none
  acts : List Act := []

def unreadable (path : String) : String := "Failed to parse " ++ path ++ ":"

def readSettings? (s : Surroundings) (path : String) : Option Settings :=
  match s.file path with
  | none => none
  | some bytes => (Settings.read bytes).toOption

def readEntries? (s : Surroundings) (path : String) : Option (List Entry) :=
  match s.file path with
  | none => none
  | some bytes =>
    match String.fromUTF8? ⟨bytes.toArray⟩ with
    | none => none
    | some table => (JobTable.parse table).toOption

def info (message : String) : Event := { level := .info, message }

/-- Registers the entries of a table and starts the scheduler. -/
def comeUp (s : Surroundings) (path : String) (entries : List Entry) : Scheduler × List Act :=
  let warning : List Act :=
    if entries.isEmpty then [.log { level := .warn, message := "No jobs in " ++ path }] else []
  let registered := registerAll s.launches {} entries
  let started := registered.1.start s.offer
  (started.1, warning ++ registered.2 ++ started.2.map .effect)

def boot (s : Surroundings) : Boot :=
  match CommandLine.resolve s.arguments (fun name => s.environment.lookup name) with
  | .page p => { stage := .ended 0, out := p.text s.build }
  | .run options notices =>
    match readSettings? s options.configPath with
    | none => { stage := .ended 1, err := notices ++ [unreadable options.configPath] }
    | some settings =>
      let started := Act.log (info (settings.name ++ " started"))
      match readEntries? s options.jobsPath with
      | none =>
        { stage := .ended 1
          err := notices ++ [unreadable options.jobsPath]
          isVerbose := options.isVerbose
          settings := some settings
          acts := [started] }
      | some entries =>
        let up := comeUp s options.jobsPath entries
        { stage := .up up.1
          err := notices
          isVerbose := options.isVerbose
          settings := some settings
          acts := started :: up.2 }

def shutdownSpan : Span := { name := "Shutting down" }

/-- An act as it happens inside a span. -/
def Act.within (span : Span) : Act → Act
  | .effect (.log e) => .log (e.within span)
  | act => act

/-- Stops ticking. Scripts that still run are left to themselves. -/
def shutDown (s : Scheduler) : Scheduler × List Act :=
  let stopped := s.stop
  let acts := Act.log (info "Shutting down") :: stopped.2.map .effect ++ [.log (info "Done")]
  (stopped.1, acts.map (Act.within shutdownSpan))

/-! ### Scripts -/

/-- The span in which a script runs. -/
def scriptSpan (label : String) (t : Moment) : Span :=
  { name := "Running job", fields := [("label", label), ("time", t.text)] }

/-- The event that tells the end of a script, or why it is not known. -/
def endEvent (label : String) (t : Moment) (ended : Except String Exit) : Event :=
  let e : Event := match ended with
    | .ok exit =>
      if exit = .code 0 then { level := .debug, message := "Done" }
      else { level := .warn, message := "Exited with " ++ exit.text }
    | .error message => { level := .error, message }
  e.within (scriptSpan label t)

end Crond.Daemon
