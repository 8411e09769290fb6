import Crond.Machine

/-
  The program: reads the files that its arguments name, brings the daemon up, and ticks until it is
  killed. The clock shows universal time.
-/

namespace Crond.Program

open Calendar Daemon

/-- The environment variables that are looked at or handed to scripts. -/
def environmentNames : List String :=
  ["SECONDHAND_CONFIG", "SECONDHAND_JOBS", "PATH", "HOME", "USER", "LANG", "TZ"]

def readEnvironment : IO (List (String × String)) :=
  environmentNames.filterMapM fun name => return (← IO.getEnv name).map (name, ·)

def readBytes? (path : String) : IO (Option (List UInt8)) := do
  try return some (← IO.FS.readBinFile path).toList
  catch _ => return none

/-- The time of day at which a new file is marked as changed. -/
def readFileClock : IO Moment := do
  let (_, path) ← IO.FS.createTempFile
  let changed := (← path.metadata).modified
  IO.FS.removeFile path
  return ⟨changed.sec * (nanosPerSecond : Int) + changed.nsec.toNat⟩

/-- A clock that is set once and then runs evenly: the moment at which it showed zero. -/
def setClock : IO Moment := do
  let now ← readFileClock
  return ⟨now.nanos - (← IO.monoNanosNow)⟩

def readClock (zero : Moment) : IO Moment := return zero.add ⟨← IO.monoNanosNow⟩

def print (text : String) : IO Unit := do
  let out ← IO.getStdout
  out.putStr text
  out.flush

/-- The text that bytes spell. -/
def spelled (bytes : List Char) : String := String.ofList (Text.ofBytes bytes)

/-- Appends to a log file; a file that cannot be written to is left alone. -/
def append (place : Log.FilePlace) (text : String) : IO Unit := do
  try
    if place.directory ≠ "" then IO.FS.createDirAll place.directory
    IO.FS.withFile place.path .append fun h => h.putStr text
  catch _ => return

/-- Carries out acts at a moment, and writes what comes of them where it belongs. -/
def carryOut (machine : Machine Files.Tree) (before : Transcript Files.Tree) (now : Moment)
    (acts : List Act) : IO Unit := do
  let t := acts.foldl (Transcript.act machine now) before
  print (spelled t.out)
  IO.eprint (spelled t.err)
  if let some l := t.stdoutLayout? then print (t.render now l)
  if let some (place, l) := t.fileLayout? now then append place (t.render now l)

/-- The runs of a tick as acts, each handing its script to the shell. -/
def actsOf (e : Effect) : List Act :=
  match e with
  | .ran r => [.effect e, .launch r.task r.script (.ok ())]
  | _ => [.effect e]

/-- The delay of the timer that effects arm last. -/
def lastDelay (effects : List Effect) : Duration :=
  effects.foldl (fun d e => match e with
    | .arm _ delay => delay
    | _ => d) .second

partial def tickForever (zero : Moment) (machine : Machine Files.Tree)
    (blank : Transcript Files.Tree) (scheduler : Scheduler) (timer : Timer) (delay : Duration) :
    IO Unit := do
  IO.sleep delay.millis.toUInt32
  let now ← readClock zero
  let (scheduler, effects) := scheduler.tick ⟨now, timer + 1⟩
  carryOut machine blank now (effects.flatMap actsOf)
  tickForever zero machine blank scheduler (timer + 1) (lastDelay effects)

/-- A build that knows no commit. -/
def build : CommandLine.Build := ⟨"unknown", "2000-01-01"⟩

/-- Runs the program with its arguments, the name it goes by being the first of them. -/
def run (args : List String) : IO UInt32 := do
  let environment ← readEnvironment
  let paths := match CommandLine.resolve args fun name => environment.lookup name with
    | .page _ => []
    | .run o _ => [o.configPath, o.jobsPath]
  let files ← paths.mapM fun path => return (path, ← readBytes? path)
  let zero ← setClock
  let now ← readClock zero
  let b := boot {
    build
    arguments := args
    environment
    file := fun path => (files.lookup path).join
    launches := fun _ _ _ => .ok ()
    offer := ⟨now, 1⟩ }
  let machine := Script.machine environment []
  let blank : Transcript Files.Tree := {
    status := 0
    isVerbose := b.isVerbose
    settings := b.settings
    state := Files.system }
  carryOut machine { blank with out := joinLines b.out, err := joinLines b.err } now b.acts
  match b.stage with
  | .ended status => return status.toUInt32
  | .up scheduler =>
    tickForever zero machine blank scheduler 1 (tickDelay now)
    return 0

end Crond.Program

def main (args : List String) : IO UInt32 := Crond.Program.run ("secondhand" :: args)
