import Crond.Daemon.Transcript
import Crond.Machine.Script.Run

/-
  A machine for the program to run on: a shell that is part of it, among the files of a tree.

  The daemon is defined over any machine, and nothing that is proved of it looks at this one. The
  shell and the utilities below it stand in for those of a system, where the program is to run by
  itself.
-/

namespace Crond.Script

open Text Files

/-- Makes a file where there is none, with the directories on the way to it. -/
def openFile (directory : Place) (place : Log.FilePlace) (files : Tree) : Tree :=
  let (files, p) := files.enterAll (if place.isAbsolute then [] else directory)
    (place.directories.map bytes)
  let p := p ++ [bytes place.name]
  if (files.node? p).isSome then files else files.write p [] Tree.plainRights

/-- The machine on which scripts run under an environment, in a directory. -/
def machine (environment : List (String × String)) (directory : Place) : Daemon.Machine Tree where
  run script files :=
    let result := run script environment files directory
    (⟨result.out, result.err, .ok result.exit⟩, result.files)
  openLog := openFile directory

/-- Why the system does not start a program. -/
def systemError (f : PathFault) : TaskError :=
  .unavailable (f.text ++ " (os error " ++ String.ofList (numeral f.number) ++ ")")

/-- Launches of the shell, which is searched for among files. No program can be given a text in
  which there is a zero byte. -/
def launchesFrom (environment : List (String × String)) (files : Tree) (directory : Place) :
    Daemon.Launches := fun _ script _ =>
  if script.toList.contains '\x00' then
    .error (.unavailable "nul byte found in provided data")
  else
    let searchPath := (environment.lookup "PATH").map bytes
    match files.program? directory searchPath (bytes "sh") with
    | .ok _ => .ok ()
    | .error f => .error (systemError f)

end Crond.Script
