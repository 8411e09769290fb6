import Crond.Calendar.Stamp
import Crond.Settings.Basic

/-
  Log files: where the settings put them, and what they are called.

  A new file is begun with every day, hour or minute, as the rotation says, and its name tells
  which; with any other rotation there is one file for good.
-/

namespace Crond.Log

open Calendar

/-- The parts of a path between its slashes. Empty parts and `.` say nothing. -/
def pathParts (path : String) : List String :=
  ((path.toList.splitOn '/').filter fun p => p ≠ [] && p ≠ ['.']).map String.ofList

def isAbsolute (path : String) : Bool := path.toList.head? = some '/'

/-- What a rotation puts behind the name of a file that is begun at a moment. -/
def rotationSuffix (rotation : String) (t : Moment) : String :=
  let hour := "-" ++ places 2 t.hour
  match rotation with
  | "daily" => "." ++ t.dateText
  | "hourly" => "." ++ t.dateText ++ hour
  | "minutely" => "." ++ t.dateText ++ hour ++ "-" ++ places 2 t.minute
  | _ => ""

/-- The place of a log file: the directories on the way to it, and its name. -/
structure FilePlace where
  isAbsolute : Bool
  directories : List String
  name : String
  deriving DecidableEq, Repr

/-- The path of a directory, with nothing where it is the working directory. -/
def FilePlace.directory (p : FilePlace) : String :=
  (if p.isAbsolute then "/" else "") ++ "/".intercalate p.directories

def FilePlace.path (p : FilePlace) : String :=
  (if p.isAbsolute then "/" else "") ++ "/".intercalate (p.directories ++ [p.name])

/-- The place of the log file that is begun at a moment. There is none where no file is named. -/
def filePlace? (l : FileLog) (t : Moment) : Option FilePlace :=
  match (pathParts l.path).reverse with
  | [] => none
  | name :: before =>
    if !l.isEnabled || name = ".." then none
    else some ⟨isAbsolute l.path, before.reverse, name ++ rotationSuffix l.rotation t⟩

end Crond.Log
