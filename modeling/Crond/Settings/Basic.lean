import Crond.Log.Style

/-
  The settings of a daemon: its name and where and how it logs.
-/

namespace Crond

structure StdoutLog where
  isEnabled : Bool := true
  format : Option String := none
  isColored : Bool := true
  deriving DecidableEq, Repr

structure FileLog where
  isEnabled : Bool := true
  path : String
  rotation : String := "daily"
  format : Option String := none
  deriving DecidableEq, Repr

structure LogSettings where
  stdout : StdoutLog := {}
  file : Option FileLog := none
  deriving DecidableEq, Repr

structure Settings where
  name : String := "secondhand"
  log : LogSettings := {}
  deriving DecidableEq, Repr

def StdoutLog.style (l : StdoutLog) : Log.Style := .ofName l.format

def FileLog.style (l : FileLog) : Log.Style := .ofName l.format

end Crond
