import Crond.Log.Event

/-
  Which events are logged: those of this program down to DEBUG, or down to TRACE when it is
  verbose, and those of any other source down to INFO.
-/

namespace Crond.Log

/-- The source name of this program's events. A source whose name begins with it is part of it. -/
def ownTarget : String := "secondhand"

/-- The lowest level that is logged for a source. -/
def threshold (verbose : Bool) (target : String) : Level :=
  if ownTarget.toList.isPrefixOf target.toList then
    if verbose then .trace else .debug
  else .info

def admits (verbose : Bool) (target : String) (level : Level) : Bool :=
  level.verbosity ≤ (threshold verbose target).verbosity

/-- Whether an event of this program is logged. -/
def Event.isLogged (e : Event) (verbose : Bool) : Bool := admits verbose ownTarget e.level

end Crond.Log
