/-
  Log events: a level, a message, named fields, and the span of work they happened in.
-/

namespace Crond.Log

/-- How grave an event is, from the gravest down. -/
inductive Level where
  | error
  | warn
  | info
  | debug
  | trace
  deriving DecidableEq, Repr

namespace Level

def all : List Level := [error, warn, info, debug, trace]

def name : Level → String
  | error => "ERROR"
  | warn => "WARN"
  | info => "INFO"
  | debug => "DEBUG"
  | trace => "TRACE"

/-- The verbosity needed to see a level. -/
def verbosity : Level → Nat
  | error => 1
  | warn => 2
  | info => 3
  | debug => 4
  | trace => 5

end Level

/-- A piece of work that events can happen in. -/
structure Span where
  name : String
  fields : List (String × String) := []
  deriving DecidableEq, Repr

structure Event where
  level : Level
  message : String
  fields : List (String × String) := []
  span : Option Span := none
  deriving DecidableEq, Repr

/-- The event as it happens inside a span. -/
def Event.within (e : Event) (s : Span) : Event := { e with span := some s }

end Crond.Log
