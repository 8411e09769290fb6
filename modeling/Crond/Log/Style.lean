/-
  The styles in which log events can be written.
-/

namespace Crond.Log

inductive Style where
  | full
  | pretty
  | compact
  | json
  deriving DecidableEq, Repr

/-- The style of a name. No name, or one that is unknown, is the full style. -/
def Style.ofName : Option String → Style
  | some "pretty" => pretty
  | some "compact" => compact
  | some "json" => json
  | _ => full

end Crond.Log
