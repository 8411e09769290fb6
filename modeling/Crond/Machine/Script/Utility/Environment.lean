import Crond.Machine.Script.Utility.Basic

/-
  The program `printenv`, which prints the variables that programs see.
-/

namespace Crond.Script

namespace Utility

/-- All variables that programs see, as texts. -/
def assignments (sh : Shell) : List (List Char) := sh.environment.map fun v => v.1 ++ '=' :: v.2

def environmentTable : OptionTable where
  letters := "0"
  names := [("null", "0")]
  isMixed := false

def printEnvironment : Builtin :=
  withOptions "printenv" 2 environmentTable faultless fun os sh names =>
    let mark := if givenIn os "0" then '\x00' else '\n'
    let values := names.map fun n => sh.environment.lookup n
    let shown := if names.isEmpty then assignments sh else values.filterMap id
    (sh.print (closed mark shown)).withStatus (if values.all Option.isSome then 0 else 1)

end Utility

end Crond.Script
