import Crond.Text.Numeral

/-
  How a process ends, and how that is told.
-/

namespace Crond

open Text

/-- The names of the signals from the first on. Those further on have none. -/
def signalNames : List String :=
  ["HUP", "INT", "QUIT", "ILL", "TRAP", "ABRT", "BUS", "FPE", "KILL", "USR1", "SEGV", "USR2",
    "PIPE", "ALRM", "TERM", "STKFLT", "CHLD", "CONT", "STOP", "TSTP", "TTIN", "TTOU", "URG", "XCPU",
    "XFSZ", "VTALRM", "PROF", "WINCH", "IO", "PWR", "SYS"]

def signalName? (n : Nat) : Option String := if n = 0 then none else signalNames[n - 1]?

/-- How a process ends: with a status of its own, or by a signal. -/
inductive Exit where
  | code (n : Nat)
  | signal (n : Nat)
  deriving DecidableEq, Repr

/-- The text of an end that is no success. -/
def Exit.text : Exit → String
  | code n => "exit status: " ++ String.ofList (numeral n)
  | signal n =>
    let name := match signalName? n with
      | some name => " (SIG" ++ name ++ ")"
      | none => ""
    "signal: " ++ String.ofList (numeral n) ++ name

end Crond
