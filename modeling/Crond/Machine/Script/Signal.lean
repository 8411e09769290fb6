import Crond.Exit

/-
  Signals: what they do to a process, and what is said of one that they have ended.
-/

namespace Crond

/-- The status that a shell sees. -/
def Exit.status : Exit → Nat
  | code n => n
  | signal n => 128 + n

namespace Script

open Text

/-- What a signal does to a process that has made no arrangements for it. -/
inductive Disposition where
  | terminate
  | stop
  | ignore
  deriving DecidableEq, Repr

structure Signal where
  number : Nat
  /-- What a shell writes when a command was ended by the signal. -/
  notice : String
  disposition : Disposition := .terminate

def signals : List Signal :=
  [⟨1, "Hangup", .terminate⟩, ⟨2, "Interrupt", .terminate⟩,
   ⟨3, "Quit", .terminate⟩, ⟨4, "Illegal instruction", .terminate⟩,
   ⟨5, "Trace/breakpoint trap", .terminate⟩, ⟨6, "Aborted", .terminate⟩,
   ⟨7, "Bus error", .terminate⟩, ⟨8, "Floating point exception", .terminate⟩,
   ⟨9, "Killed", .terminate⟩, ⟨10, "User defined signal 1", .terminate⟩,
   ⟨11, "Segmentation fault", .terminate⟩,
   ⟨12, "User defined signal 2", .terminate⟩, ⟨13, "Broken pipe", .terminate⟩,
   ⟨14, "Alarm clock", .terminate⟩, ⟨15, "Terminated", .terminate⟩,
   ⟨16, "Stack fault", .terminate⟩, ⟨17, "Child exited", .ignore⟩,
   ⟨18, "Continued", .ignore⟩, ⟨19, "Stopped (signal)", .stop⟩,
   ⟨20, "Stopped", .stop⟩, ⟨21, "Stopped (tty input)", .stop⟩,
   ⟨22, "Stopped (tty output)", .stop⟩, ⟨23, "Urgent I/O condition", .ignore⟩,
   ⟨24, "CPU time limit exceeded", .terminate⟩,
   ⟨25, "File size limit exceeded", .terminate⟩,
   ⟨26, "Virtual timer expired", .terminate⟩,
   ⟨27, "Profiling timer expired", .terminate⟩,
   ⟨28, "Window changed", .ignore⟩, ⟨29, "I/O possible", .terminate⟩,
   ⟨30, "Power failure", .terminate⟩, ⟨31, "Bad system call", .terminate⟩]

/-- Signals have numbers up to this one. Those above 31 have no names. -/
def lastSignal : Nat := 64

def signal? (n : Nat) : Option Signal := signals.find? fun s => s.number = n

/-- Whether a signal is one that programs use for themselves. Nothing comes of it if others send
  it. -/
def isPrivate (n : Nat) : Bool := n = 32 || n = 33

def dispositionOf (n : Nat) : Disposition :=
  match signal? n with
  | some s => s.disposition
  | none => if isPrivate n then .ignore else .terminate

/-- What is said of a command that was ended by a signal. -/
def noticeOf (n : Nat) : String :=
  match signal? n with
  | some s => s.notice
  | none =>
    if n < 34 then "Unknown signal " ++ String.ofList (numeral n)
    else "Real-time signal " ++ String.ofList (numeral (n - 34))

/-- What a shell writes when a command was ended by a signal; of some it keeps silent. -/
def endNotice? (n : Nat) : Option String := if n = 2 || n = 13 then none else some (noticeOf n)

end Script

end Crond
