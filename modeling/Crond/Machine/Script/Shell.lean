import Crond.Machine.Script.Grammar
import Crond.Machine.Script.Switch
import Crond.Machine.Script.World

/-
  A shell at work: its variables and functions, the files around it, where its descriptors lead,
  and whether it goes on.
-/

namespace Crond.Script

open Files

structure Variable where
  name : List Char
  value : Option (List Char)
  isExported : Bool := false
  isFixed : Bool := false
  deriving DecidableEq, Repr

/-- The slot of a variable. Variables are kept in the order of their slots, and programs get to see
  them in that order. -/
def Variable.slot (v : Variable) : Nat :=
  v.name.foldl (· + ·.toNat) (16 * (v.name.head?.map Char.toNat).getD 0) % 39

/-- What is to be put back at the end of a scope. -/
inductive Hidden where
  | variable (name : List Char) (before : Option Variable)
  | switches (on : List Switch)

/-- A command in the background, as the shell sees it that has started it. -/
structure Job where
  /-- Its place in the table of jobs. -/
  number : Nat
  /-- The stages of a pipeline are processes of their own. -/
  processes : List Nat
  /-- How it has ended, if the shell has seen that. -/
  exit? : Option Exit := none
  /-- Whether its end has been told by `wait`, so that another job can take its place. -/
  isWaited : Bool := false
  deriving DecidableEq, Repr

/-- The process that a job goes by. -/
def Job.process (j : Job) : Nat := j.processes.getLastD 0

/-- Whether another job can take the place of a job. -/
def Job.isSpent (j : Job) : Bool := j.isWaited && j.exit?.isSome

/-- What a shell does next: it goes on, or something has to end first. -/
inductive Course where
  | onward
  | leaving (loops : Nat)
  | repeating (loops : Nat)
  /-- A function or a file ends; the flag tells whether with a status of its own. -/
  | returning (isGiven : Bool)
  /-- An error that ends the shell, unless it arose in a command that only fails. -/
  | failed
  | exiting (e : Exit)
  /-- The world has been given back, and nothing happens until the next visit. -/
  | paused
  deriving DecidableEq, Repr

structure Shell extends World where
  name : List Char := ['s', 'h']
  /-- The process that this shell counts as. It is the same in subshells. -/
  process : Nat := 2
  /-- The process that it is. -/
  self : Nat := 2
  /-- The processes that it comes from, the nearest first. -/
  lineage : List Nat := [1]
  /-- Those among them that wait for it and go on together with it. -/
  enclosing : List (Nat × Traps) := []
  role : Role := .keeper []
  /-- How the world was given back. -/
  turn? : Option (Turn Process) := none
  isSubshell : Bool := false
  parameters : List (List Char) := []
  bindings : List Variable := []
  /-- What has been hidden in the scope at work, the latest first. -/
  hidden : List Hidden := []
  /-- How many scopes are at work. Functions have one, and most commands. -/
  scopes : Nat := 0
  functions : List (List Char × Command) := []
  aliases : List (List Char × List Char) := []
  switches : List Switch := []
  traps : Traps := []
  /-- Signals that are ignored whatever is set to run. -/
  deaf : List Nat := []
  /-- Signals that wait for their traps, the latest first. -/
  signals : List Nat := []
  /-- How far the process stands back behind others. -/
  niceness : Int := 0
  /-- What is taken off the rights of new files. -/
  mask : Nat := 18
  directory : Place
  /-- The path on which the shell has come to its directory. -/
  workingPath : List Char := []
  descriptors : List (Nat × Nat) := [(0, 0), (1, 1), (2, 2)]
  /-- Channels that this process keeps open while descriptors lead elsewhere. -/
  saved : List Nat := []
  /-- Channels that are open in the processes that wait for this one. -/
  held : List Nat := []
  jobs : List Job := []
  lastJob : Option Nat := none
  status : Nat := 0
  /-- The status before the trap at work began. -/
  savedStatus : Option Nat := none
  /-- The status of the last substitution in the command at work. -/
  substituted : Option Nat := none
  line : Nat := 1
  /-- The line as far as which the script has been read. -/
  reach : Nat := 1
  /-- The command that messages speak of. -/
  speaker : Option (List Char) := none
  /-- The programs that have been looked up. -/
  tracked : List (List Char) := []
  /-- The number of the next word in which `getopts` looks for letters. -/
  optionIndex : Nat := 1
  /-- How far it has come in the word before. -/
  optionOffset : Option Nat := none
  loops : Nat := 0
  functionDepth : Nat := 0
  course : Course := .onward

/-- The descriptor that a path under `/dev` means. -/
def deviceDescriptor? (path : Name) : Option Nat :=
  [("/dev/stdin", 0), ("/dev/stdout", 1), ("/dev/stderr", 2), ("/dev/fd/0", 0), ("/dev/fd/1", 1),
   ("/dev/fd/2", 2)].lookup (String.ofList path)

namespace Shell

/-- Whether a switch is on. -/
def has (sh : Shell) (s : Switch) : Bool := s ∈ sh.switches

def goesOn (sh : Shell) : Bool := sh.course = .onward

/-- Whether a function or a file is about to end. -/
def isReturning (sh : Shell) : Bool :=
  match sh.course with
  | .returning _ => true
  | _ => false

def withStatus (sh : Shell) (n : Nat) : Shell := { sh with status := n }

/-- What becomes of signals. -/
def arrangements (sh : Shell) : Traps := sh.deaf.map (·, []) ++ sh.traps

def isPaused (sh : Shell) : Bool := sh.course = .paused

/-- Ends a shell, unless it has given the world back. -/
def exiting (sh : Shell) (e : Exit) : Shell :=
  if sh.isPaused then sh else { sh with status := e.status, course := .exiting e }

/-- The end of a shell that has come to it. -/
def exit (sh : Shell) : Exit :=
  match sh.course with
  | .exiting e => e
  | _ => .code sh.status

/-- The rights that something new gets out of those asked for. -/
def allowed (sh : Shell) (rights : Nat) : Nat := rights - (rights &&& sh.mask)

/-- The rights that new files get. -/
def newRights (sh : Shell) : Nat := sh.allowed 438

/-! ### Variables -/

def find? (sh : Shell) (name : List Char) : Option Variable :=
  sh.bindings.find? fun v => v.name = name

def get? (sh : Shell) (name : List Char) : Option (List Char) :=
  (sh.find? name).bind Variable.value

/-- Puts a variable in its place among all, which is that of the one it replaces. -/
def put (sh : Shell) (v : Variable) : Shell :=
  if sh.bindings.any fun u => u.name = v.name then
    { sh with bindings := sh.bindings.map fun u => if u.name = v.name then v else u }
  else
    let (before, behind) := sh.bindings.span fun u => u.slot ≤ v.slot
    { sh with bindings := before ++ v :: behind }

/-- Gives a variable a value. Once exported it stays so. -/
def set (sh : Shell) (name value : List Char) : Shell :=
  let v := (sh.find? name).getD { name, value := none }
  sh.put { v with value := some value, isExported := v.isExported || sh.has .exportsAll }

def unset (sh : Shell) (name : List Char) : Shell :=
  { sh with bindings := sh.bindings.filter fun v => v.name ≠ name }

/-- What a variable is now, so that it can be put back. -/
def snapshot (sh : Shell) (name : List Char) : Variable :=
  (sh.find? name).getD { name, value := none }

/-- The variables that other programs see. -/
def environment (sh : Shell) : List (List Char × List Char) :=
  sh.bindings.filterMap fun v => if v.isExported then v.value.map (v.name, ·) else none

def separators (sh : Shell) : List Char := (sh.get? ['I', 'F', 'S']).getD [' ', '\t', '\n']

/-! ### Channels -/

def channel? (sh : Shell) (descriptor : Nat) : Option (Nat × Channel) := do
  let n ← sh.descriptors.lookup descriptor
  let c ← sh.channels[n]?
  return (n, c)

def setChannel (sh : Shell) (n : Nat) (c : Channel) : Shell :=
  { sh with channels := sh.channels.set n c }

/-- Lets a descriptor lead to a channel that there is. -/
def lead (sh : Shell) (descriptor channel : Nat) : Shell :=
  { sh with
    descriptors := (descriptor, channel) :: sh.descriptors.filter fun d => d.1 ≠ descriptor }

def close (sh : Shell) (descriptor : Nat) : Shell :=
  { sh with descriptors := sh.descriptors.filter fun d => d.1 ≠ descriptor }

/-- Lets a descriptor lead to a new channel. -/
def attach (sh : Shell) (descriptor : Nat) (c : Channel) : Shell :=
  { sh with channels := sh.channels ++ [c] }.lead descriptor sh.channels.length

/-- The channels that are open in this process or one that waits for it. -/
def opened (sh : Shell) : List Nat := sh.descriptors.map (·.2) ++ sh.saved ++ sh.held

/-- Keeps open what descriptors lead to, while they lead elsewhere. -/
def keeping (sh : Shell) (descriptors : List (Nat × Nat)) : Shell :=
  { sh with saved := descriptors.map (·.2) ++ sh.saved }

end Shell

end Crond.Script
