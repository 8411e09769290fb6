import Crond.Machine.Files.Rights
import Crond.Machine.Script.Regex
import Crond.Machine.Script.Utility.Listing

/-
  What can be asked of a file, and what can be done with it.

  A condition is made of tests and actions. The second part of two that both have to hold is asked
  for only if the first holds, and that of two of which one has to only if the first does not.
-/

namespace Crond.Script

open Text Files Calendar

namespace Finding

/-- A file that has been come upon. -/
structure Entry where
  /-- The path on which it has been found. -/
  path : Name
  place : Place
  item : Item
  /-- How far it is from where the search has begun. -/
  depth : Nat
  /-- Where the search has begun. -/
  start : Name

inductive Comparison where
  | equal
  | more
  | less
  deriving DecidableEq, Repr

/-- A number that others are compared with. -/
structure Amount where
  comparison : Comparison
  number : Nat
  deriving DecidableEq, Repr

def Amount.fits (a : Amount) (n : Nat) : Bool :=
  match a.comparison with
  | .equal => n = a.number
  | .more => a.number < n
  | .less => n < a.number

/-- How rights are compared with given ones. -/
inductive Share where
  | exactly
  | all
  | any
  deriving DecidableEq, Repr

/-- What a file is asked for. -/
inductive Test where
  | constant (answer : Bool)
  | name (foldsCase : Bool) (pattern : List Char)
  | path (foldsCase : Bool) (pattern : List Char)
  /-- What a link stands for. -/
  | target (foldsCase : Bool) (pattern : List Char)
  | regex (r : Regex)
  /-- The kind of a file, or of what a link leads to. -/
  | kind (isFollowed : Bool) (letters : List Char)
  | empty
  | size (a : Amount) (unit : Nat)
  /-- The age in whole days or in begun minutes, given as nanoseconds, at a moment. -/
  | days (a : Amount) (now : Int)
  | minutes (a : Amount) (now : Int)
  | newer (than : Int)
  | rights (s : Share) (bits : Nat)
  | owner (a : Amount)
  | links (a : Amount)
  | number (a : Amount)
  | same (number : Option Nat)
  /-- Whether it can be used, or run. -/
  | usable (asksRunning : Bool)
  deriving Repr

/-- A part of a report about a file. -/
inductive Piece where
  | text (cs : List Char)
  /-- A letter, behind another one for moments, and how its text is put into a field. -/
  | field (isLeft isFilled isMarked : Bool) (width : Nat) (most : Option Nat) (letter : Char)
      (of : Option Char)
  /-- What stands in front is told at once, and nothing behind it. -/
  | stop
  deriving Repr

/-- What is done with a file. -/
inductive Action where
  | prune
  | quit
  | delete
  | print (file : Option Name) (mark : Char)
  | report (file : Option Name) (pieces : List Piece)
  | list (file : Option Name)
  /-- A command is run with the file in it. -/
  | run (asks : Bool) (isInside : Bool) (words : List (List Char))
  /-- A command is run with many files at its end. The number tells such commands apart. -/
  | gather (isInside : Bool) (number : Nat) (words : List (List Char))
  deriving Repr

inductive Condition where
  | test (t : Test)
  | action (a : Action)
  | not (c : Condition)
  | both (c d : Condition)
  | either (c d : Condition)
  /-- The second one counts, whatever the first one is. -/
  | next (c d : Condition)
  deriving Repr

/-! ### Tests -/

/-- A pattern in which a circumflex excludes characters as an exclamation mark does. -/
def pattern (cs : List Char) : List Glob.Part :=
  let (read, _) := cs.foldl (fun (read, before) c =>
    (read ++ [if before = '[' && c = '^' then '!' else c], if before = '\\' then ' ' else c))
    (([] : List Char), ' ')
  Glob.parts (read.length + 1) read

def fitsPattern (foldsCase : Bool) (cs text : List Char) : Bool :=
  if foldsCase then Glob.fits (pattern (cs.map Char.toLower)) (text.map Char.toLower)
  else Glob.fits (pattern cs) text

/-- The last part of a path, with a slash behind it if the path ends in one. -/
def Entry.base (e : Entry) : Name :=
  let front := Tree.trimmed e.path
  if front = ['/'] then front
  else
    let last := (front.splitOn '/').getLastD []
    if e.path.getLast? = some '/' then last ++ ['/'] else last

/-- The letter for the kind of a file. -/
def letterOf (node : Node) : Char :=
  match node with
  | .file _ | .program => 'f'
  | node => Utility.kindLetter node

/-- What a file is as a link, or as what the link leads to, whichever it was not taken as. -/
def Entry.other (e : Entry) (sh : Shell) (followsLinks : Bool) : Option Node :=
  let plain := sh.files.node? e.place
  if followsLinks then plain
  else
    match plain with
    | some (.link target) => (sh.files.find e.place.dropLast target).toOption
    | _ => plain

def Entry.links (e : Entry) (sh : Shell) : Nat :=
  Utility.linkCount sh { name := e.path, place := e.place, item := e.item }

/-- Whether an age is as an amount says, all in nanoseconds. A begun unit counts as none, or as a
  whole one. -/
def ageFits (a : Amount) (unit : Int) (countsBegun : Bool) (age : Int) : Bool :=
  let bound : Int := a.number
  match a.comparison with
  | .equal =>
    if countsBegun then bound - unit ≤ age && age < bound else bound ≤ age && age < bound + unit
  | .more => if countsBegun then bound < age else bound + unit < age
  | .less => if countsBegun then age < bound else age < bound + nanosPerSecond

/-- Whether a file is as a test wants it. -/
def Test.holds (sh : Shell) (followsLinks : Bool) (e : Entry) (t : Test) : Bool :=
  match t with
  | .constant answer => answer
  | .name foldsCase p => fitsPattern foldsCase p (Tree.trimmed e.base)
  | .path foldsCase p => fitsPattern foldsCase p e.path
  | .target foldsCase p =>
    match e.item.node with
    | .link way => fitsPattern foldsCase p way
    | _ => false
  | .regex r =>
    (Regex.sequence (.edge .start) (.sequence r (.edge .finish))).isIn e.path
  | .kind false letters => letters.contains (letterOf e.item.node)
  | .kind true letters =>
    letters.contains (letterOf ((e.other sh followsLinks).getD e.item.node))
  | .empty =>
    match e.item.node with
    | .directory => (sh.files.names e.place).isEmpty
    | .file cs => cs.isEmpty
    | _ => false
  | .size a unit => a.fits (Utility.begun (Utility.sizeOf e.item) unit)
  | .days a now => ageFits a (86400 * nanosPerSecond) false (now - e.item.modified)
  | .minutes a now => ageFits a (60 * nanosPerSecond) true (now - e.item.modified)
  | .newer than => than < e.item.modified
  | .rights s bits =>
    match s with
    | .exactly => e.item.rights = bits
    | .all => e.item.rights &&& bits = bits
    | .any => bits = 0 || e.item.rights &&& bits ≠ 0
  | .owner a => a.fits 0
  | .links a => a.fits (e.links sh)
  | .number a => a.fits ((sh.files.number? e.place).getD 0)
  | .same n => sh.files.number? e.place = n
  | .usable asksRunning =>
    match sh.files.findItem e.place.dropLast (e.place.getLastD ['.']) with
    | .ok item => !asksRunning || item.node = .directory || item.isExecutable
    | .error _ => false

end Finding

end Crond.Script
