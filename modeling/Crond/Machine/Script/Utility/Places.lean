import Crond.Machine.Script.Utility.Basic

/-
  What the programs that look after files have in common: what is at a name, and questions that are
  answered by whoever is there to read from.
-/

namespace Crond.Script

open Text Files

namespace Utility

/-- A name in a directory. -/
def within (directory : Name) (way : Place) : Name :=
  let front := if directory.getLast? = some '/' then directory.dropLast else directory
  ['/'].intercalate (front :: way)

/-- The place that a name means and what is there. The way to it must exist. -/
def lookAs (followsLast : Bool) (sh : Shell) (name : Name) :
    Except PathFault (Place × Option Item) := do
  let p ← sh.files.resolveAs followsLast sh.directory name
  match sh.files.node? p.dropLast with
  | some .directory => return (p, sh.files.item? p)
  | some _ => .error .notDirectory
  | none => .error .missing

/-- What a name leads to. -/
def look (sh : Shell) (name : Name) : Except PathFault (Place × Option Item) :=
  lookAs true sh name

/-- What is at a name, which can be a link. -/
def lookAt (sh : Shell) (name : Name) : Except PathFault (Place × Option Item) :=
  lookAs false sh name

/-- The same where something must be there. -/
def present (r : Except PathFault (Place × Option Item)) : Except PathFault (Place × Item) := do
  match ← r with
  | (p, some item) => return (p, item)
  | (_, none) => .error .missing

/-- What is at a name that is to be taken away. A link is no directory, whatever it stands for. -/
def lookToRemove (sh : Shell) (name : Name) : Except PathFault (Place × Item) :=
  match present (lookAt sh (Tree.trimmed name)) with
  | .ok (p, ⟨.link target, rights, modified⟩) =>
    if name.getLast? = some '/' then .error .notDirectory
    else .ok (p, ⟨.link target, rights, modified⟩)
  | _ => present (lookAt sh name)

/-- Whether a name leads to a directory. -/
def isDirectoryAt (sh : Shell) (name : Name) : Bool :=
  match look sh name with
  | .ok (_, some item) => item.node = .directory
  | _ => false

def withFiles (sh : Shell) (t : Tree) : Shell := { sh with files := t }

/-- What a program calls something. -/
def kindOf (node : Node) : String :=
  match node with
  | .directory => "directory"
  | .file [] => "regular empty file"
  | .file _ | .program => "regular file"
  | .device _ => "character special file"
  | .link _ => "symbolic link"
  | .pipe _ => "fifo"

/-- Reads a line, which the last one need not be. -/
def askedLine (sh : Shell) : List Char × Shell :=
  let sh := Shell.fetch (fun cs => cs.contains '\n') 0 Shell.waits sh
  let line := (sh.unread 0).takeWhile (· ≠ '\n')
  (line, sh.consume 0 (line.length + 1))

/-- Asks a question. The answer counts as yes if it begins so. -/
def agrees (sh : Shell) (program : String) (question : List Char) : Bool × Shell :=
  let asked := sh.write 2 (ownName sh program ++ [':', ' '] ++ question ++ bytes "? ")
  let (line, sh) := askedLine asked
  (line.head? = some 'y' || line.head? = some 'Y', sh)

end Utility

end Crond.Script
