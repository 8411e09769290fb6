import Crond.Machine.Script.Builtin.Basic

/-
  The commands of a shell that know its directory.

  A shell goes by the path on which it has come to its directory: a pair of dots takes off what was
  added last, whether there is such a directory or not.
-/

namespace Crond.Script

open Text Files

namespace Builtin

/-- Takes a path back by one part, down to a number of characters. -/
def backUp (least : Nat) (path : List Char) : List Char :=
  let rest := (path.dropLast.reverse.dropWhile (· ≠ '/')).reverse
  if path.length ≤ least then path else if rest.length < least then path.take least else rest

/-- The path that leads on from another one. Two slashes in front are kept, and no more. -/
def pathFrom (here path : List Char) : List Char :=
  let base := match path with
    | '/' :: '/' :: c :: _ => if c = '/' then ['/'] else ['/', '/']
    | ['/', '/'] => ['/', '/']
    | '/' :: _ => ['/']
    | _ => if here.getLast? = some '/' then here else here ++ ['/']
  let least := match base with
    | '/' :: '/' :: _ => 2
    | _ => 1
  let parts := (path.splitOn '/').filter fun p => p ≠ [] && p ≠ ['.']
  let whole := parts.foldl (fun cs part =>
    if part = ['.', '.'] then backUp least cs else cs ++ part ++ ['/']) base
  if least < whole.length then whole.dropLast else whole

/-- Goes to the directory on a path, if there is one. -/
def enter? (sh : Shell) (isPhysical : Bool) (path : List Char) : Option Shell :=
  let goal := if isPhysical then path else pathFrom sh.workingPath path
  match sh.files.resolve sh.directory goal with
  | .error _ => none
  | .ok p =>
    if sh.files.node? p ≠ some .directory then none
    else
      let workingPath := if isPhysical then pathOf p else goal
      let exported (sh : Shell) (name : String) (value : List Char) : Shell :=
        sh.put { name := bytes name, value := some value, isExported := true }
      let moved := { sh with directory := p, workingPath }
      some (exported (exported moved "OLDPWD" sh.workingPath) "PWD" workingPath)

/-- Where a directory is looked for: in the directories that are listed for that, unless its path
  begins with a slash or with a part that is one or two dots. The flag tells whether the path is
  shown. -/
def goals (sh : Shell) (goal : List Char) : List (List Char × Bool) :=
  let isFixed := match goal with
    | '/' :: _ | ['.'] | '.' :: '/' :: _ | ['.', '.'] | '.' :: '.' :: '/' :: _ => true
    | _ => false
  match isFixed, sh.get? (bytes "CDPATH") with
  | false, some listed =>
    (searchDirectories listed).map fun d => (inDirectory d goal, !d.isEmpty)
  | _, _ => []

def isPhysical (options : List (Char × List Char)) : Bool :=
  options.getLast?.any fun o => o.1 = 'P'

def cd : Builtin := withOptions "LP" "" fun options sh args =>
  let (given, isBack) : List Char × Bool := match args with
    | [] => ((sh.get? (bytes "HOME")).getD [], false)
    | ['-'] :: _ => ((sh.get? (bytes "OLDPWD")).getD [], true)
    | a :: _ => (a, false)
  let goal := if given.isEmpty then ['.'] else given
  let isDirectory (path : List Char) : Bool :=
    (sh.files.find sh.directory path).toOption = some .directory
  let (path, isShown) :=
    ((goals sh (if given.isEmpty then [] else goal)).find? fun g => isDirectory g.1).getD
      (goal, false)
  match enter? sh (isPhysical options) path with
  | some sh =>
    (if isShown || isBack then sh.printLine sh.workingPath else sh).withStatus 0
  | none => sh.fail (bytes "can't cd to " ++ goal)

def pwd : Builtin := withOptions "LP" "" fun options sh _ =>
  let path := if isPhysical options then pathOf sh.directory else sh.workingPath
  (sh.printLine path).withStatus 0

end Builtin

end Crond.Script
