import Crond.Machine.Script.Utility.Places

/-
  The programs `rm`, `rmdir` and `unlink`, which take names away.
-/

namespace Crond.Script

open Text Files

namespace Utility

/-! ### Directories -/

def rmdirTable : OptionTable where
  letters := "pv"
  names := [("ignore-fail-on-non-empty", ""), ("parents", "p"), ("verbose", "v")]

/-- Takes an empty directory away. -/
def emptied (sh : Shell) (name : Name) : Except PathFault Shell := do
  match ← lookToRemove sh name with
  | (p, ⟨.directory, _, _⟩) =>
    if (name.reverse.takeWhile (· ≠ '/')) = ['.'] then .error .invalid
    else if (sh.files.names p).isEmpty && p ≠ [] then return withFiles sh (sh.files.erase p)
    else .error .notEmpty
  | _ => .error .notDirectory

/-- The names in front of a name, the longest first. The number bounds them. -/
def frontNames : Nat → Name → List Name
  | 0, _ => []
  | n + 1, name =>
    let front := ((Tree.trimmed name).reverse.dropWhile (· ≠ '/')).dropWhile (· = '/')
    if front.isEmpty then [] else front.reverse :: frontNames n front.reverse

def removeDirectory : Builtin := withOptions "rmdir" 1 rmdirTable faultless fun os sh names =>
  let removed (isGiven : Bool) (sh : Shell) (name : Name) : Shell × Bool :=
    let sh := if givenIn os "v" then
        sh.printLine (ownName sh "rmdir" ++ bytes ": removing directory, " ++ inQuotes name)
      else sh
    match emptied sh name with
    | .ok sh => (sh, true)
    | .error f =>
      if f = .notEmpty && givenIn os "ignore-fail-on-non-empty" then (sh, false)
      else
        let what := if isGiven then "failed to remove" else "failed to remove directory"
        (complain sh "rmdir" (quotedFault what name f) 1, false)
  if names.isEmpty then missingOperand sh "rmdir" (bytes "operand")
  else forAll sh names fun sh name =>
    let (sh, isGone) := removed true sh name
    if isGone && givenIn os "p" then
      ((frontNames name.length name).foldl (fun (sh, goesOn) front =>
        if goesOn then removed false sh front else (sh, false)) (sh, true)).1
    else sh

/-! ### All files -/

/-- When a program asks before it removes something. -/
inductive Caution where
  | never
  | once
  | always
  deriving DecidableEq, Repr

structure Removal where
  caution : Caution := .never
  /-- Whether it does not matter if something is not there. -/
  isForced : Bool := false
  isDeep : Bool := false
  takesEmpty : Bool := false
  tells : Bool := false
  keepsRoot : Bool := true

def rmTable : OptionTable where
  letters := "dfiIrRv"
  names := [("force", "f"), ("interactive", "::"), ("no-preserve-root", ""),
    ("one-file-system", ""), ("preserve-root", "::"), ("recursive", "r"), ("dir", "d"),
    ("verbose", "v")]

def cautions : List (List String) := [["never", "no", "none"], ["once"], ["always", "yes"]]

def Removal.apply (r : Removal) (o : GivenOption) : Removal :=
  match o.key with
  | "f" => { r with isForced := true, caution := .never }
  | "i" => { r with isForced := false, caution := .always }
  | "I" => { r with isForced := false, caution := .once }
  | "interactive" =>
    match (o.value.getD (bytes "always")) |> choice? cautions with
    | some "never" => { r with caution := .never }
    | some "once" => { r with isForced := false, caution := .once }
    | _ => { r with isForced := false, caution := .always }
  | "r" | "R" => { r with isDeep := true }
  | "d" => { r with takesEmpty := true }
  | "v" => { r with tells := true }
  | "no-preserve-root" => { r with keepsRoot := false }
  | _ => r

/-- Takes a name away that is no directory, or an empty one, after a question if that is asked for.
  The flag tells whether it is gone. -/
def Removal.one (r : Removal) (sh : Shell) (name : Name) (p : Place) (node : Node) :
    Shell × Bool :=
  let (agreed, sh) := if r.caution = .always then
      agrees sh "rm" (bytes ("remove " ++ kindOf node ++ " ") ++ inQuotes name)
    else (true, sh)
  if !agreed then (sh, false)
  else
    let gone := withFiles sh (sh.files.erase p)
    let what := if node = .directory then "removed directory " else "removed "
    (if r.tells then gone.printLine (bytes what ++ inQuotes name) else gone, true)

/-- Takes away all below a directory and then the directory itself. The number bounds the depth. -/
def Removal.all (r : Removal) : Nat → Shell → Name → Place → Node → Shell × Bool
  | 0, sh, _, _, _ => (sh, false)
  | n + 1, sh, name, p, node =>
    if node ≠ .directory then r.one sh name p node
    else
      let inside := sh.files.names p
      let (enters, sh) := if r.caution = .always && !inside.isEmpty then
          agrees sh "rm" (bytes "descend into directory " ++ inQuotes name)
        else (true, sh)
      if !enters then (sh, false)
      else
        let (sh, isEmpty) := inside.foldl (fun (sh, isEmpty) part =>
          match sh.files.node? (p ++ [part]) with
          | some inner =>
            let (sh, isGone) := r.all n sh (within name [part]) (p ++ [part]) inner
            (sh, isEmpty && isGone)
          | none => (sh, isEmpty)) (sh, true)
        if isEmpty && sh.goesOn then r.one sh name p .directory else (sh, false)

/-- Removes what a name stands for. -/
def Removal.run (r : Removal) (sh : Shell) (name : Name) : Shell :=
  let fail (f : PathFault) : Shell := complain sh "rm" (quotedFault "cannot remove" name f) 1
  let last := ((Tree.trimmed name).reverse.takeWhile (· ≠ '/')).reverse
  match lookToRemove sh name with
  | .error f =>
    if r.isForced && (f = .missing || f = .notDirectory) then sh else fail f
  | .ok (p, item) =>
    if item.node ≠ .directory then (r.one sh name p item.node).1
    else if !r.isDeep then
      if !r.takesEmpty then fail .isDirectory
      else if (sh.files.names p).isEmpty then (r.one sh name p item.node).1
      else fail .notEmpty
    else if last = ['.'] || last = ['.', '.'] then
      complain sh "rm" (bytes "refusing to remove '.' or '..' directory: skipping " ++
        inQuotes name) 1
    else if p = [] && r.keepsRoot then
      let same := if name = ['/'] then [] else bytes " (same as '/')"
      let told := complain sh "rm"
        (bytes "it is dangerous to operate recursively on " ++ inQuotes name ++ same) 1
      complain told "rm" (bytes "use --no-preserve-root to override this failsafe") 1
    else (r.all (sh.files.entries.length + 1) sh name p item.node).1

def remove : Builtin :=
  let fault? (sh : Shell) (o : GivenOption) : Option (List Char) :=
    match o.key, o.value with
    | "interactive", some value => badChoice? sh "rm" "interactive" value cautions
    | _, _ => none
  withOptions "rm" 1 rmTable fault? fun os sh names =>
    let r := os.foldl Removal.apply {}
    if names.isEmpty then
      if r.isForced then sh.withStatus 0 else missingOperand sh "rm" (bytes "operand")
    else
      let number := numeral names.length ++
        bytes (if names.length = 1 then " argument" else " arguments")
      let (agreed, sh) :=
        if r.caution = .once && (r.isDeep || 3 < names.length) then
          agrees sh "rm" (bytes "remove " ++ number ++
            if r.isDeep then bytes " recursively" else [])
        else (true, sh)
      if agreed then forAll sh names r.run else sh.withStatus 0

def unlinkTable : OptionTable where
  letters := ""
  names := []

/-- The program `unlink`, which takes one name away and asks nothing. -/
def unlink : Builtin := withOptions "unlink" 1 unlinkTable faultless fun _ sh names =>
  match names with
  | [] => missingOperand sh "unlink" (bytes "operand")
  | [name] =>
    let fail (f : PathFault) : Shell := complain sh "unlink" (quotedFault "cannot unlink" name f) 1
    match lookToRemove sh name with
    | .error f => fail f
    | .ok (p, item) =>
      if item.node = .directory then fail .isDirectory
      else (withFiles sh (sh.files.erase p)).withStatus 0
  | _ :: operand :: _ => extraOperand sh "unlink" operand 1

end Utility

end Crond.Script
