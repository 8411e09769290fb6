import Crond.Machine.Script.Utility.Basic

/-
  The program `tee`: what there is to read goes to several files at once.
-/

namespace Crond.Script

open Text Files

namespace Utility

def teeTable : OptionTable where
  letters := "aip"
  names := [("append", "a"), ("ignore-interrupts", "i"), ("output-error", "::")]

def teeKinds : List (List String) :=
  [["warn"], ["warn-nopipe"], ["exit"], ["exit-nopipe"]]

/-- Where a program writes to: a descriptor, and the name that messages call it. -/
abbrev Outlet := Nat × Name

/-- Opens files, and gives those that could be opened. -/
def openAll (access : Access) (sh : Shell) (names : List Name) : Shell × List Outlet :=
  names.zipIdx.foldl (fun (sh, outlets) (name, n) =>
    let d := ownDescriptor + n
    let opened : Except PathFault Shell := match deviceDescriptor? name with
      | some known =>
        match sh.descriptors.lookup known with
        | some channel => .ok (sh.lead d channel)
        | none => .error .missing
      | none => sh.openOutput d name access
    match opened with
    | .ok sh => (sh, outlets ++ [(d, name)])
    | .error f => (complain sh "tee" (plainFault name f) 1, outlets)) (sh, [])

/-- Writes a piece to every outlet. Those that it cannot be written to are left out from then on. -/
def spread (sh : Shell) (outlets : List Outlet) (piece : List Char) : Shell × List Outlet :=
  outlets.foldl (fun (sh, kept) (d, name) =>
    match (sh.writeFault? d).filter fun _ => !sh.endsAtPipe d with
    | none => (sh.write d piece, kept ++ [(d, name)])
    | some f => (complain sh "tee" (plainFault name f) 1, kept)) (sh, [])

def tee : Builtin :=
  let fault? (sh : Shell) (o : GivenOption) : Option (List Char) :=
    match o.key, o.value with
    | "output-error", some value => badChoice? sh "tee" "output-error" value teeKinds
    | _, _ => none
  withOptions "tee" 1 teeTable fault? fun os sh names =>
    let access : Access := if givenIn os "a" then .appending else .writing
    let (sh, outlets) := openAll access (sh.withStatus 0) names
    let isReadable := sh.isReadable 0
    let (sh, _) := Shell.drain spread 0 Shell.waits sh ((1, bytes "standard output") :: outlets)
    if isReadable then sh
    else complain sh "tee" (bytes "read error: Bad file descriptor") 1

end Utility

end Crond.Script
