import Crond.Machine.Script.Expansion

/-
  Redirections: descriptors that lead elsewhere while a command runs.
-/

namespace Crond.Script

open Text Files

/-- Why a file cannot be opened, in the words of a shell. -/
def openFault (path : Name) (isCreated : Bool) (f : PathFault) : List Char :=
  let why :=
    match f with
    | .missing | .notDirectory => if isCreated then "Directory nonexistent" else "No such file"
    | f => f.text
  bytes (if isCreated then "cannot create " else "cannot open ") ++ path ++ bytes (": " ++ why)

namespace Shell

/-- Lets a descriptor lead to a file that is read, or read and written. -/
def openInput (sh : Shell) (descriptor : Nat) (path : Name) (access : Access) :
    Except PathFault Shell := do
  let p ← sh.files.resolve sh.directory path
  match sh.files.number? p, sh.files.node? p with
  | some n, some (.file _) => return sh.attach descriptor (.file n 0 access)
  | _, some (.device .terminal) => .error .noDevice
  | _, some (.device .zero) | _, some (.device .full) =>
    return sh.attach descriptor (.supply endless)
  | _, some (.pipe _) => return sh.openPipe descriptor p true
  | _, some _ => return sh.attach descriptor .null
  | _, none => .error .missing

/-- Lets a descriptor lead to a file that is written, which is begun if it is not there. -/
def openOutput (sh : Shell) (descriptor : Nat) (path : Name) (access : Access) :
    Except PathFault Shell := do
  let p ← sh.files.placeOfNew sh.directory path
  let lead (files : Tree) : Shell :=
    { sh with files }.attach descriptor (.file ((files.number? p).getD 0) 0 access)
  match sh.files.number? p, sh.files.node? p with
  | _, some .directory => .error .isDirectory
  | _, some .program => .error .denied
  | _, some (.device .terminal) => .error .noDevice
  | _, some (.device .full) => return sh.attach descriptor .full
  | _, some (.device _) => return sh.attach descriptor .null
  | _, some (.pipe _) => return sh.openPipe descriptor p false
  | some n, some _ => return lead (if access = .appending then sh.files else sh.files.refill n [])
  | _, _ => return lead (sh.files.write p [] sh.newRights)

/-- Lets a descriptor lead to a file. The flag tells whether it could be opened. -/
def openFile (sh : Shell) (descriptor : Nat) (flow : Flow) (path : Name) : Shell × Bool :=
  match deviceDescriptor? path with
  | some d =>
    match sh.descriptors.lookup d with
    | some n => (sh.lead descriptor n, true)
    | none => (sh.complain (openFault path false .missing), false)
  | none =>
    match flow with
    | .input =>
      match sh.openInput descriptor path .reading with
      | .ok sh => (sh, sh.goesOn)
      | .error f => (sh.complain (openFault path false f), false)
    | flow =>
      let isThere := (sh.files.find sh.directory path).toOption.any fun n =>
        match n with
        | .file _ => true
        | _ => false
      if flow = .output && sh.has .keepsFiles && isThere then
        (sh.complain (bytes "cannot create " ++ path ++ bytes ": File exists"), false)
      else if flow = .both && isThere then
        match sh.openInput descriptor path .updating with
        | .ok sh => (sh, sh.goesOn)
        | .error f => (sh.complain (openFault path false f), false)
      else
        let access : Access :=
          if flow = .append then .appending else if flow = .both then .updating else .writing
        match sh.openOutput descriptor path access with
        | .ok sh => (sh, sh.goesOn)
        | .error f => (sh.complain (openFault path true f), false)

/-- Lets a descriptor lead where another one leads, or closes it. -/
def copyDescriptor (sh : Shell) (descriptor : Nat) (target : List Char) : Shell × Bool :=
  if target = ['-'] then (sh.close descriptor, true)
  else
    match target with
    | [d] =>
      match digit? d with
      | some n =>
        match sh.descriptors.lookup n with
        | some channel => (sh.lead descriptor channel, true)
        | none => (sh.complain (d :: bytes ": Bad file descriptor"), false)
      | none => (sh, false)
    | _ => (sh, false)

/-- The target of a redirection. A document is worked out only when its turn comes. -/
def targetOf (run : Runner) (sh : Shell) (r : Redirection) : List Char × Shell :=
  match r.flow with
  | .document _ => ([], sh)
  | flow =>
    let (target, sh) := sh.expandWhole run r.target
    let isDescriptor := target = ['-'] || (target.length = 1 && target.all Char.isDigit)
    if sh.goesOn && (flow = .copyInput || flow = .copyOutput) && !isDescriptor then
      (target, { sh with line := sh.reach }.fail (bytes "Syntax error: Bad fd number"))
    else (target, sh)

/-- The targets of redirections. -/
def targetsOf (run : Runner) (sh : Shell) : List Redirection → List (List Char) × Shell
  | [] => ([], sh)
  | r :: rs =>
    let (target, sh) := sh.targetOf run r
    if sh.goesOn then
      let (targets, sh) := sh.targetsOf run rs
      (target :: targets, sh)
    else ([], sh)

/-- Carries out a redirection. The flag tells whether it could be done. -/
def redirect (run : Runner) (sh : Shell) (r : Redirection) (target : List Char) : Shell × Bool :=
  match r.flow with
  | .document _ =>
    let (as, sh) := wordAtoms run { homes := .nowhere } sh r.target
    if sh.goesOn then (sh.attach r.descriptor (.supply (Atom.text as)), true)
    else if sh.course = .failed then ({ sh with course := .onward }, false)
    else (sh, false)
  | flow =>
    if flow = .copyInput || flow = .copyOutput then sh.copyDescriptor r.descriptor target
    else sh.openFile r.descriptor flow target

/-- Carries out redirections up to the first that cannot be done, when all their targets are
  known. -/
def redirectAll (run : Runner) (sh : Shell) (rs : List Redirection) : Shell × Bool :=
  let (targets, sh) := sh.targetsOf run rs
  (rs.zip targets).foldl (fun (sh, isDone) (r, target) =>
    if isDone then sh.redirect run r target else (sh, false)) (sh, sh.goesOn)

/-- Lets the descriptors of redirections lead where they did before. Others stay. -/
def undo (sh : Shell) (rs : List Redirection) (before : List (Nat × Nat)) : Shell :=
  rs.foldl (fun (sh : Shell) r =>
    match before.lookup r.descriptor with
    | some channel => sh.lead r.descriptor channel
    | none => sh.close r.descriptor) sh

end Shell

end Crond.Script
