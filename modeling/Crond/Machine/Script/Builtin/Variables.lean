import Crond.Machine.Script.Builtin.Basic

/-
  The commands of a shell that look after its variables, parameters, switches and aliases.
-/

namespace Crond.Script

open Text

namespace Builtin

/-- The variables that are marked in a way, each as a command that marks it again. -/
def listMarked (sh : Shell) (command : String) (isMarked : Variable → Bool) : Shell :=
  let marked := (sh.bindings.filter isMarked).mergeSort fun a b => inOrder a.name b.name
  (marked.foldl (fun (sh : Shell) v =>
    let value := match v.value with
      | some cs => '=' :: singleQuoted cs
      | none => []
    sh.printLine (bytes command ++ ' ' :: v.name ++ value)) sh).withStatus 0

/-- Marks variables, and assigns to those whose arguments have values. -/
def markAll (command : String) (isMarked : Variable → Bool) (mark : Variable → Variable) :
    Builtin := withOptions "p" "" fun options sh args =>
  if args.isEmpty || !options.isEmpty then listMarked sh command isMarked
  else
    each (sh.withStatus 0) args fun sh arg =>
      let (name, value) := assignmentOf arg
      if !isName name then sh.fail (name ++ bytes ": bad variable name")
      else
        let sh := match value with
          | some cs => sh.assign name cs
          | none => sh
        if sh.goesOn then sh.put (mark (sh.snapshot name)) else sh

def exportVariables : Builtin :=
  markAll "export" Variable.isExported fun v => { v with isExported := true }

def fixVariables : Builtin :=
  markAll "readonly" Variable.isFixed fun v => { v with isFixed := true }

def unset : Builtin := withOptions "fv" "" fun options sh args =>
  let dropFunction (sh : Shell) (name : List Char) : Shell :=
    { sh with functions := sh.functions.filter fun f => f.1 ≠ name }
  let dropVariable (sh : Shell) (arg : List Char) : Shell :=
    let (name, _) := assignmentOf arg
    if !isName name then sh.fail (name ++ bytes ": bad variable name")
    else
      match sh.find? name with
      | some { isFixed := true, .. } => sh.fail (arg ++ bytes ": is read only")
      | some _ => sh.unset name
      | none => sh
  let isOfFunctions := options.getLast?.any fun o => o.1 = 'f'
  each (sh.withStatus 0) args (if isOfFunctions then dropFunction else dropVariable)

/-- Hides variables until the scope at work ends, or with a dash the switches. -/
def hideAll : Builtin := fun sh args =>
  if sh.scopes = 0 then sh.fail (bytes "not in a function")
  else
    each (sh.withStatus 0) args fun sh arg =>
      if arg = ['-'] then { sh with hidden := .switches sh.switches :: sh.hidden }
      else
        match assignmentOf arg with
        | (name, some cs) => (sh.hide name).assign name cs
        | (name, none) =>
          if (sh.find? name).isSome then sh.hide name
          else if isName name then (sh.hide name).put { name, value := none }
          else sh.fail (name ++ bytes ": bad variable name")

def shift : Builtin := fun sh args =>
  let dropping (n : Nat) : Shell :=
    if sh.parameters.length < n then sh.fail (bytes "can't shift that many")
    else
      { sh with
        parameters := sh.parameters.drop n
        optionIndex := 1
        optionOffset := none
        status := 0 }
  match args with
  | [] => dropping 1
  | n :: _ => withNumber sh n dropping

/-! ### Switches -/

/-- Does what an argument asks for. Nothing can be monitored where there is no
  terminal. -/
def turn (sh : Shell) (r : SwitchRequest) : Shell :=
  if !sh.goesOn then sh
  else
    match r with
    | .turn .monitorsJobs true => sh.complain (bytes "can't access tty; job control turned off")
    | .turn s isOn => { sh with switches := Switch.turned sh.switches s isOn }
    | .tell true =>
      printLines sh (bytes "Current option settings" :: Switch.table sh.switches)
    | .tell false => printLines sh (Switch.commands sh.switches)
    | .command => sh.fail (bytes "Illegal option -c")
    | .login => sh.fail (bytes "Illegal option -l")
    | r => sh.fail (r.fault?.getD [])

/-- The variables that have values, one a line. -/
def listVariables (sh : Shell) : Shell :=
  let vs := (sh.bindings.filter fun v => v.value.isSome).mergeSort fun a b => inOrder a.name b.name
  (vs.foldl (fun (sh : Shell) v =>
    sh.printLine (v.name ++ '=' :: singleQuoted (v.value.getD []))) sh).withStatus 0

def setAny : Builtin := fun sh args =>
  if args.isEmpty then listVariables sh
  else
    let (requests, parameters) := SwitchRequest.ofArguments (args.length + 1) args
    let sh := requests.foldl turn (sh.withStatus 0)
    match parameters with
    | some parameters => { sh with parameters, optionIndex := 1, optionOffset := none }
    | none => sh

/-! ### Aliases -/

def missing (sh : Shell) (command : String) (name : List Char) : Shell :=
  (sh.write 2 (bytes command ++ [':', ' '] ++ name ++ bytes " not found\n")).withStatus 1

def setAliases : Builtin := fun sh args =>
  let shown (a : List Char × List Char) : List Char := a.1 ++ '=' :: singleQuoted a.2
  match args with
  | [] => (sh.aliases.foldl (fun (sh : Shell) a => sh.printLine (shown a)) sh).withStatus 0
  | args =>
    args.foldl (fun (sh : Shell) arg =>
      let (rest, value?) := assignmentOf (arg.drop 1)
      match (arg.take 1 ++ rest, value?) with
      | (name, some value) =>
        { sh with aliases := sh.aliases.filter (fun a => a.1 ≠ name) ++ [(name, value)] }
      | (name, none) =>
        match sh.aliases.find? fun a => a.1 = name with
        | some a => sh.printLine (shown a)
        | none => missing sh "alias" name) (sh.withStatus 0)

def dropAliases : Builtin := withOptions "a" "" fun options sh args =>
  if !options.isEmpty then { sh with aliases := [], status := 0 }
  else
    args.foldl (fun (sh : Shell) name =>
      if sh.aliases.any fun a => a.1 = name then
        { sh with aliases := sh.aliases.filter fun a => a.1 ≠ name }
      else missing sh "unalias" name) (sh.withStatus 0)

end Builtin

end Crond.Script
