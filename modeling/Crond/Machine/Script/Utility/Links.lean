import Crond.Machine.Script.Utility.Copying

/-
  The programs `ln` and `link`, which give files further names, or make links that stand for paths.
-/

namespace Crond.Script

open Text Files

namespace Utility

/-- How names are linked. -/
structure Linking where
  isSoft : Bool := false
  isRelative : Bool := false
  consent : Consent := .refused
  tells : Bool := false
  followsGoal : Bool := true
  /-- Whether a link that is given a further name is followed. -/
  followsSource : Bool := false
  backup? : Option Backup := none

def lnTable : OptionTable where
  letters := "bdfFinrst:vLPS:T"
  names := [("backup", "::"), ("directory", "d"), ("no-dereference", "n"),
    ("no-target-directory", "T"), ("interactive", "i"), ("suffix", "S:"),
    ("target-directory", "t:"), ("logical", "L"), ("physical", "P"), ("relative", "r"),
    ("symbolic", "s"), ("force", "f"), ("verbose", "v")]

def Linking.apply (l : Linking) (o : GivenOption) : Linking :=
  match o.key with
  | "f" => { l with consent := .given }
  | "i" => { l with consent := .asked }
  | "L" => { l with followsSource := true }
  | "n" => { l with followsGoal := false }
  | "P" => { l with followsSource := false }
  | "r" => { l with isRelative := true }
  | "s" => { l with isSoft := true }
  | "v" => { l with tells := true }
  | _ => l

/-- A target as it is written from the directory of a link. -/
def Linking.target (l : Linking) (sh : Shell) (source : Name) (q : Place) : Name :=
  if !l.isRelative then source
  else
    match followed sh .nothing source with
    | .ok p => relativePath q.dropLast p
    | .error _ => source

/-- Links a name to a source. -/
def Linking.run (l : Linking) (sh : Shell) (source goal : Name) : Shell :=
  let cannot (f : PathFault) : Shell :=
    let what :=
      if l.isSoft then bytes "failed to create symbolic link " ++ inQuotes goal
      else bytes "failed to create hard link " ++ inQuotes goal ++
        (if f = .present then [] else bytes " => " ++ inQuotes source)
    complain sh "ln" (what ++ bytes (": " ++ f.text)) 1
  let found := if l.isSoft then .ok none else
    (present (lookAs l.followsSource sh source)).map some
  match found with
  | .error f => complain sh "ln" (quotedFault "failed to access" source f) 1
  | .ok source? =>
    if source?.any fun s => s.2.node = .directory then
      complain sh "ln" (shownName source ++ bytes ": hard link not allowed for directory") 1
    else
      match lookAt sh goal with
      | .error f => cannot f
      | .ok (q, there?) =>
        let isTold := l.consent ≠ .refused || l.backup?.isSome
        let isSame := source?.any fun s => sh.files.number? s.1 = sh.files.number? q
        if isTold && there?.any fun t => t.node = .directory then
          complain sh "ln" (shownName goal ++ bytes ": cannot overwrite directory") 1
        else if isTold && isSame && source?.any fun s => s.1 = q then
          complain sh "ln" (inQuotes source ++ bytes " and " ++ inQuotes goal ++
            bytes " are the same file") 1
        else if there?.isSome && !isTold then cannot .present
        else
          let (agreed, sh) := if there?.isSome && l.consent = .asked then
              agrees sh "ln" (bytes "replace " ++ inQuotes goal)
            else (true, sh)
          if !agreed then sh.withStatus 1
          else
            let (sh, kept) := match l.backup?, there? with
              | some b, some _ =>
                let (sh, name) := b.run sh goal q
                (sh, some name)
              | _, _ => (sh, none)
            let written := l.target sh source q
            let linked := match source? with
              | some (p, _) => withFiles sh (sh.files.join p q)
              | none => withFiles sh ((sh.files.erase q).put q (.link written) 511)
            if l.tells then
              let mark := if l.isSoft then " -> " else " => "
              let front := match kept with
                | some name => inQuotes name ++ bytes " ~ "
                | none => []
              linked.printLine (front ++ inQuotes goal ++ bytes mark ++ inQuotes written)
            else linked

/-- Whether a name is a directory to put links in. -/
def Linking.isGoal (l : Linking) (sh : Shell) (name : Name) : Bool :=
  match lookAs l.followsGoal sh name with
  | .ok (_, some item) => item.node = .directory
  | _ => false

def makeLinks : Builtin := withOptions "ln" 1 lnTable (backupFault? · "ln") fun os sh names =>
  let l := { os.foldl Linking.apply {} with backup? := backupOf os }
  let into (sh : Shell) (directory : Name) (sources : List Name) : Shell :=
    forAll sh sources fun sh source => l.run sh source (Transfer.nameIn directory source)
  if l.isRelative && !l.isSoft then
    complain sh "ln" (bytes "cannot do --relative without --symbolic") 1
  else
    match lastValue? os "t", names.reverse with
    | _, [] => missingOperand sh "ln" (bytes "file operand")
    | some directory, _ =>
      match present (look sh directory) with
      | .error f => complain sh "ln" (quotedFault "target directory" directory f) 1
      | .ok (_, item) =>
        if item.node = .directory then into sh directory names
        else complain sh "ln" (quotedFault "target directory" directory .notDirectory) 1
    | none, [name] =>
      if givenIn os "T" then
        missingOperand sh "ln" (bytes "destination file operand after " ++ inQuotes name)
      else into sh ['.'] [name]
    | none, goal :: rest =>
      let sources := rest.reverse
      if givenIn os "T" then
        match sources with
        | [source] => l.run (sh.withStatus 0) source goal
        | _ => extraOperand sh "ln" (names.getD 2 []) 1
      else if l.isGoal sh goal then into sh goal sources
      else
        match sources with
        | [source] => l.run (sh.withStatus 0) source goal
        | _ =>
          let f := match present (look sh goal) with
            | .error f => f
            | .ok _ => .notDirectory
          complain sh "ln" (quotedFault "target" goal f) 1

def linkTable : OptionTable where
  letters := ""
  names := []

/-- The program `link`, which gives a file one more name. -/
def makeLink : Builtin := withOptions "link" 1 linkTable faultless fun _ sh names =>
  match names with
  | [] => missingOperand sh "link" (bytes "operand")
  | [name] => missingOperand sh "link" (bytes "operand after " ++ inQuotes name)
  | [source, goal] =>
    let cannot (f : PathFault) : Shell :=
      complain sh "link" (bytes "cannot create link " ++ inQuotes goal ++
        quotedFault " to" source f) 1
    match present (lookAt sh source), lookAt sh goal with
    | .error f, _ | _, .error f => cannot f
    | .ok (p, item), .ok (q, there?) =>
      if there?.isSome then cannot .present
      else if item.node = .directory then cannot .notPermitted
      else (withFiles sh (sh.files.join p q)).withStatus 0
  | _ :: _ :: operand :: _ => extraOperand sh "link" operand 1

end Utility

end Crond.Script
