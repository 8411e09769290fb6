import Crond.Machine.Script.Utility.Paths
import Crond.Machine.Script.Utility.Places

/-
  The programs `cp` and `mv`: files are copied, or moved to other names.

  What is copied takes the place of what is there, unless that is newer or somebody says no. A
  directory takes the place of nothing but a directory. What is there can be kept under a further
  name.
-/

namespace Crond.Script

open Text Files

namespace Utility

/-! ### Further names -/

/-- How further names are made. -/
inductive Numbering where
  | never
  | always
  /-- If there are numbers already. -/
  | continued
  deriving DecidableEq, Repr

/-- Further names for what is replaced. -/
structure Backup where
  numbering : Numbering := .continued
  ending : List Char := ['~']
  deriving DecidableEq, Repr

def backupKinds : List (List String) :=
  [["none", "off"], ["simple", "never"], ["existing", "nil"], ["numbered", "t"]]

/-- The further names that options ask for, if they do. -/
def backupOf (os : List GivenOption) : Option Backup :=
  let ending := ((lastValue? os "S").filter (· ≠ [])).getD ['~']
  let asked := os.filter fun o => o.key = "b" || o.key = "backup" || o.key = "S"
  asked.getLast?.bind fun _ =>
    match ((os.filter fun o => o.key = "backup").getLast?.bind GivenOption.value).bind
        (choice? backupKinds) with
    | some "none" => none
    | some "simple" => some ⟨.never, ending⟩
    | some "numbered" => some ⟨.always, ending⟩
    | _ => some ⟨.continued, ending⟩

/-- What is wrong with the kind of further names. -/
def backupFault? (sh : Shell) (program : String) (o : GivenOption) : Option (List Char) :=
  match o.key, o.value with
  | "backup", some value =>
    if (choice? backupKinds value).isSome then none
    else
      (badChoice? sh program "backup" value backupKinds).map fun _ =>
        let line (names : List String) : List Char :=
          bytes "\n  - " ++ [',', ' '].intercalate (names.map fun n => bytes ("'" ++ n ++ "'"))
        bytes "invalid argument " ++ inEscapes value ++
          bytes " for 'backup type'\nValid arguments are:" ++ backupKinds.flatMap line ++
          hint sh program
  | _, _ => none

/-- The number in a further name of a file. -/
def backupNumber? (name other : Name) : Option Nat := do
  let rest ← (name ++ bytes ".~").isPrefixOf? other
  if rest.getLast? = some '~' then Builtin.natural? rest.dropLast else none

/-- The further name of a file in a directory. -/
def Backup.name (b : Backup) (name : Name) (others : List Name) : Name :=
  let most := (others.filterMap (backupNumber? name)).foldl max 0
  let isNumbered := match b.numbering with
    | .never => false
    | .always => true
    | .continued => most ≠ 0
  if isNumbered then name ++ bytes ".~" ++ numeral (most + 1) ++ ['~'] else name ++ b.ending

/-- Puts what is at a place under a further name, which is told. -/
def Backup.run (b : Backup) (sh : Shell) (name : Name) (p : Place) : Shell × Name :=
  let own := p.getLastD []
  let kept := b.name own (sh.files.names p.dropLast)
  (withFiles sh (sh.files.move p (p.dropLast ++ [kept])), name ++ kept.drop own.length)

/-! ### Transfers -/

/-- What is done about something that is there already. -/
inductive Consent where
  | given
  | asked
  | refused
  | skipped
  deriving DecidableEq, Repr

/-- Which links are followed. -/
inductive Following where
  | all
  /-- Those that are named. -/
  | named
  | never
  deriving DecidableEq, Repr

/-- What a copy is. -/
inductive Manner where
  | contents
  | bare
  | hardLink
  | softLink
  deriving DecidableEq, Repr

structure Transfer where
  program : String
  isMove : Bool
  isDeep : Bool := false
  follows? : Option Following := none
  consent : Consent := .given
  onlyNewer : Bool := false
  tells : Bool := false
  backup? : Option Backup := none
  manner : Manner := .contents
  keepsRights : Bool := false
  dropsRights : Bool := false
  keepsTimes : Bool := false
  keepsLinks : Bool := false
  /-- Whether what is there is taken away before. -/
  clears : Bool := false
  isForced : Bool := false
  stripsSlashes : Bool := false
  keepsWays : Bool := false

def Transfer.follows (t : Transfer) : Following :=
  if t.isMove then .never else t.follows?.getD (if t.isDeep then .never else .all)

/-- What a program has made. -/
structure Made where
  /-- The places of what was named. -/
  named : List Place := []
  /-- The items that have been copied, and where to. -/
  copies : List (Nat × Place) := []
  /-- The directories, by their numbers. -/
  directories : List Nat := []
  /-- Whether one of those has been found in what was to be copied, so that nothing more is. -/
  hasMetItself : Bool := false

namespace Transfer

def complain (t : Transfer) (sh : Shell) (message : List Char) : Shell :=
  Utility.complain sh t.program message 1

/-- Tells what becomes of a name. -/
def tell (t : Transfer) (sh : Shell) (source goal : Name) (kept : Option Name) : Shell :=
  if !t.tells then sh
  else
    let front := if t.isMove then bytes "renamed " else []
    let behind := match kept with
      | some name => bytes " (backup: " ++ inQuotes name ++ [')']
      | none => []
    sh.printLine (front ++ inQuotes source ++ bytes " -> " ++ inQuotes goal ++ behind)

/-- The rights of a copy. -/
def rightsOf (t : Transfer) (sh : Shell) (item : Item) : Nat :=
  if t.keepsRights then item.rights
  else if t.dropsRights then sh.allowed (if item.node = .directory then 511 else 438)
  else sh.allowed (item.rights &&& 511)

/-- Gives a copy what it keeps. -/
def dress (t : Transfer) (item : Item) (rights? : Option Nat) (q : Place) (sh : Shell) : Shell :=
  withFiles sh (sh.files.adjust q fun i =>
    { i with
      rights := rights?.getD (if t.keepsRights then item.rights else i.rights)
      modified := if t.keepsTimes then item.modified else i.modified })

/-- What keeps something from taking the place of something else. -/
def obstacle? (t : Transfer) (isNamed : Bool) (made : Made) (source goal : Name) (node : Node)
    (q : Place) (there : Node) : Option (List Char) :=
  let isKept := t.isMove && t.backup?.isSome
  if there ≠ .directory && node = .directory && !isKept then
    some (bytes "cannot overwrite non-directory " ++ inQuotes goal ++ bytes " with directory " ++
      inQuotes source)
  else if there ≠ .directory && isNamed && q ∈ made.named then
    some (bytes "will not overwrite just-created " ++ inQuotes goal ++ bytes " with " ++
      inQuotes source)
  else if there = .directory && node ≠ .directory && !isKept then
    some (bytes "cannot overwrite directory " ++ inQuotes goal ++ bytes " with non-directory")
  else none

/-- Whether something is left as it is, and the shell when that is known. -/
def isLeft (t : Transfer) (sh : Shell) (goal : Name) (item there : Item) : Bool × Shell :=
  if t.onlyNewer && item.node ≠ .directory && item.modified ≤ there.modified then (true, sh)
  else if !t.isMove && item.node = .directory then (false, sh)
  else
    match t.consent with
    | .given => (false, sh)
    | .skipped => (true, sh)
    | .refused => (true, t.complain sh (bytes "not replacing " ++ inQuotes goal))
    | .asked =>
      let (agreed, sh) := agrees sh t.program (bytes "overwrite " ++ inQuotes goal)
      (!agreed, if agreed then sh else sh.withStatus 1)

/-- Moves something to a place where nothing that is there is in the way. -/
def moving (t : Transfer) (sh : Shell) (source goal : Name) (p q : Place) (item : Item)
    (kept : Option Name) : Shell :=
  if p.isPrefixOf q && p ≠ q then
    t.complain sh (bytes "cannot move " ++ inQuotes source ++
      bytes " to a subdirectory of itself, " ++ inQuotes goal)
  else if goal.getLast? = some '/' && item.node ≠ .directory then
    t.complain sh (bytes "cannot move " ++ inQuotes source ++
      quotedFault " to" goal .notDirectory)
  else if (sh.files.node? q).isSome && !(sh.files.names q).isEmpty then
    t.complain sh (quotedFault "cannot overwrite" goal .notEmpty)
  else t.tell (withFiles sh (sh.files.move p q)) source goal kept

/-- Copies something that is no directory to a place. -/
def copyOne (t : Transfer) (sh : Shell) (source goal : Name) (p q : Place) (item : Item) : Shell :=
  let isThere := (sh.files.node? q).isSome
  let failing (what : List Char) (f : PathFault) : Shell :=
    t.complain sh (what ++ bytes (": " ++ f.text))
  match t.manner with
  | .softLink =>
    if source.head? ≠ some '/' && q.dropLast ≠ sh.directory then
      t.complain sh (goal ++
        bytes ": can make relative symbolic links only in current directory")
    else if isThere && !t.isForced then
      failing (bytes "cannot create symbolic link " ++ inQuotes goal ++ bytes " to " ++
        inQuotes source) .present
    else withFiles sh (sh.files.put q (.link source) 511)
  | .hardLink =>
    if isThere && !t.isForced then
      failing (bytes "cannot create hard link " ++ inQuotes goal ++ bytes " to " ++
        inQuotes source) .present
    else withFiles sh (sh.files.join p q)
  | manner =>
    match item.node with
    | .link target => t.dress item none q (withFiles sh (sh.files.put q (.link target) 511))
    | .pipe _ | .device _ =>
      if t.isDeep then
        let node : Node := match item.node with
          | .pipe _ => .pipe none
          | n => n
        t.dress item none q (withFiles sh (sh.files.put q node (t.rightsOf sh item)))
      else copyText sh manner
    | _ => copyText sh manner
where
  copyText (sh : Shell) (manner : Manner) : Shell :=
    let isThere := (sh.files.node? q).isSome
    let found := (sh.files.resolveLink sh.directory goal).toOption.bind sh.files.node?
    let isLink := found.any fun n =>
      match n with
      | .link _ => true
      | _ => false
    if isLink && !isThere then
      t.complain sh (bytes "not writing through dangling symlink " ++ inQuotes goal)
    else
      let (text, sh) := if manner = .bare then (.ok [], sh) else textOf sh source
      match text with
      | .error f => t.complain sh (bytes "cannot open " ++ inQuotes source ++
          bytes (" for reading: " ++ f.text))
      | .ok cs =>
        let stored := if manner = .bare && isThere then .ok sh else store sh goal .writing cs
        match stored with
        | .error f =>
          let f := if f = .isDirectory && goal.getLast? = some '/' then .notDirectory else f
          t.complain sh (quotedFault "cannot create regular file" goal f)
        | .ok sh => t.dress item (if isThere then none else some (t.rightsOf sh item)) q sh

/-- The names in a directory, those of the oldest files first. -/
def byAge (sh : Shell) (p : Place) : List Name :=
  let number (name : Name) : Nat := (sh.files.number? (p ++ [name])).getD 0
  (sh.files.names p).mergeSort fun a b => number a ≤ number b

/-- Transfers something to a name. The number bounds the depth, and the pair of names is what the
  whole transfer is about. -/
def run (t : Transfer) (whole : Name × Name) (isNamed : Bool) :
    Nat → Shell × Made → Name → Name → Shell × Made
  | 0, acc, _, _ => acc
  | fuel + 1, (sh, made), source, goal =>
    let isFollowed := t.follows = .all || (t.follows = .named && isNamed)
    match present (lookAs isFollowed sh source) with
    | .error f => (t.complain sh (quotedFault "cannot stat" source f), made)
    | .ok (p, item) =>
      let number := (sh.files.number? p).getD 0
      let isDirectory := item.node = .directory
      let isPlain := match item.node with
        | .link _ | .directory => false
        | .file _ | .program => true
        | _ => !t.isDeep
      let seesLinks := !isPlain || t.isMove || t.manner = .softLink || t.manner = .hardLink ||
        t.backup?.isSome || t.clears
      let destination := lookAs (!seesLinks) sh (if isDirectory then Tree.trimmed goal else goal)
      if isDirectory && !t.isDeep && !t.isMove then
        (t.complain sh (bytes "-r not specified; omitting directory " ++ inQuotes source), made)
      else if isDirectory && number ∈ made.directories then
        (t.complain sh (bytes "cannot copy a directory, " ++ inQuotes whole.1 ++
          bytes ", into itself, " ++ inQuotes whole.2), { made with hasMetItself := true })
      else
        match destination with
        | .error f =>
          let isOpen := goal.getLast? = some '/'
          if f ≠ .missing then (t.complain sh (quotedFault "cannot stat" goal f), made)
          else if t.isMove then
            (t.complain sh (bytes "cannot move " ++ inQuotes source ++
              quotedFault " to" goal (if isOpen then .notDirectory else f)), made)
          else if isDirectory then
            (t.complain sh (quotedFault "cannot create directory" goal f), made)
          else
            let f := if isOpen then .notDirectory else f
            (t.complain sh (quotedFault "cannot create regular file" goal f), made)
        | .ok (q, there?) =>
          let isSame := sh.files.number? q = some number
          let isAllowed := t.manner = .hardLink ||
            (t.backup?.isSome && p ≠ q && item.node ≠ .directory)
          if isSame && !isAllowed && t.consent ≠ .skipped && !(t.isMove && isDirectory) then
            (t.complain sh (inQuotes source ++ bytes " and " ++ inQuotes goal ++
              bytes " are the same file"), made)
          else if isSame && t.manner = .hardLink then (sh, made)
          else
            let (isLeft, sh) := match there? with
              | some there => t.isLeft sh goal item there
              | none => (false, sh)
            let obstacle? := there?.bind fun there =>
              t.obstacle? isNamed made source goal item.node q there.node
            if isLeft then (sh, made)
            else
              match obstacle? with
              | some message => (t.complain sh message, made)
              | none =>
                let (sh, kept) := match t.backup?, there? with
                  | some b, some there =>
                    if t.isMove || there.node ≠ Node.directory then
                      let (sh, name) := b.run sh goal q
                      (sh, some name)
                    else (sh, none)
                  | _, _ => (sh, none)
                let made := if isNamed then { made with named := q :: made.named } else made
                if t.isMove then (t.moving sh source goal p q item kept, made)
                else if isDirectory then
                  let isNew := (sh.files.node? q).isNone
                  let sh := if isNew then
                      t.tell (withFiles sh (sh.files.put q .directory (t.rightsOf sh item)))
                        source goal none
                    else sh
                  let made := if isNew then
                      { made with directories := (sh.files.number? q).toList ++ made.directories }
                    else made
                  let (sh, made) := (byAge sh p).foldl (fun (sh, made) name =>
                    if made.hasMetItself then (sh, made)
                    else run t whole false fuel (sh, made) (within source [name])
                      (within goal [name])) (sh, made)
                  (t.dress item none q sh, made)
                else
                  let isCleared := (sh.files.node? q).isSome &&
                    (t.clears || (t.follows = .never && !isPlain))
                  let sh := if isCleared then withFiles sh (sh.files.erase q) else sh
                  let sh := if isCleared && t.tells then
                      sh.printLine (bytes "removed " ++ inQuotes goal)
                    else sh
                  let sh := t.tell sh source goal kept
                  match (if t.keepsLinks then made.copies.lookup number else none) with
                  | some first => (withFiles sh (sh.files.join first q), made)
                  | none =>
                    (t.copyOne sh source goal p q item,
                      { made with copies := (number, q) :: made.copies })

/-- The name of what is transferred to a directory. -/
def nameIn (directory source : Name) : Name :=
  let last := lastPart source
  within directory [if last = ['.', '.'] then ['.'] else last]

/-- Makes the directories of a way in another directory. -/
def openWay (t : Transfer) (sh : Shell) (directory source : Name) : Shell :=
  let parts := (Tree.trimmed source).splitOn '/' |>.dropLast
  let ways := (List.range parts.length).map fun n => parts.take (n + 1)
  (ways.filter fun w => w.any (· ≠ [])).foldl (fun (sh : Shell) way =>
    let name := ['/'].intercalate way
    let goal := within directory way
    match look sh goal, present (look sh name) with
    | .ok (q, none), .ok (_, item) =>
      let sh := withFiles sh (sh.files.put q .directory (t.rightsOf sh item))
      if t.tells then sh.printLine (name ++ bytes " -> " ++ goal) else sh
    | _, _ => sh) sh

/-- Transfers all that is named to a directory, or one thing to a name. -/
def runAll (t : Transfer) (sh : Shell) (sources : List Name) (goal : Name) (isDirectory : Bool) :
    Shell :=
  let bound := sh.files.entries.length + 2
  let bare (source : Name) : Name := if t.stripsSlashes then Tree.trimmed source else source
  let sh := sh.withStatus 0
  if !isDirectory then
    match sources with
    | source :: _ => (t.run (bare source, goal) true bound (sh, {}) (bare source) goal).1
    | [] => sh
  else
    (sources.foldl (fun ((sh, made), earlier) source =>
      let source := bare source
      if !sh.goesOn then ((sh, made), earlier)
      else if !t.isMove && source ∈ earlier && t.backup?.isNone then
        let kind := if isDirectoryAt sh source then "directory" else "file"
        ((Utility.complain sh t.program (bytes ("warning: source " ++ kind ++ " ") ++
          inQuotes source ++ bytes " specified more than once") sh.status, made), earlier)
      else
        let (sh, inside) := if t.keepsWays then
            (t.openWay sh goal source, within goal [source.dropWhile (· = '/')])
          else (sh, nameIn goal source)
        (t.run (source, inside) true bound (sh, { made with hasMetItself := false }) source inside,
          source :: earlier))
      ((sh, {}), [])).1.1

end Transfer

/-! ### Options -/

def cpTable : OptionTable where
  letters := "abdfHilLnprst:uvxPRS:TZ"
  names := [("archive", "a"), ("attributes-only", ""), ("backup", "::"), ("context", "::"),
    ("copy-contents", ""), ("debug", ""), ("dereference", "L"), ("force", "f"),
    ("interactive", "i"), ("link", "l"), ("no-clobber", "n"), ("no-dereference", "P"),
    ("no-preserve", ":"), ("no-target-directory", "T"), ("one-file-system", "x"), ("parents", ""),
    ("path", "parents"), ("preserve", "::"), ("recursive", "R"), ("remove-destination", ""),
    ("sparse", ":"), ("reflink", "::"), ("strip-trailing-slashes", ""), ("suffix", "S:"),
    ("symbolic-link", "s"), ("target-directory", "t:"), ("update", "::"), ("verbose", "v")]

def mvTable : OptionTable where
  letters := "bfint:uvS:TZ"
  names := [("backup", "::"), ("context", "Z"), ("debug", ""), ("force", "f"),
    ("interactive", "i"), ("no-clobber", "n"), ("no-copy", ""), ("no-target-directory", "T"),
    ("strip-trailing-slashes", ""), ("suffix", "S:"), ("target-directory", "t:"),
    ("update", "::"), ("verbose", "v")]

def updateKinds : List (List String) := [["all"], ["none"], ["older"]]

def sparseKinds : List (List String) := [["never"], ["auto"], ["always"]]

def reflinkKinds : List (List String) := [["auto"], ["always"], ["never"]]

def keptKinds : List (List String) :=
  [["mode"], ["timestamps"], ["ownership"], ["links"], ["context"], ["xattr"], ["all"]]

def transferFault? (program : String) (sh : Shell) (o : GivenOption) : Option (List Char) :=
  match o.key, o.value with
  | "update", some value => badChoice? sh program "update" value updateKinds
  | "sparse", some value => badChoice? sh program "sparse" value sparseKinds
  | "reflink", some value => badChoice? sh program "reflink" value reflinkKinds
  | "preserve", some value =>
    (value.splitOn ',').findSome? fun v => badChoice? sh program "preserve" v keptKinds
  | "no-preserve", some value =>
    (value.splitOn ',').findSome? fun v => badChoice? sh program "no-preserve" v keptKinds
  | _, _ => backupFault? sh program o

/-- Keeps something about what is copied, or does not. -/
def Transfer.keeping (t : Transfer) (on : Bool) (what : Option String) : Transfer :=
  match what with
  | some "mode" => { t with keepsRights := on, dropsRights := !on }
  | some "timestamps" => { t with keepsTimes := on }
  | some "links" => { t with keepsLinks := on }
  | some "all" =>
    { t with keepsRights := on, dropsRights := !on, keepsTimes := on, keepsLinks := on }
  | _ => t

def Transfer.apply (t : Transfer) (o : GivenOption) : Transfer :=
  let keepingAll (on : Bool) (value : List Char) : Transfer :=
    (value.splitOn ',').foldl (fun t v => t.keeping on (choice? keptKinds v)) t
  let plainly := { t with keepsRights := true, keepsTimes := true }
  match o.key with
  | "a" => { plainly with keepsLinks := true, isDeep := true, follows? := some .never }
  | "d" => { t with keepsLinks := true, follows? := some .never }
  | "f" => if t.isMove then { t with consent := .given } else { t with isForced := true }
  | "H" => { t with follows? := some .named }
  | "i" => { t with consent := .asked }
  | "l" => { t with manner := .hardLink }
  | "L" => { t with follows? := some .all }
  | "n" => { t with consent := if t.isMove then .refused else .skipped }
  | "p" => plainly
  | "P" => { t with follows? := some .never }
  | "r" | "R" => { t with isDeep := true }
  | "s" => { t with manner := .softLink }
  | "u" => { t with onlyNewer := true }
  | "v" | "debug" => { t with tells := true }
  | "attributes-only" => { t with manner := .bare }
  | "parents" => { t with keepsWays := true }
  | "remove-destination" => { t with clears := true }
  | "strip-trailing-slashes" => { t with stripsSlashes := true }
  | "preserve" =>
    match o.value with
    | some value => keepingAll true value
    | none => plainly
  | "no-preserve" => keepingAll false (o.value.getD [])
  | "update" =>
    match o.value.bind (choice? updateKinds) with
    | some "all" => { t with onlyNewer := false }
    | some "none" => { t with consent := .skipped }
    | _ => { t with onlyNewer := true }
  | _ => t

/-- A program that transfers files. -/
def transfer (program : String) (isMove : Bool) : Builtin :=
  withOptions program 1 (if isMove then mvTable else cpTable) (transferFault? program)
      fun os sh names =>
    let t := os.foldl Transfer.apply { program, isMove }
    let t := { t with backup? := backupOf os }
    let sh := if givenIn os "n" && !isMove then
        complain sh program (bytes ("warning: behavior of -n is non-portable and may change in " ++
          "future; use --update=none instead")) 0
      else sh
    let isPlain := givenIn os "T"
    match lastValue? os "t", names.reverse with
    | none, [] | some _, [] => missingOperand sh program (bytes "file operand")
    | some directory, _ =>
      if isPlain then
        complain sh program
          (bytes "cannot combine --target-directory (-t) and --no-target-directory (-T)") 1
      else
        match present (look sh directory) with
        | .error f => complain sh program (quotedFault "target directory" directory f) 1
        | .ok (_, item) =>
          if item.node = .directory then t.runAll sh names directory true
          else complain sh program (quotedFault "target directory" directory .notDirectory) 1
    | none, [name] =>
      missingOperand sh program (bytes "destination file operand after " ++ inQuotes name)
    | none, goal :: rest =>
      let sources := rest.reverse
      if isPlain then
        match sources with
        | [_] => t.runAll sh sources goal false
        | _ => extraOperand sh program (names.getD 2 []) 1
      else if isDirectoryAt sh goal then t.runAll sh sources goal true
      else if sources.length = 1 then
        if t.keepsWays then
          misused sh program
            (bytes "with --parents, the destination must be a directory") 1
        else t.runAll sh sources goal false
      else
        let f := match present (look sh goal) with
          | .error f => f
          | .ok _ => .notDirectory
        complain sh program (quotedFault "target" goal f) 1

end Utility

end Crond.Script
