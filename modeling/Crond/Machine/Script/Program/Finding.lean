import Crond.Machine.Script.Launch
import Crond.Machine.Script.Program.Finding.Reading

/-
  The program `find`, which looks at everything below some places and does something with what fits
  a condition.
-/

namespace Crond.Script

open Text Files

namespace Finding

/-- What is looked for, and how far. -/
structure Plan where
  condition : Condition
  following : Following
  least : Nat
  most : Option Nat
  isDeepFirst : Bool

/-- Files that are kept back for a command that takes many. -/
structure Kept where
  number : Nat
  words : List (List Char)
  /-- Where the command is run, if not where the search has begun. -/
  inside : Option Place
  /-- The files, the latest first. -/
  files : List Name

/-- A search at work. -/
structure Search where
  sh : Shell
  /-- Whether what is in the directory at hand is left out. -/
  isPruned : Bool := false
  isOver : Bool := false
  /-- Whether something has gone wrong. -/
  isFaulty : Bool := false
  kept : List Kept := []

namespace Search

def goesOn (s : Search) : Bool := !s.isOver && s.sh.goesOn

/-- Tells of something that has gone wrong. -/
def complain (s : Search) (message : List Char) : Search :=
  { s with sh := Utility.complain s.sh "find" message 1, isFaulty := true }

/-- Writes a report. -/
def tell (s : Search) (file : Option Name) (cs : List Char) : Search :=
  match file with
  | none => { s with sh := s.sh.print cs }
  | some name =>
    match Utility.store s.sh name .appending cs with
    | .ok sh => { s with sh }
    | .error f => s.complain (Utility.inEscapes name ++ bytes (": " ++ f.text))

/-! ### Commands -/

/-- Runs a command, in a directory if one is given. The flag tells whether it has ended well. -/
def command (run : Interpreter) (inside : Option Place) (isAlone : Bool) (words : List (List Char))
    (s : Search) : Bool × Search :=
  let message (name : Name) (f : PathFault) : List Char :=
    bytes "find: " ++ Utility.inEscapes name ++ bytes (": " ++ f.text)
  let begun := s.sh.forked
  let begun := if isAlone then begun.close 0 else begun
  let begun := { begun with directory := inside.getD begun.directory }
  match begun.replacement (words.headD []) with
  | .error f => (false, { s with sh := s.sh.write 2 (message (words.headD []) f ++ ['\n']) })
  | .ok _ =>
    let child := runInstead run message words begun
    let sh := s.sh.rejoin child
    match child.exit with
    | .signal n =>
      let told := Utility.complain sh "find" (Utility.inEscapes (words.headD []) ++
        bytes " terminated by signal " ++ numeral n) 0
      (false, { s with sh := told })
    | .code status => (status = 0, { s with sh })

/-- Runs a command with the files that have been kept back for it. -/
def release (run : Interpreter) (s : Search) (k : Kept) : Search :=
  let (isGood, s) := s.command run k.inside false (k.words ++ k.files.reverse)
  if isGood then s else { s with isFaulty := true }

def releaseAll (run : Interpreter) (s : Search) : Search :=
  let kept := s.kept.mergeSort fun a b => a.number ≤ b.number
  { kept.foldl (release run) s with kept := [] }

/-- Keeps a file back for a command, and runs that if it was to be run in another directory. -/
def keep (run : Interpreter) (number : Nat) (words : List (List Char)) (inside : Option Place)
    (file : Name) (s : Search) : Search :=
  let (mine, others) := s.kept.partition fun k => k.number = number
  match mine with
  | k :: _ =>
    if k.inside = inside then
      { s with kept := { k with files := file :: k.files } :: others }
    else
      let s := release run s k
      { s with kept := { number, words, inside, files := [file] } :: others }
  | [] => { s with kept := { number, words, inside, files := [file] } :: s.kept }

/-! ### Actions -/

/-- The name of a file in its directory. -/
def nameInside (e : Entry) : Name :=
  let base := Tree.trimmed e.base
  if base = ['/'] then base else bytes "./" ++ base

/-- The directory that a file is in, as far as its path tells. -/
def directoryOf (e : Entry) (s : Search) : Place :=
  (s.sh.files.resolve s.sh.directory e.front).toOption.getD s.sh.directory

/-- Removes a file, or a directory in which nothing is left. -/
def delete (e : Entry) (s : Search) : Bool × Search :=
  let cannot (f : PathFault) : Bool × Search :=
    (false, s.complain (bytes "cannot delete " ++ Utility.inEscapes e.path ++
      bytes (": " ++ f.text)))
  if e.path = ['.'] then (true, s)
  else
    match s.sh.files.node? e.place with
    | none => cannot .missing
    | some .directory =>
      if (s.sh.files.names e.place).isEmpty then
        (true, { s with sh := { s.sh with files := s.sh.files.erase e.place } })
      else cannot .notEmpty
    | some _ => (true, { s with sh := { s.sh with files := s.sh.files.erase e.place } })

/-- Runs a command with a file in it, once that has been agreed to. -/
def runWith (run : Interpreter) (asks isInside : Bool) (words : List (List Char)) (e : Entry)
    (s : Search) : Bool × Search :=
  let name := if isInside then nameInside e else e.path
  let inside := if isInside then some (directoryOf e s) else none
  let filled := words.map fun w =>
    replacedIn (bytes "\x7b\x7d") name (w.length + 1) w
  if !asks then s.command run inside false filled
  else
    let asked := s.sh.write 2
      (bytes "< " ++ filled.headD [] ++ bytes " ... " ++ e.path ++ bytes " > ? ")
    let (line, sh) := Utility.askedLine asked
    let s := { s with sh }
    if line.head? = some 'y' || line.head? = some 'Y' then s.command run inside true filled
    else (false, s)

def act (run : Interpreter) (p : Plan) (e : Entry) (a : Action) (s : Search) : Bool × Search :=
  let follows := p.following = .always
  match a with
  | .prune => (true, { s with isPruned := true })
  | .quit => (true, { s with isOver := true })
  | .delete => delete e s
  | .print file mark => (true, s.tell file (e.path ++ [mark]))
  | .report file pieces => (true, s.tell file (e.report s.sh follows pieces))
  | .list file => (true, s.tell file (e.listed s.sh))
  | .run asks isInside words => runWith run asks isInside words e s
  | .gather true number words =>
    (true, s.keep run number words (some (directoryOf e s)) (nameInside e))
  | .gather false number words => (true, s.keep run number words none e.path)

/-- Whether a file fits a condition, and what is done about that. -/
def meets (run : Interpreter) (p : Plan) (e : Entry) : Condition → Search → Bool × Search
  | .test t, s => (t.holds s.sh (p.following = .always) e, s)
  | .action a, s => if s.goesOn then s.act run p e a else (false, s)
  | .not c, s =>
    let (b, s) := meets run p e c s
    (!b, s)
  | .both c d, s =>
    let (b, s) := meets run p e c s
    if b then meets run p e d s else (false, s)
  | .either c d, s =>
    let (b, s) := meets run p e c s
    if b then (true, s) else meets run p e d s
  | .next c d, s => meets run p e d (meets run p e c s).2

/-! ### Directories -/

/-- What is at a path. A link that leads nowhere is taken for itself. -/
def found (isFollowed : Bool) (s : Search) (path : Name) : Except PathFault (Place × Item) :=
  let plain := Utility.present (Utility.lookAt s.sh path)
  if !isFollowed then plain
  else
    match Utility.present (Utility.look s.sh path) with
    | .ok found => .ok found
    | .error _ => plain

/-- Looks at a file and at all that is below it. The number bounds the depth, and the list holds the
  directories on the way. -/
def visit (run : Interpreter) (p : Plan) : Nat → List (Place × Name) → Name → Name → Nat → Search →
    Search
  | 0, _, _, _, _, s => s
  | n + 1, way, start, path, depth, s =>
    if !s.goesOn then s
    else
      let isFollowed := p.following = .always || (p.following = .named && depth = 0)
      match s.found isFollowed path with
      | .error f => s.complain (Utility.inEscapes path ++ bytes (": " ++ f.text))
      | .ok (place, item) =>
        let e : Entry := { path, place, item, depth, start }
        let looked (s : Search) : Search :=
          if p.least ≤ depth && s.goesOn then (meets run p e p.condition s).2 else s
        let isEntered := item.node = .directory && p.most.all fun most => depth < most
        let entered (s : Search) : Search :=
          if !isEntered || !s.goesOn then s
          else if (s.sh.files.node? place).isNone then
            s.complain (Utility.inEscapes path ++ bytes ": No such file or directory")
          else
            (s.sh.files.names place).foldl (fun s name =>
              visit run p n ((place, path) :: way) start (Utility.within path [name]) (depth + 1) s) s
        match way.find? fun d => d.1 = place && item.node = .directory with
        | some d =>
          s.complain (bytes "File system loop detected; " ++ Utility.inEscapes path ++
            bytes " is part of the same file system loop as " ++ Utility.inEscapes d.2 ++ ['.'])
        | none =>
          if p.isDeepFirst then looked (entered s)
          else
            let s := looked { s with isPruned := false }
            if s.isPruned then s else entered s

end Search

/-- What stands in front of the places to begin. -/
def followingOf : Following → List (List Char) → Following × List (List Char)
  | following, [] => (following, [])
  | following, a :: rest =>
    match String.ofList a with
    | "-P" => followingOf .never rest
    | "-H" => followingOf .named rest
    | "-L" => followingOf .always rest
    | "--" => (following, rest)
    | _ => if (bytes "-O").isPrefixOf a then followingOf following rest else (following, a :: rest)

/-- Whether an action tells of files by itself, so that they need not be printed. -/
def Action.isTelling : Action → Bool
  | .prune | .quit => false
  | _ => true

/-- The condition that has been read. Files are printed if nothing else is done with them. -/
def Reading.condition (r : Reading) : Except (List Char) Condition :=
  let parts := r.parts.reverse
  let has (f : Action → Bool) : Bool := parts.any fun w =>
    match w.part with
    | .condition (.action a) => f a
    | _ => false
  let isDeleting := has fun a => match a with | .delete => true | _ => false
  let isPruning := has fun a => match a with | .prune => true | _ => false
  let printing := Condition.action (.print none '\n')
  let isTold := has Action.isTelling
  if parts.isEmpty then .ok printing
  else if isDeleting && isPruning && !r.asksDeepFirst then
    .error (bytes ("The -delete action automatically turns on -depth, but -prune does nothing " ++
      "when -depth is in effect.  If you want to carry on anyway, just explicitly use the " ++
      "-depth option."))
  else
    match conditionOf (!isTold) (3 * parts.length + 3) 0 .nothing parts with
    | .error message => .error message
    | .ok (c, []) => .ok (if isTold then c else .both c printing)
    | .ok (_, ⟨_, .closing⟩ :: _) => .error (bytes "you have too many ')'")
    | .ok (_, w :: _) => .error (bytes "unexpected extra predicate '" ++ w.name ++ ['\''])

/-- As deep as directories are searched. -/
def depthBound : Nat := 4096

/-- The program `find`. -/
def program (run : Interpreter) : Builtin := fun sh args =>
  let (following, args) := followingOf .never args
  let (starts, rest) := args.span fun a => !Reading.isPart true a
  let r := Reading.all (rest.length + 1) none { sh, following } rest
  let fail (message : List Char) : Shell := Utility.complain r.sh "find" message 1
  match r.fault?, r.condition with
  | some message, _ => fail message
  | none, .error message => fail message
  | none, .ok condition =>
    let p : Plan :=
      { condition, following := r.following, least := r.least, most := r.most,
        isDeepFirst := r.isDeepFirst }
    let begun : Search := { sh := r.sh }
    let s := (if starts.isEmpty then [['.']] else starts).foldl (fun s start =>
      Search.visit run p depthBound [] start start 0 s) begun
    let s := if s.sh.goesOn then s.releaseAll run else s
    if s.sh.goesOn then s.sh.withStatus (if s.isFaulty then 1 else 0) else s.sh

end Finding

end Crond.Script
