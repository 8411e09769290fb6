import Crond.Machine.Script.Program.Finding.Report
import Crond.Machine.Script.Utility.Clock

/-
  How the arguments of `find` are read: options, and a condition made of tests and actions.

  What stands side by side has to hold both. That binds closer than what one of two has to, and a
  comma binds least.
-/

namespace Crond.Script

open Text Files Calendar

namespace Finding

/-! ### Parts -/

/-- A part of a condition as it is written. -/
inductive Part where
  | opening
  | closing
  | negation
  | conjunction
  | alternative
  | comma
  | condition (c : Condition)
  deriving Repr

/-- A part, and how it is written. -/
structure Written where
  name : List Char
  part : Part
  deriving Repr

/-- How close a part between two others binds them. -/
def Part.binding? : Part → Option Nat
  | .comma => some 1
  | .alternative => some 2
  | .conjunction => some 3
  | _ => none

/-- What stands in front of a condition. -/
inductive Before where
  | nothing
  | opening
  | operator (name : List Char)

def invalidExpression : List Char := bytes "invalid expression"

mutual

/-- Reads a condition whose parts bind closer than a number says. Where the whole is in parentheses
  that are not written, its end is their closing one. The first number bounds the parts. -/
def conditionOf (isEnclosed : Bool) :
    Nat → Nat → Before → List Written → Except (List Char) (Condition × List Written)
  | 0, _, _, _ => .error invalidExpression
  | n + 1, above, before, parts =>
    match parts with
    | [] =>
      match isEnclosed, before with
      | true, .operator name =>
        .error (bytes "expected an expression after '" ++ name ++ ['\''])
      | _, _ => .error invalidExpression
    | w :: rest =>
      match w.part with
      | .conjunction | .alternative | .comma =>
        .error (bytes "invalid expression; you have used a binary operator '" ++ w.name ++
          bytes "' with nothing before it.")
      | .closing =>
        match before with
        | .operator name =>
          .error (bytes "expected an expression between '" ++ name ++ bytes "' and ')'")
        | _ => .error (bytes "invalid expression; you have too many ')'")
      | .condition c => joinedTo isEnclosed n above c rest
      | .negation =>
        match conditionOf isEnclosed n 4 (.operator w.name) rest with
        | .error e => .error e
        | .ok (c, rest) => joinedTo isEnclosed n above (.not c) rest
      | .opening =>
        match rest with
        | [] =>
          .error (bytes ("invalid expression; expected to find a ')' but didn't see one. " ++
            "Perhaps you need an extra predicate after '") ++ w.name ++ ['\''])
        | next :: _ =>
          match next.part with
          | .closing =>
            .error (bytes "invalid expression; empty parentheses are not allowed.")
          | _ =>
            match conditionOf isEnclosed n 0 .opening rest with
            | .error e => .error e
            | .ok (c, behind) =>
              match behind with
              | ⟨_, .closing⟩ :: behind => joinedTo isEnclosed n above c behind
              | _ =>
                .error (bytes ("invalid expression; I was expecting to find a ')' " ++
                  "somewhere but did not see one."))

/-- Goes on behind a condition as long as what follows binds closer than a number says. -/
def joinedTo (isEnclosed : Bool) :
    Nat → Nat → Condition → List Written → Except (List Char) (Condition × List Written)
  | 0, _, _, _ => .error invalidExpression
  | n + 1, above, c, parts =>
    match parts with
    | [] => .ok (c, [])
    | w :: rest =>
      match w.part, w.part.binding? with
      | .closing, _ => .ok (c, parts)
      | part, some binding =>
        if binding ≤ above then .ok (c, parts)
        else
          match conditionOf isEnclosed n binding (.operator w.name) rest with
          | .error e => .error e
          | .ok (d, rest) =>
            let joined := match part with
              | .comma => Condition.next c d
              | .alternative => .either c d
              | _ => .both c d
            joinedTo isEnclosed n above joined rest
      | _, none =>
        if 3 ≤ above then .ok (c, parts)
        else
          match conditionOf isEnclosed n 3 (.operator ['-', 'a']) parts with
          | .error e => .error e
          | .ok (d, rest) => joinedTo isEnclosed n above (.both c d) rest

end

/-! ### Arguments -/

/-- Which links are taken for what they lead to. -/
inductive Following where
  | never
  /-- Those that are named as places to begin. -/
  | named
  | always
  deriving DecidableEq, Repr

/-- How regular expressions are written. -/
inductive Style where
  /-- A plus and a question mark repeat without a backslash, and braces mean nothing. -/
  | mixed
  | basic
  | extended
  deriving DecidableEq, Repr

/-- What has been read of the arguments. -/
structure Reading where
  sh : Shell
  following : Following := .never
  /-- The parts of the condition, the latest first. -/
  parts : List Written := []
  least : Nat := 0
  most : Option Nat := none
  /-- Whether what is in a directory comes before it. -/
  isDeepFirst : Bool := false
  /-- Whether that has been asked for by itself. -/
  asksDeepFirst : Bool := false
  countsDays : Bool := false
  style : Style := .mixed
  fault? : Option (List Char) := none

namespace Reading

def failed (r : Reading) (message : List Char) : Reading := { r with fault? := some message }

def add (r : Reading) (name : List Char) (p : Part) : Reading :=
  { r with parts := ⟨name, p⟩ :: r.parts }

/-- The moment from which ages are counted. -/
def now (r : Reading) : Int :=
  let t := (Utility.presentMoment r.sh).nanos
  let day : Int := 86400 * nanosPerSecond
  if r.countsDays then (t / day + 1) * day else t

/-- Whether links are taken for what they lead to where one is named. -/
def followsNamed (r : Reading) : Bool := r.following ≠ .never

/-- What a name leads to that a file is compared with, or why that cannot be told. -/
def reference (r : Reading) (name : Name) : Except (List Char) (Place × Item) :=
  match Utility.present (Utility.lookAs r.followsNamed r.sh name) with
  | .ok found => .ok found
  | .error f => .error (Utility.inEscapes name ++ bytes (": " ++ f.text))

/-- A regular expression, in the words of the style that is at work. -/
def regex (r : Reading) (foldsCase : Bool) (cs : List Char) : Except Regex.Fault Regex :=
  let (plain, _) := cs.foldl (fun (acc : List Char × Bool) c =>
    let (read, isEscaped) := acc
    if isEscaped then
      (read ++ (if c = '+' || c = '?' || c = '\x7b' || c = '\x7d' then [c] else ['\\', c]), false)
    else if c = '\\' then (read, true)
    else (read ++ (if c = '+' || c = '?' then ['\\', c] else [c]), false)) ([], false)
  match r.style with
  | .mixed => Regex.read { foldsCase } plain
  | .basic => Regex.read { foldsCase } cs
  | .extended => Regex.read { isExtended := true, foldsCase } cs

end Reading

/-- A number to compare with, behind a sign that tells how. -/
def signed? (read? : List Char → Option Nat) (cs : List Char) : Option Amount :=
  match cs with
  | '+' :: rest => (read? rest).map (⟨.more, ·⟩)
  | '-' :: rest => (read? rest).map (⟨.less, ·⟩)
  | _ => (read? cs).map (⟨.equal, ·⟩)

def wholeNumber? (cs : List Char) : Option Nat :=
  if cs.isEmpty || cs.any (!·.isDigit) then none else some (digitsValue 10 cs)

/-- A number with a fraction, times a unit. -/
def scaled? (unit : Nat) (cs : List Char) : Option Nat :=
  let (digits, rest) := cs.span Char.isDigit
  let part := rest.drop 1
  let isFit := (rest.isEmpty || rest.head? = some '.') && part.all Char.isDigit &&
    !(digits.isEmpty && part.isEmpty)
  if isFit then
    some (unit * digitsValue 10 digits + unit * digitsValue 10 part / Nat.pow 10 part.length)
  else none

/-- The letters of kinds in a list with commas, or what is wrong with them. -/
def kinds (option : List Char) : List Char → Except (List Char) (List Char)
  | [] => .error (bytes "Arguments to " ++ option ++ bytes " should contain at least one letter")
  | c :: rest =>
    if !(bytes "bcdflpsD").contains c then
      .error (bytes "Unknown argument to " ++ option ++ bytes ": " ++ [c])
    else
      match rest with
      | [] => .ok [c]
      | [','] =>
        .error (bytes "Last file type in list argument to " ++ option ++
          bytes " is missing, i.e., list is ending on: ','")
      | ',' :: more => (kinds option more).map (c :: ·)
      | _ =>
        .error (bytes "Must separate multiple arguments to " ++ option ++ bytes " using: ','")

/-- The bytes in a unit of size. -/
def unitOf? (cs : List Char) : Option Nat :=
  match cs with
  | [] | ['b'] => some 512
  | ['c'] => some 1
  | ['w'] => some 2
  | ['k'] => some 1024
  | ['M'] => some 1048576
  | ['G'] => some 1073741824
  | _ => none

/-- A size, in units. -/
def sizeTest (cs : List Char) : Except (List Char) Test :=
  if cs.isEmpty then .error (bytes "invalid null argument to -size")
  else
    let last := cs.getLastD ' '
    let (number, ending) := if last.isDigit then (cs, []) else (cs.dropLast, [last])
    match unitOf? ending, signed? wholeNumber? number with
    | none, _ => .error (bytes "invalid -size type \x60" ++ ending ++ ['\''])
    | some _, none => .error (bytes "Invalid argument \x60" ++ cs ++ bytes "' to -size")
    | some unit, some a => .ok (.size a unit)

/-- The rights that a text asks for, and how. -/
def rightsTest (cs : List Char) : Except (List Char) Test :=
  let (share, text) : Share × List Char := match cs with
    | '-' :: rest => (.all, rest)
    | '/' :: rest => (.any, rest)
    | _ => (.exactly, cs)
  let isOld := cs.head? = some '+' && (cs[1]?.map Char.isDigit).getD false
  match (if isOld || text.isEmpty then none else Rights.ofText? text) with
  | none => .error (bytes "invalid mode " ++ Utility.inEscapes cs)
  | some changes => .ok (.rights share (Rights.changed false 0 changes 0))

/-- Who is meant by a name or a number; all files have the same owner. -/
def ownerTest (group : Bool) (cs : List Char) : Except (List Char) Test :=
  match (if group then users.find? fun u => bytes u.name = cs && u.number = u.group
    else users.find? fun u => bytes u.name = cs) with
  | some u => .ok (.owner ⟨.equal, u.number⟩)
  | none =>
    match wholeNumber? cs with
    | some n => .ok (.owner ⟨.equal, n⟩)
    | none =>
      .error (Utility.inEscapes cs ++
        bytes (" is not the name of " ++ if group then "an existing group" else "a known user"))

/-! ### Tests and actions -/

namespace Reading

/-- Takes the value of a test, which must be there. -/
def valued (r : Reading) (name : List Char) (args : List (List Char))
    (k : List Char → Reading) : Reading × List (List Char) :=
  match args with
  | [] => (r.failed (bytes "missing argument to \x60" ++ name ++ ['\'']), [])
  | v :: rest => (k v, rest)

/-- Adds a test, or tells why there is none. -/
def tested (r : Reading) (name : List Char) (t : Except (List Char) Test) : Reading :=
  match t with
  | .ok t => r.add name (.condition (.test t))
  | .error message => r.failed message

def acting (r : Reading) (name : List Char) (a : Action) : Reading :=
  r.add name (.condition (.action a))

/-- What is said of a value that means nothing. -/
def unfit (name v : List Char) : List Char :=
  bytes "invalid argument \x60" ++ v ++ bytes "' to \x60" ++ name ++ ['\'']

/-- A test that compares with an amount. -/
def compared (r : Reading) (name v : List Char) (read? : List Char → Option Nat)
    (t : Amount → Test) : Reading :=
  r.tested name (((signed? read? v).map fun a => Except.ok (t a)).getD (.error (unfit name v)))

/-- Begins a file for reports. -/
def opened (r : Reading) (name : Name) (k : Reading → Reading) : Reading :=
  match Utility.store r.sh name .writing [] with
  | .ok sh => k { r with sh }
  | .error f => r.failed (Utility.inEscapes name ++ bytes (": " ++ f.text))

/-- Adds a report, with a warning for everything in its format that means nothing. -/
def reported (r : Reading) (name : List Char) (file : Option Name) (format : List Char) : Reading :=
  let f := readFormat (format.length + 1) format
  let sh := f.warnings.foldl (fun (sh : Shell) w =>
    Utility.complain sh "find" (bytes "warning: " ++ w) 0) r.sh
  match f.fault? with
  | some message => { r with sh }.failed message
  | none => { r with sh }.acting name (.report file f.pieces)

/-- Reads the limit of a depth. -/
def depthOf (r : Reading) (name v : List Char) (k : Nat → Reading) : Reading :=
  match wholeNumber? v with
  | some n => k n
  | none =>
    r.failed (bytes "Expected a positive decimal integer argument to " ++ name ++
      bytes ", but got " ++ Utility.inEscapes v)

/-- Whether a word has the braces in it that stand for a file. -/
def hasBraces (w : List Char) : Bool := (w.zip w.tail).any (· = ('\x7b', '\x7d'))

/-- The words of a command, how it ends, and what stands behind it. A plus ends it behind braces. -/
def command? (takesMany : Bool) : List (List Char) → List (List Char) →
    Option (List (List Char) × Bool × List (List Char))
  | _, [] => none
  | words, a :: rest =>
    if a = [';'] then some (words.reverse, false, rest)
    else if takesMany && a = ['+'] && words.head?.any hasBraces then
      some (words.reverse, true, rest)
    else command? takesMany (a :: words) rest

/-- Reads a command to be run. -/
def running (r : Reading) (name : List Char) (asks isInside : Bool) (args : List (List Char)) :
    Reading × List (List Char) :=
  match args, command? (!asks) [] args with
  | [], _ | _, none => (r.failed (bytes "missing argument to \x60" ++ name ++ ['\'']), [])
  | first :: _, some (words, isMany, rest) =>
    let place := bytes (if isInside then "-execdir" else "-exec")
    if words.isEmpty then (r.failed (unfit name first), rest)
    else if !isMany then (r.acting name (.run asks isInside words), rest)
    else if words.dropLast.any hasBraces then
      (r.failed (bytes "Only one instance of \x7b\x7d is supported with " ++ place ++
        bytes " ... +"), rest)
    else if words.getLast? ≠ some (bytes "\x7b\x7d") then
      (r.failed (bytes "In '" ++ place ++ bytes (" ... \x7b\x7d +' the '\x7b\x7d' must appear " ++
        "by itself, but you specified ") ++ Utility.inEscapes (words.getLastD [])), rest)
    else (r.acting name (.gather isInside r.parts.length words.dropLast), rest)

/-- Reads a comparison with a moment that a phrase means, or at which another file was changed. -/
def newer (r : Reading) (name : List Char) (args : List (List Char)) :
    Reading × List (List Char) :=
  let isKnown (c : Char) : Bool := c = 'a' || c = 'c' || c = 'm'
  match name.drop 6 with
  | [x, y] =>
    if x = 'B' || y = 'B' then
      let told := Utility.complain r.sh "find" (bytes ("This system does not provide a way to " ++
        "find the birth time of a file.")) 1
      ({ r with sh := told }.failed (bytes "invalid predicate \x60" ++ name ++ ['\'']), [])
    else if isKnown x && y = 't' then
      r.valued name args fun v =>
        r.tested name (match Moment.ofPhrase? (Utility.presentMoment r.sh) v with
          | some t => .ok (.newer t.nanos)
          | none =>
            .error (bytes "I cannot figure out how to interpret " ++ Utility.inEscapes v ++
              bytes " as a date or time"))
    else if isKnown x && isKnown y then
      r.valued name args fun v =>
        r.tested name ((r.reference v).map fun found => .newer found.2.modified)
    else (r.failed (bytes "invalid predicate \x60" ++ name ++ ['\'']), [])
  | _ => (r.failed (bytes "invalid predicate \x60" ++ name ++ ['\'']), [])

/-- Reads a test of the name of a file, or of something else that is text. -/
def textual? (name : List Char) (v : List Char) : Option Test :=
  match String.ofList name with
  | "-name" => some (.name false v)
  | "-iname" => some (.name true v)
  | "-path" | "-wholename" => some (.path false v)
  | "-ipath" | "-iwholename" => some (.path true v)
  | "-lname" => some (.target false v)
  | "-ilname" => some (.target true v)
  | _ => none

/-- Reads a test that compares with an amount. -/
def counted? (r : Reading) (name v : List Char) : Option Reading :=
  let day := 86400000000000
  match String.ofList name with
  | "-mtime" | "-atime" | "-ctime" =>
    some (r.compared name v (scaled? day) (.days · r.now))
  | "-mmin" | "-amin" | "-cmin" =>
    some (r.compared name v (scaled? (day / 1440)) (.minutes · r.now))
  | "-links" => some (r.compared name v wholeNumber? .links)
  | "-inum" => some (r.compared name v wholeNumber? .number)
  | "-uid" | "-gid" => some (r.compared name v wholeNumber? .owner)
  | _ => none

/-- Warns of rights that were once those of no file. -/
def warnedOf (r : Reading) (v : List Char) : Reading :=
  match rightsTest v with
  | .ok (.rights .any 0) =>
    let sh := Utility.complain r.sh "find" (bytes "warning: you have specified a mode pattern " ++ v ++
      bytes (" (which is equivalent to /000). The meaning of -perm /000 has now been changed to " ++
        "be consistent with -perm -000; that is, while it used to match no files, it now " ++
        "matches all files.")) 0
    { r with sh }
  | _ => r

/-- Reads a style of regular expressions. -/
def style? (v : List Char) : Option Style :=
  match String.ofList v with
  | "findutils-default" | "emacs" => some .mixed
  | "ed" | "grep" | "posix-basic" | "posix-minimal-basic" | "sed" => some .basic
  | "gnu-awk" | "posix-awk" | "awk" | "posix-egrep" | "egrep" | "posix-extended" =>
    some .extended
  | _ => none

/-- Reads a test or an option that has a value, if there is one of that name. -/
def withValue? (r : Reading) (name v : List Char) : Option Reading :=
  let expression (foldsCase : Bool) : Reading :=
    r.tested name (match r.regex foldsCase v with
      | .ok regex => .ok (.regex regex)
      | .error f =>
        .error (bytes "failed to compile regular expression '" ++ v ++
          bytes ("': " ++ f.text)))
  match String.ofList name with
  | "-maxdepth" => some (r.depthOf name v fun n => { r with most := some n })
  | "-mindepth" => some (r.depthOf name v fun n => { r with least := n })
  | "-type" => some (r.tested name ((kinds name v).map (.kind false)))
  | "-xtype" => some (r.tested name ((kinds name v).map (.kind true)))
  | "-size" => some (r.tested name (sizeTest v))
  | "-perm" => some ((r.warnedOf v).tested name (rightsTest v))
  | "-user" => some (r.tested name (ownerTest false v))
  | "-group" => some (r.tested name (ownerTest true v))
  | "-regex" => some (expression false)
  | "-iregex" => some (expression true)
  | "-newer" | "-anewer" | "-cnewer" =>
    some (r.tested name ((r.reference v).map fun found => .newer found.2.modified))
  | "-samefile" =>
    some (r.tested name ((r.reference v).map fun found => .same (r.sh.files.number? found.1)))
  | "-fstype" => some (r.tested name (.ok (.constant (v = bytes "overlay"))))
  | "-regextype" =>
    some (match style? v with
      | some style => { r with style }
      | none =>
        r.failed (bytes "Unknown regular expression type " ++ Utility.inEscapes v ++
          bytes ("; valid types are 'findutils-default', 'ed', 'emacs', 'gnu-awk', 'grep', " ++
            "'posix-awk', 'awk', 'posix-basic', 'posix-egrep', 'egrep', 'posix-extended', " ++
            "'posix-minimal-basic', 'sed'.")))
  | "-printf" => some (r.reported name none v)
  | "-fprint" => some (r.opened v fun r => r.acting name (.print (some v) '\n'))
  | "-fprint0" => some (r.opened v fun r => r.acting name (.print (some v) '\x00'))
  | "-fls" => some (r.opened v fun r => r.acting name (.list (some v)))
  | _ =>
    ((textual? name v).map fun t => r.tested name (.ok t)).or (r.counted? name v)

/-- Reads what stands alone, if there is something of that name. -/
def alone? (r : Reading) (name : List Char) : Option Reading :=
  match String.ofList name with
  | "(" => some (r.add name .opening)
  | ")" => some (r.add name .closing)
  | "!" | "-not" => some (r.add name .negation)
  | "-a" | "-and" => some (r.add name .conjunction)
  | "-o" | "-or" => some (r.add name .alternative)
  | "," => some (r.add name .comma)
  | "-depth" | "-d" => some { r with isDeepFirst := true, asksDeepFirst := true }
  | "-daystart" => some { r with countsDays := true }
  | "-follow" => some { r with following := .always }
  | "-mount" | "-xdev" | "-noleaf" | "-warn" | "-nowarn" | "-ignore_readdir_race"
  | "-noignore_readdir_race" => some r
  | "-true" => some (r.tested name (.ok (.constant true)))
  | "-false" | "-nouser" | "-nogroup" => some (r.tested name (.ok (.constant false)))
  | "-readable" | "-writable" => some (r.tested name (.ok (.usable false)))
  | "-executable" => some (r.tested name (.ok (.usable true)))
  | "-empty" => some (r.tested name (.ok .empty))
  | "-prune" => some (r.acting name .prune)
  | "-quit" => some (r.acting name .quit)
  | "-delete" => some ({ r with isDeepFirst := true }.acting name .delete)
  | "-print" => some (r.acting name (.print none '\n'))
  | "-print0" => some (r.acting name (.print none '\x00'))
  | "-ls" => some (r.acting name (.list none))
  | _ => none

/-- Reads a test, an action or an option with what belongs to it. -/
def part (r : Reading) (name : List Char) (args : List (List Char)) :
    Reading × List (List Char) :=
  match r.alone? name, String.ofList name with
  | some r, _ => (r, args)
  | none, "-exec" => r.running name false false args
  | none, "-execdir" => r.running name false true args
  | none, "-ok" => r.running name true false args
  | none, "-okdir" => r.running name true true args
  | none, "-fprintf" =>
    match args with
    | file :: format :: rest => (r.opened file fun r => r.reported name (some file) format, rest)
    | [file] => (r.failed (unfit name file), [])
    | [] => (r.failed (bytes "missing argument to \x60" ++ name ++ ['\'']), [])
  | none, _ =>
    match args, r.withValue? name (args.headD []) with
    | _ :: rest, some r => (r, rest)
    | [], some _ => (r.failed (bytes "missing argument to \x60" ++ name ++ ['\'']), [])
    | _, none =>
      if (bytes "-newer").isPrefixOf name then r.newer name args
      else (r.failed (bytes "unknown predicate \x60" ++ name ++ ['\'']), [])

/-- Whether an argument belongs to a condition, and names no place to begin. -/
def isPart (isFirst : Bool) (a : List Char) : Bool :=
  match a with
  | '-' :: _ :: _ => true
  | ['('] | ['!'] => true
  | [')'] | [','] => !isFirst
  | _ => false

/-- Reads all that belongs to the condition, behind a part if there is one. The number bounds the
  arguments. -/
def all : Nat → Option (List Char) → Reading → List (List Char) → Reading
  | 0, _, r, _ => r
  | _, _, r, [] => r
  | n + 1, last?, r, a :: rest =>
    if r.fault?.isSome then r
    else if !isPart false a then
      let isThere := (r.sh.files.find r.sh.directory a).toOption.isSome
      let hint := match last?.filter fun _ => isThere with
        | some last =>
          bytes "\nfind: possible unquoted pattern after predicate \x60" ++ last ++ bytes "'?"
        | none => []
      r.failed (bytes "paths must precede expression: \x60" ++ a ++ '\'' :: hint)
    else
      let (r, rest) := r.part a rest
      all n (some a) r rest

end Reading

end Finding

end Crond.Script
