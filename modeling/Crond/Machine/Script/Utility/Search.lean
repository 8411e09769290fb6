import Crond.Machine.Script.Regex
import Crond.Machine.Script.Utility.Part

/-
  The program `grep`, which prints the lines that match one of some patterns.
-/

namespace Crond.Script

open Text Files

namespace Utility

def grepTable : OptionTable where
  letters := "0123456789A:B:C:D:EFGHILPTUVX:abcd:e:f:hiLlm:noqRrsuvwxyzZ"
  names := [("basic-regexp", "G"), ("extended-regexp", "E"), ("fixed-regexp", "F"),
    ("fixed-strings", "F"), ("perl-regexp", "P"), ("after-context", "A"), ("before-context", "B"),
    ("binary-files", ":"), ("line-buffered", ""), ("byte-offset", "b"), ("context", "C"),
    ("color", "color::"), ("colour", "color::"), ("count", "c"), ("devices", "D"),
    ("directories", "d"), ("exclude", ":"), ("exclude-from", ":"), ("exclude-dir", ":"),
    ("file", "f"), ("files-with-matches", "l"), ("files-without-match", "L"),
    ("group-separator", ":"), ("include", ":"), ("initial-tab", "T"), ("label", ":"),
    ("line-number", "n"), ("line-regexp", "x"), ("max-count", "m"), ("no-filename", "h"),
    ("no-group-separator", ""), ("no-ignore-case", ""), ("no-messages", "s"), ("null", "Z"),
    ("null-data", "z"), ("only-matching", "o"), ("quiet", "q"), ("recursive", "r"),
    ("dereference-recursive", "R"), ("regexp", "e"), ("ignore-case", "i"), ("silent", "q"),
    ("text", "a"), ("binary", "U"), ("unix-byte-offsets", "u"), ("with-filename", "H"),
    ("word-regexp", "w"), ("invert-match", "v")]

/-- What lines are searched for, and how what is found is told. -/
structure SearchPlan where
  regex : Option Regex
  options : List GivenOption
  before : Nat
  after : Nat
  /-- As many lines as are looked for in a text. -/
  most : Option Nat
  mark : Char
  isNamed : Bool

namespace SearchPlan

def has (p : SearchPlan) (key : String) : Bool := givenIn p.options key

/-- Whether a line is one of those looked for. -/
def isHit (p : SearchPlan) (l : List Char) : Bool := (p.regex.any fun r => r.isIn l) != p.has "v"

/-- Whether nothing of the lines themselves is printed. -/
def isSummary (p : SearchPlan) : Bool := p.has "c" || p.has "l" || p.has "L" || p.has "q"

/-- As many hits as settle what is told of a text. -/
def enough (p : SearchPlan) : Option Nat :=
  if p.has "q" || p.has "l" || p.has "L" then some 1 else p.most

/-- The lines that are hits, with their numbers from zero, as far as they are looked for. -/
def hits (p : SearchPlan) (ls : List (List Char)) : List Nat :=
  let all := (ls.zipIdx.filter fun l => p.isHit l.1).map (·.2)
  match p.enough with
  | some n => all.take n
  | none => all

/-- What stands in front of a line, or of a part of it. -/
def front (p : SearchPlan) (name : Name) (separator : Char) (number offset : Nat) : List Char :=
  let end_ := if p.has "Z" then ['\x00'] else [separator]
  (if p.isNamed then name ++ end_ else []) ++
    (if p.has "n" then numeral number ++ [separator] else []) ++
    (if p.has "b" then numeral offset ++ [separator] else []) ++
    (if p.has "T" && (p.isNamed || p.has "n" || p.has "b") then ['\t'] else [])

/-- The parts of a line that match, with their offsets. -/
def parts (p : SearchPlan) (l : List Char) : List (List Char × Nat) :=
  match p.regex with
  | none => []
  | some r =>
    ((r.all l).1.foldl (fun (acc : List (List Char × Nat) × Nat) m =>
      let start := acc.2 + m.before.length
      let found := if m.matched.isEmpty then [] else [(m.matched, start)]
      (acc.1 ++ found, start + m.matched.length)) ([], 0)).1

/-- The lines to print of a text: each with whether it is a hit. -/
def shown (p : SearchPlan) (count : Nat) (found : List Nat) : List (Nat × Bool) :=
  let bound := match p.most, found.getLast? with
    | some n, some last => if n ≤ found.length then last + p.after + 1 else count
    | _, _ => count
  (List.range (min bound count)).filterMap fun n =>
    if found.contains n then some (n, true)
    else if found.any fun h => (h < n && n ≤ h + p.after) || (n < h && h ≤ n + p.before) then
      some (n, false)
    else none

/-- What is printed between groups of lines that do not follow each other. -/
def divider (p : SearchPlan) : List Char :=
  if p.has "no-group-separator" then []
  else (lastValue? p.options "group-separator").getD ['-', '-'] ++ ['\n']

/-- Whether groups of lines are divided. -/
def hasContext (p : SearchPlan) : Bool :=
  !p.has "o" && ["A", "B", "C"].any p.has || p.options.any fun o => o.key.toList.all Char.isDigit

/-- What is printed of a text. The flag tells whether something with a context has been printed
  before. -/
def lines (p : SearchPlan) (name : Name) (ls : List (List Char)) (found : List Nat)
    (isFollowing : Bool) : List Char :=
  let chosen := if p.has "o" then found.map (·, true) else p.shown ls.length found
  let offsets := (ls.foldl (fun (acc : List Nat × Nat) l =>
    (acc.2 :: acc.1, acc.2 + l.length + 1)) ([], 0)).1.reverse
  let step (acc : List Char × Option Nat) (c : Nat × Bool) : List Char × Option Nat :=
    let (out, last) := acc
    let (n, isHit) := c
    let l := ls[n]?.getD []
    let offset := offsets[n]?.getD 0
    let gap := match last with
      | some m => m + 1 < n
      | none => isFollowing
    let top := if gap && p.hasContext then p.divider else []
    let body :=
      if p.has "o" then
        if p.has "v" then []
        else (p.parts l).flatMap fun (part, start) =>
          p.front name ':' (n + 1) (offset + start) ++ part ++ ['\n']
      else p.front name (if isHit then ':' else '-') (n + 1) offset ++ l ++ [p.mark]
    (out ++ top ++ body, some n)
  (chosen.foldl step ([], none)).1

/-- What is printed of a text as a whole: the number of hits, or its name. -/
def summary (p : SearchPlan) (name : Name) (count : Nat) : List Char :=
  let ending := if p.has "Z" then ['\x00'] else ['\n']
  (if p.has "c" && !p.has "q" && !p.has "l" && !p.has "L" then
    (if p.isNamed then name ++ (if p.has "Z" then ['\x00'] else [':']) else []) ++
      numeral count ++ ['\n']
    else []) ++
  (if p.has "q" then []
    else if p.has "l" then (if 0 < count then name ++ ending else [])
    else if p.has "L" then (if count = 0 then name ++ ending else [])
    else [])

end SearchPlan

/-- The dialect and the patterns that options ask for, as one expression. Without patterns nothing
  matches. -/
def searched (os : List GivenOption) (patterns : List (List Char)) :
    Except Regex.Fault (Option Regex) := do
  let mode := ((os.filter fun o => ["E", "F", "G", "P"].contains o.key).getLast?.map
    GivenOption.key).getD "G"
  let folds := match (os.filter fun o => ["i", "y", "no-ignore-case"].contains o.key).getLast? with
    | some o => o.key ≠ "no-ignore-case"
    | none => false
  let d : Regex.Dialect := { isExtended := mode = "E" || mode = "P", foldsCase := folds }
  let readOne (cs : List Char) : Except Regex.Fault Regex :=
    if mode = "F" then
      .ok (if folds then (Regex.ofText cs).folded else Regex.ofText cs)
    else Regex.read d cs
  let all ← patterns.mapM readOne
  let bounded (r : Regex) : Regex :=
    if givenIn os "x" then .sequence (.edge .start) (.sequence r (.edge .finish))
    else if givenIn os "w" then .sequence (.edge .freeBefore) (.sequence r (.edge .freeBehind))
    else r
  return match all with
    | [] => none
    | r :: rs => some (bounded (rs.foldl .choice r))

/-- The dialects of patterns by name. -/
def matchers : List String := ["grep", "egrep", "fgrep", "awk", "gawk", "posixawk", "perl"]

def grepFault? (sh : Shell) (o : GivenOption) : Option (List Char) :=
  let isNumber (v : List Char) : Bool := !v.isEmpty && v.all Char.isDigit
  match o.key, o.value with
  | "A", some v | "B", some v | "C", some v =>
    if isNumber v then none else some (v ++ bytes ": invalid context length argument")
  | "m", some v =>
    if isNumber v || (v.head? = some '-' && isNumber v.tail) then none
    else some (bytes "invalid max count")
  | "D", some v =>
    if v = bytes "read" || v = bytes "skip" then none else some (bytes "unknown devices method")
  | "d", some v => badChoice? sh "grep" "directories" v [["read"], ["recurse"], ["skip"]]
  | "X", some v =>
    if matchers.contains (String.ofList v) then none
    else some (bytes "invalid matcher " ++ v)
  | "binary-files", some v =>
    if v = bytes "binary" || v = bytes "text" || v = bytes "without-match" then none
    else some (bytes "unknown binary-files type")
  | _, _ => none

/-- The patterns that are given: by options, in files, or as the first operand. What is left are the
  names of files. -/
def patternsOf (os : List GivenOption) (sh : Shell) (operands : List (List Char)) :
    Option (Except (Name × PathFault) (List (List Char)) × List Name × Shell) :=
  let step (acc : Except (Name × PathFault) (List (List Char)) × Shell) (o : GivenOption) :
      Except (Name × PathFault) (List (List Char)) × Shell :=
    let (found, sh) := acc
    match found, o.key, o.value with
    | .ok ps, "e", some v => (.ok (ps ++ v.splitOn '\n'), sh)
    | .ok ps, "f", some name =>
      let (r, sh) := textOf sh name
      match r with
      | .ok cs => (.ok (ps ++ segments '\n' cs), sh)
      | .error f => (.error (name, f), sh)
    | found, _, _ => (found, sh)
  if givenIn os "e" || givenIn os "f" then
    let (found, sh) := os.foldl step (.ok [], sh)
    some (found, operands, sh)
  else
    match operands with
    | [] => none
    | p :: names => some (.ok (p.splitOn '\n'), names, sh)

/-- The files below a directory, with the paths that they go by. -/
def filesBelow (sh : Shell) (name : Name) : List Name :=
  match sh.files.resolve sh.directory name with
  | .error _ => []
  | .ok p =>
    (sh.files.below p).filterMap fun (way, item) =>
      match item.node with
      | .file _ =>
        let tail := ['/'].intercalate way
        some (if name.isEmpty then tail
          else if name.getLast? = some '/' then name ++ tail else name ++ '/' :: tail)
      | _ => none

/-- The names of the texts that are searched, where those of directories stand for what is in
  them. -/
def searchedNames (os : List GivenOption) (sh : Shell) (names : List Name) : List Name :=
  let isDeep := givenIn os "r" || givenIn os "R" || lastValue? os "d" = some (bytes "recurse")
  let fits (keys : String) (n : Name) : Bool := os.any fun o => o.key = keys && o.value.any fun g =>
    Glob.fits (Glob.parts (g.length + 1) g) ((n.splitOn '/').getLastD [])
  let isKept (n : Name) : Bool :=
    (!givenIn os "include" || fits "include" n) && !fits "exclude" n
  let isDirectory (n : Name) : Bool :=
    (sh.files.find sh.directory n).toOption = some .directory
  let expanded := names.flatMap fun n =>
    if isDirectory n then
      if isDeep then filesBelow sh n
      else if lastValue? os "d" = some (bytes "skip") then []
      else [n]
    else [n]
  if names.isEmpty then
    (if isDeep then ((filesBelow sh ['.']).map fun n => n.drop 2).filter isKept else [['-']])
  else expanded.filter fun n =>
    n = ['-'] || isKept n || isDirectory n ||
      (sh.files.find sh.directory n).toOption.isNone

/-- The text that a name stands for, as far as it is needed, and the shell when it has been
  taken. -/
def searchedText (p : SearchPlan) (sh : Shell) (name : Name) :
    Except PathFault (List Char) × Shell :=
  match p.enough, (if name = ['-'] then some 0 else none) with
  | some n, some d =>
    if !sh.isReadable d then (.error .badDescriptor, sh)
    else
      let isEnough (cs : List Char) : Bool :=
        let ls := segments p.mark cs
        n ≤ (p.hits (if isClosed p.mark cs then ls else ls.dropLast)).length
      let sh := Shell.fetch isEnough d Shell.waits sh
      let text := sh.unread d
      let ls := segments p.mark text
      let used := match (p.hits ls)[n - 1]? with
        | some last =>
          if p.has "q" || p.has "l" || p.has "L" then text.length
          else (closed p.mark (ls.take (last + 1))).length
        | none => text.length
      (.ok text, takeUsed sh d (if n = 0 then 0 else used) 32768)
  | _, _ => textOf sh name

/-- Searches one text. The flags tell whether something has been found, and whether something with a
  context has been printed. -/
def searchOne (p : SearchPlan) (acc : Shell × Bool × Bool) (name : Name) : Shell × Bool × Bool :=
  let (sh, isFound, isFollowing) := acc
  if (isFound && p.has "q") || !sh.goesOn then acc
  else
    let called := if name = ['-'] then
        (lastValue? p.options "label").getD (bytes "(standard input)")
      else name
    let (r, sh) := searchedText p sh name
    match r with
    | .error f =>
      let sh := if p.has "s" then sh.withStatus 2 else complain sh "grep" (bareFault called f) 2
      (if f = .isDirectory && p.isSummary then sh.print (p.summary called 0) else sh,
        isFound, isFollowing)
    | .ok cs =>
      let ls := segments p.mark cs
      let found := p.hits ls
      let binaryMode := (lastValue? p.options "binary-files").getD
        (if p.has "a" then bytes "text" else if p.has "I" then bytes "without-match" else [])
      let isBinary := cs.contains '\x00' && p.mark ≠ '\x00' && binaryMode ≠ bytes "text"
      let found := if isBinary && binaryMode = bytes "without-match" then [] else found
      let isHit := !found.isEmpty
      if p.isSummary then (sh.print (p.summary called found.length), isFound || isHit, isFollowing)
      else if isBinary && isHit then
        (sh.printLine (ownName sh "grep" ++ [':', ' '] ++ called ++ bytes ": binary file matches"),
          true, isFollowing)
      else
        let out := p.lines called ls found isFollowing
        (sh.print out, isFound || isHit, isFollowing || !out.isEmpty)

def grep : Builtin := withOptions "grep" 2 grepTable grepFault? fun os sh operands =>
  let number (key : String) : Option Nat := (lastValue? os key).map natural
  let digits := os.flatMap fun o => if o.key.toList.all Char.isDigit then o.key.toList else []
  let usual := (number "C").getD (natural digits)
  match patternsOf os sh operands with
  | none =>
    (sh.write 2 ((hint sh "grep").drop 1 ++ ['\n'])).withStatus 2
  | some (.error (name, f), _, sh) => complain sh "grep" (bareFault name f) 2
  | some (.ok patterns, names, sh) =>
    let kinds := (os.filterMap fun o =>
      if ["E", "F", "G", "P"].contains o.key then some o.key else none).eraseDups
    let most := if (lastValue? os "m").any fun v => v.head? = some '-' then none else number "m"
    match searched os patterns with
    | .error f =>
      if most = some 0 && !givenIn os "L" && kinds.length ≤ 1 then sh.withStatus 1
      else complain sh "grep" (bytes f.text) 2
    | .ok regex =>
      let isNamed := match (os.filter fun o => o.key = "H" || o.key = "h").getLast? with
        | some o => o.key = "H"
        | none => 1 < names.length || givenIn os "r" || givenIn os "R" ||
          lastValue? os "d" = some (bytes "recurse")
      let p : SearchPlan :=
        { regex
          options := os
          before := (number "B").getD usual
          after := (number "A").getD usual
          most
          mark := if givenIn os "z" then '\x00' else '\n'
          isNamed }
      if 1 < kinds.length then complain sh "grep" (bytes "conflicting matchers specified") 2
      else if most = some 0 && !givenIn os "L" then sh.withStatus 1
      else
        let (sh, isFound, _) :=
          (searchedNames os sh names).foldl (searchOne p) (sh.withStatus 0, false, false)
        if sh.status = 2 && !(p.has "q" && isFound) then sh
        else sh.withStatus (if isFound then 0 else 1)

end Utility

end Crond.Script
