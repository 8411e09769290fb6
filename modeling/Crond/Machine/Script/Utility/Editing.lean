import Crond.Machine.Script.Utility.EditScript

/-
  The program `sed`, which carries out an editing script on every line.

  What is being edited is the space; a second text is held beside it. At the end of a cycle the
  space is printed, and then what has been queued behind it.
-/

namespace Crond.Script

open Text Files

namespace Edit

/-- What is printed behind a line. -/
inductive Queued where
  | text (cs : List Char)
  | file (name : Name)

/-- How far a range of lines has come. -/
inductive RangeState where
  | upTo (n : Nat)
  /-- Up to a line that its end finds. -/
  | opened
  deriving DecidableEq, Repr

/-- Where lines come from. -/
inductive Source where
  | nowhere
  | input
  | file (name : Name)
  deriving DecidableEq, Repr

/-- How a cycle ends. -/
inductive Flow where
  /-- The space is printed. -/
  | printed
  | dropped
  /-- What is left of the space is edited again. -/
  | again
  | quit (status : Nat)

/-- What an editing run is to do. -/
structure Plan where
  instructions : List Instruction
  labels : List (List Char × Nat)
  closed : List (Nat × Nat)
  isQuiet : Bool
  mark : Char
  isSeparate : Bool
  /-- What is added to the names of files that are changed in place, to keep them as they were. -/
  inPlace : Option Name
  width : Nat

structure Editor where
  sh : Shell
  plan : Plan
  /-- The texts that are still to come. -/
  names : List Name
  source : Source := .nowhere
  /-- What has been taken from the source, and not been edited yet. -/
  buffer : List Char := []
  number : Nat := 0
  space : List Char := []
  /-- Whether the line in the space ends with its mark. -/
  hasEnd : Bool := true
  held : List Char := []
  heldHasEnd : Bool := true
  queue : List Queued := []
  ranges : List (Nat × RangeState) := []
  isReplaced : Bool := false
  /-- What has been printed, the latest first. -/
  out : List (List Char) := []
  outSize : Nat := 0
  /-- Whether what was printed last lacks the mark at its end. -/
  isCut : Bool := false
  lastRegex : Option Regex := none
  /-- The lines that are left of files that are read line by line. -/
  lineFiles : List (Name × List (List Char)) := []
  status : Nat := 0

namespace Editor

/-! ### Output -/

/-- Prints text that has been gathered. -/
def flush (e : Editor) : Editor :=
  { e with sh := e.sh.print e.out.reverse.flatten, out := [], outSize := 0 }

/-- As much text as is gathered before it is printed. -/
def outBlock : Nat := 4096

def emit (e : Editor) (cs : List Char) : Editor :=
  let full := if e.isCut then e.plan.mark :: cs else cs
  let e := { e with out := full :: e.out, outSize := e.outSize + full.length, isCut := false }
  if outBlock ≤ e.outSize && e.plan.inPlace.isNone then e.flush else e

/-- Prints a line, with its mark if it has one. -/
def putLine (e : Editor) (l : List Char) (hasEnd : Bool) : Editor :=
  let e := e.emit (if hasEnd then l ++ [e.plan.mark] else l)
  { e with isCut := !hasEnd }

def isStandardOutput (name : Name) : Bool := name = bytes "/dev/stdout"

/-- Writes a line to a file. -/
def writeLine (e : Editor) (name : Name) (l : List Char) (hasEnd : Bool) : Editor :=
  if isStandardOutput name then e.putLine l hasEnd
  else
    let text := if hasEnd then l ++ [e.plan.mark] else l
    match Utility.store e.sh name .appending text with
    | .ok sh => { e with sh }
    | .error _ => e

/-- Prints what has been queued. -/
def dump (e : Editor) : Editor :=
  let step (e : Editor) (q : Queued) : Editor :=
    match q with
    | .text cs => e.emit cs
    | .file name =>
      let (r, sh) := Utility.textOf e.sh (if name = bytes "/dev/stdin" then ['-'] else name)
      match r with
      | .ok [] => { e with sh }
      | .ok cs => { e with sh }.emit cs
      | .error _ => { e with sh }
  e.queue.foldl step { e with queue := [] }

/-! ### Input -/

/-- Whether there is a whole line, and something behind it. -/
def isEnough (mark : Char) (cs : List Char) : Bool :=
  match cs.dropWhile (· ≠ mark) with
  | _ :: _ :: _ => true
  | _ => false

/-- Takes more from the input if there may be need of it. -/
def fill (e : Editor) : Editor :=
  if e.source ≠ .input || isEnough e.plan.mark e.buffer then e
  else
    let sh := Shell.fetch (fun cs => isEnough e.plan.mark (e.buffer ++ cs)) 0 Shell.waits e.sh
    let cs := sh.unread 0
    { e with sh := sh.consume 0 cs.length, buffer := e.buffer ++ cs }

/-- Gives back what has been taken of a file that the input leads to. -/
def giveBack (e : Editor) : Editor :=
  match e.source, e.sh.channel? 0 with
  | .input, some (n, .file item position access) =>
    let sh := e.sh.setChannel n (.file item (position - e.buffer.length) access)
    { e with sh, buffer := [] }
  | _, _ => e

/-- The name under which a file is kept as it was. -/
def backupName (ending name : Name) : Name :=
  let base := (name.splitOn '/').getLastD []
  let front := name.take (name.length - base.length)
  let made := if ending.contains '*' then
      ending.flatMap fun c => if c = '*' then base else [c]
    else base ++ ending
  if made.contains '/' then made else front ++ made

/-- Ends what is done with a file: one that is changed in place gets what has been printed. -/
def leave (e : Editor) : Editor :=
  match e.plan.inPlace, e.source with
  | some ending, .file name =>
    let sh := e.sh
    let text := e.out.reverse.flatten
    match sh.files.resolve sh.directory name with
    | .ok p =>
      let rights := ((sh.files.item? p).map Item.rights).getD sh.newRights
      let kept := match ending, sh.files.resolve sh.directory (backupName ending name) with
        | [], _ | _, .error _ => sh.files
        | _, .ok q => sh.files.move p q
      let files := kept.put p (.file text) rights
      { e with
        sh := { sh with files }
        out := []
        outSize := 0
        isCut := false
        source := .nowhere }
    | .error _ => { e with source := .nowhere }
  | _, _ => { e with source := .nowhere }

/-- Begins with the next text there is. The flag tells whether there was one. -/
def enter (e : Editor) : Except (List Char) (Editor × Bool) :=
  let e := e.leave
  match e.names with
  | [] => .ok (e, false)
  | name :: names =>
    let number := if e.plan.isSeparate then 0 else e.number
    let e := { e with names, buffer := [], number }
    let fail (e : Editor) (message : List Char) : Editor :=
      { e with sh := Utility.complain e.sh "sed" message e.sh.status, status := 2 }
    if name = ['-'] && e.plan.inPlace.isNone then
      if e.sh.isReadable 0 then .ok ({ e with source := .input }.fill, true)
      else .error (bytes "read error on stdin: Bad file descriptor")
    else
      let (r, sh) := Utility.textOf e.sh name
      let e := { e with sh }
      match r, e.plan.inPlace with
      | .ok cs, _ => .ok ({ e with source := .file name, buffer := cs }, true)
      | .error .isDirectory, some _ =>
        .ok ({ e with
          sh := Utility.complain e.sh "sed"
            (bytes "couldn't edit " ++ name ++ bytes ": not a regular file") e.sh.status
          status := 4 }, true)
      | .error .isDirectory, none =>
        .error (bytes "read error on " ++ name ++ bytes ": Is a directory")
      | .error f, _ => .ok (fail e (bytes "can't read " ++ Utility.bareFault name f), true)

/-- Takes the next line. The number bounds the texts without any. -/
def readLine : Nat → Editor → Except (List Char) (Option (List Char × Bool) × Editor)
  | 0, e => .ok (none, e)
  | n + 1, e => do
    let e := e.fill
    match e.buffer with
    | [] =>
      match ← e.enter with
      | (e, true) => readLine n e
      | (e, false) => .ok (none, e)
    | cs =>
      let (l, rest) := cs.span (· ≠ e.plan.mark)
      .ok (some (l, !rest.isEmpty), { e with buffer := rest.drop 1, number := e.number + 1 })

/-- Whether there are no more lines. -/
def isLast (e : Editor) : Bool × Editor :=
  let e := e.fill
  if !e.buffer.isEmpty then (false, e)
  else if e.plan.isSeparate then (true, e)
  else
    let hasLines (name : Name) : Bool :=
      if name = ['-'] then !(Shell.fetch (!·.isEmpty) 0 Shell.waits e.sh |>.unread 0).isEmpty
      else !((Utility.textOf e.sh name).1.toOption.getD []).isEmpty
    (!e.names.any hasLines, e)

/-! ### Addresses -/

def noRegex : List Char := bytes "-e expression #1, char 0: no previous regular expression"

/-- The expression that is meant, which is the last one from then on. -/
def lastPattern (e : Editor) (r : Option Regex) : Except (List Char) (Regex × Editor) :=
  match r.or e.lastRegex with
  | some r => .ok (r, { e with lastRegex := some r })
  | none => .error noRegex

/-- Whether the line is one that an address means. -/
def isAt (e : Editor) (a : Address) : Except (List Char) (Bool × Editor) :=
  match a with
  | .line n => .ok (e.number = n, e)
  | .step first every => .ok (first ≤ e.number && (e.number - first) % every = 0, e)
  | .last => .ok e.isLast
  | .hits r => do
    let (r, e) ← e.lastPattern r
    return (r.isIn e.space, e)

def withRange (e : Editor) (at_ : Nat) (s : Option RangeState) : Editor :=
  let others := e.ranges.filter fun r => r.1 ≠ at_
  { e with ranges := match s with
      | some s => (at_, s) :: others
      | none => others }

/-- Whether a range begins with the line, and how far it goes. -/
def opens (e : Editor) (at_ : Nat) (low : Option Address) (high : Bound) :
    Except (List Char) (Bool × Editor) := do
  let (isHit, e) ← match low with
    | none => pure (false, e)
    | some a => e.isAt a
  if !isHit then return (false, e)
  else
    let upTo (n : Nat) : Option RangeState := if e.number < n then some (.upTo n) else none
    let state := match high with
      | .further n => upTo (e.number + n)
      | .multiple n => if n = 0 then none else upTo ((e.number / n + 1) * n)
      | .at (.line n) => upTo n
      | .at _ => some .opened
    return (true, e.withRange at_ state)

/-- Whether an instruction is for the line. -/
def selects (e : Editor) (at_ : Nat) (i : Instruction) : Except (List Char) (Bool × Editor) := do
  let (isHit, e) ← match i.high, e.ranges.lookup at_ with
    | none, _ =>
      match i.low with
      | none => pure (true, e)
      | some a => e.isAt a
    | some high, none => e.opens at_ i.low high
    | some high, some (.upTo n) =>
      if e.number < n then pure (true, e)
      else
        let e := e.withRange at_ none
        if e.number = n then pure (true, e) else e.opens at_ i.low high
    | some (.at a), some .opened => do
      let (isOver, e) ← e.isAt a
      pure (true, if isOver then e.withRange at_ none else e)
    | some _, some .opened => pure (true, e)
  return (isHit != i.isNegated, e)

/-! ### Substitution -/

/-- How letters are written: for all that follow, and for the next one. -/
structure Casing where
  all : CaseShift := .plain
  next : CaseShift := .plain

def Casing.apply (k : Casing) (cs : List Char) : List Char × Casing :=
  let shifted := match k.all with
    | .upper => cs.map Char.toUpper
    | .lower => cs.map Char.toLower
    | _ => cs
  match shifted, cs with
  | c :: rest, _ =>
    let first := match k.next with
      | .nextUpper => c.toUpper
      | .nextLower => c.toLower
      | _ => c
    (first :: rest, { k with next := .plain })
  | [], _ => ([], k)

/-- What takes the place of a match. -/
def replacement (ps : List Piece) (m : Regex.Match) : List Char :=
  (ps.foldl (fun (acc : List Char × Casing) p =>
    let (sofar, k) := acc
    let add (cs : List Char) : List Char × Casing :=
      let (made, k) := k.apply cs
      (sofar ++ made, k)
    match p with
    | .text cs => add cs
    | .group 0 => add m.matched
    | .group n => add ((m.groups.lookup n).getD [])
    | .shift .nextUpper => (sofar, { k with next := .nextUpper })
    | .shift .nextLower => (sofar, { k with next := .nextLower })
    | .shift s => (sofar, { all := s })) ([], {})).1

/-- The space with matches replaced, if there are any. -/
def substituted (s : Substitution) (r : Regex) (space : List Char) : Option (List Char) :=
  let (ms, rest) := r.all space
  if ms.length < s.number then none
  else
    let step (m : Regex.Match × Nat) : List Char :=
      let (m, n) := m
      m.before ++
        (if n = s.number || (s.isGlobal && s.number ≤ n) then replacement s.pieces m
        else m.matched)
    some ((ms.zipIdx 1).flatMap step ++ rest)

/-! ### Instructions -/

/-- A character as it is written where everything is to be visible. -/
def visible (c : Char) : List Char :=
  if c = '\\' then ['\\', '\\']
  else if Utility.isPrintable c then [c]
  else Utility.escapedByte c

/-- The space with everything visible, in lines of some width. -/
def listed (width : Nat) (cs : List Char) : List Char :=
  let step (acc : List Char × Nat) (c : Char) : List Char × Nat :=
    let shown := visible c
    if 0 < width && width ≤ acc.2 + shown.length then
      (shown.reverse ++ '\n' :: '\\' :: acc.1, shown.length)
    else (shown.reverse ++ acc.1, acc.2 + shown.length)
  ('$' :: (cs.foldl step ([], 0)).1).reverse

/-- Reads the next line in place of the space or behind it, if there is one. -/
def advance (e : Editor) (isMore : Bool) : Except (List Char) (Editor × Bool) := do
  let (isOver, e) := e.isLast
  if isOver && (!e.plan.isSeparate || e.names.isEmpty) then return (e, false)
  else
    let e := if isMore || e.plan.isQuiet then e else e.putLine e.space e.hasEnd
    let e := { e.dump with isReplaced := false }
    match ← readLine (e.names.length + 2) e with
    | (none, e) => return (e, false)
    | (some (l, hasEnd), e) =>
      return ({ e with space := if isMore then e.space ++ e.plan.mark :: l else l, hasEnd }, true)

/-- The rest of a file that is read line by line. -/
def linesLeft (e : Editor) (name : Name) : List (List Char) × Editor :=
  match e.lineFiles.lookup name with
  | some ls => (ls, e)
  | none =>
    let (r, sh) := Utility.textOf e.sh (if name = bytes "/dev/stdin" then ['-'] else name)
    (Utility.segments e.plan.mark (r.toOption.getD []), { e with sh })

/-- Carries out instructions from one on. The first number bounds them. -/
def carryOut : Nat → Nat → Editor → Except (List Char) (Editor × Flow)
  | 0, _, e => .ok (e, .printed)
  | fuel + 1, at_, e => do
    match e.plan.instructions[at_]? with
    | none => return (e, .printed)
    | some i =>
      let (isSelected, e) ← e.selects at_ i
      let goOn (e : Editor) : Except (List Char) (Editor × Flow) := carryOut fuel (at_ + 1) e
      let jump (label : List Char) (e : Editor) : Except (List Char) (Editor × Flow) :=
        if label.isEmpty then .ok (e, .printed)
        else carryOut fuel ((e.plan.labels.lookup label).getD 0) e
      if !isSelected then
        match i.action with
        | .block => carryOut fuel ((e.plan.closed.lookup at_).getD 0) e
        | _ => goOn e
      else
        match i.action with
        | .nothing | .block => goOn e
        | .substitute s =>
          let (r, e) ← e.lastPattern s.regex
          match substituted s r e.space with
          | none => goOn e
          | some space =>
            let e := { e with space, isReplaced := true }
            let e := if s.isPrinted then e.putLine space e.hasEnd else e
            goOn (match s.file with
              | some name => e.writeLine name space e.hasEnd
              | none => e)
        | .recode pairs =>
          goOn { e with space := e.space.map fun c => (pairs.lookup c).getD c }
        | .delete => return (e, .dropped)
        | .deleteFirst =>
          match e.space.dropWhile (· ≠ e.plan.mark) with
          | [] => return (e, .dropped)
          | _ :: rest => return ({ e with space := rest }, .again)
        | .print => goOn (e.putLine e.space e.hasEnd)
        | .printFirst => goOn (e.putLine (e.space.takeWhile (· ≠ e.plan.mark)) true)
        | .next =>
          match ← e.advance false with
          | (e, true) => goOn e
          | (e, false) => return (e, .printed)
        | .appendNext =>
          match ← e.advance true with
          | (e, true) => goOn e
          | (e, false) => return (e, .printed)
        | .hold => goOn { e with held := e.space, heldHasEnd := e.hasEnd }
        | .holdMore =>
          goOn { e with
            held := e.held ++ e.plan.mark :: e.space
            heldHasEnd := e.heldHasEnd || e.hasEnd }
        | .get => goOn { e with space := e.held, hasEnd := e.heldHasEnd }
        | .getMore =>
          goOn { e with
            space := e.space ++ e.plan.mark :: e.held
            hasEnd := e.hasEnd || e.heldHasEnd }
        | .exchange =>
          goOn { e with
            space := e.held
            hasEnd := e.heldHasEnd
            held := e.space
            heldHasEnd := e.hasEnd }
        | .append cs => goOn { e with queue := e.queue ++ [.text cs] }
        | .insert cs => goOn (e.emit cs)
        | .change cs =>
          let isOpen := (e.ranges.lookup at_).isSome && !i.isNegated
          return (if isOpen then e else e.emit cs, .dropped)
        | .number => goOn (e.emit (numeral e.number ++ ['\n']))
        | .showAll width => goOn (e.emit (listed (width.getD e.plan.width) e.space ++ ['\n']))
        | .quit status isPrinted =>
          if isPrinted then
            let e := if e.plan.isQuiet then e else e.putLine e.space e.hasEnd
            return (e.dump, .quit status)
          else return (e, .quit status)
        | .jump label => jump label e
        | .jumpIf isReplaced label =>
          if e.isReplaced = isReplaced then jump label { e with isReplaced := false }
          else goOn { e with isReplaced := false }
        | .readFile name => goOn { e with queue := e.queue ++ [.file name] }
        | .readLine name =>
          let (ls, e) := e.linesLeft name
          let e := { e with lineFiles := (name, ls.drop 1) :: e.lineFiles }
          goOn (match ls with
            | l :: _ => { e with queue := e.queue ++ [.text (l ++ [e.plan.mark])] }
            | [] => e)
        | .writeFile name => goOn (e.writeLine name e.space e.hasEnd)
        | .writeFirst name => goOn (e.writeLine name (e.space.takeWhile (· ≠ e.plan.mark)) true)
        | .fileName =>
          let name := match e.source with
            | .file name => name
            | _ => ['-']
          goOn (e.emit (name ++ ['\n']))
        | .clear => goOn { e with space := [] }

/-- As many instructions as are carried out for one line. -/
def patience : Nat := 1000000

/-- Edits line by line to the end. The number bounds the cycles, and the flag tells whether the
  space is edited again. -/
def cycles : Nat → Bool → Editor → Except (Editor × List Char) (Editor × Nat)
  | 0, _, e => .ok (e, e.status)
  | n + 1, isAgain, e =>
    let begun : Except (List Char) (Option Editor × Editor) := do
      if isAgain then return (some e, e)
      else
        match ← readLine (e.names.length + 2) { e with isReplaced := false } with
        | (none, e) => return (none, e)
        | (some (space, hasEnd), e) => return (some { e with space, hasEnd }, e)
    match begun with
    | .error message => .error (e, message)
    | .ok (none, e) => .ok (e, e.status)
    | .ok (some e, _) =>
      if !e.sh.goesOn then .ok (e, e.status)
      else
        match carryOut patience 0 e with
        | .error message => .error (e, message)
        | .ok (e, flow) =>
          match flow with
          | .printed =>
            let e := if e.plan.isQuiet then e else e.putLine e.space e.hasEnd
            cycles n false e.dump
          | .dropped => cycles n false e.dump
          | .again => cycles n true e.dump
          | .quit status => .ok (e, status)

end Editor

end Edit

namespace Utility

def sedTable : OptionTable where
  letters := "bsnrzuEe:f:l:i::V:hs"
  names := [("binary", "b"), ("regexp-extended", "r"), ("debug", ""), ("in-place", "i"),
    ("expression", "e"), ("file", "f"), ("line-length", "l"), ("null-data", "z"),
    ("zero-terminated", "z"), ("quiet", "n"), ("posix", ""), ("silent", "n"), ("sandbox", ""),
    ("separate", "s"), ("unbuffered", "u"), ("version", ""), ("help", "h"),
    ("follow-symlinks", "")]

/-- A part of a script, with what it is called in messages. -/
structure ScriptPart where
  /-- The file that it comes from; otherwise it is an expression with a number. -/
  file : Option Name
  number : Nat
  text : List Char

/-- How a place in a part of a script is told. -/
def ScriptPart.place (p : ScriptPart) (left : Nat) : List Char :=
  match p.file with
  | none =>
    bytes "-e expression #" ++ numeral p.number ++ bytes ", char " ++
      numeral (p.text.length - left) ++ [':', ' ']
  | some name =>
    let line := (p.text.take (p.text.length - left)).count '\n' + 1
    bytes "file " ++ name ++ bytes " line " ++ numeral line ++ [':', ' ']

/-- Whether a text ends with a backslash that protects what follows. -/
def endsOpen (cs : List Char) : Bool := (cs.reverse.takeWhile (· = '\\')).length % 2 = 1

/-- Puts parts together that belong together because the first ends with a backslash. -/
def joinParts : List ScriptPart → List ScriptPart
  | [] => []
  | p :: rest =>
    match joinParts rest with
    | [] => [p]
    | q :: more =>
      if p.file.isNone && q.file.isNone && endsOpen p.text then
        { p with text := p.text ++ '\n' :: q.text } :: more
      else p :: q :: more

/-- The parts of the script that options and operands make. What is left are the names of texts. -/
def scriptParts (os : List GivenOption) (sh : Shell) (operands : List (List Char)) :
    Except (List Char) (List ScriptPart × List Name × Shell) :=
  let step (acc : Except (List Char) (List ScriptPart × Shell)) (o : GivenOption) :
      Except (List Char) (List ScriptPart × Shell) := do
    let (ps, sh) ← acc
    let number := (ps.filter fun p => p.file.isNone).length + 1
    match o.key, o.value with
    | "e", some text => return (ps ++ [⟨none, number, text⟩], sh)
    | "f", some name =>
      let (r, sh) := textOf sh name
      match r with
      | .ok cs => return (ps ++ [⟨some name, 0, if isClosed '\n' cs then cs.dropLast else cs⟩], sh)
      | .error f => .error (bytes "couldn't open file " ++ bareFault name f)
    | _, _ => return (ps, sh)
  if givenIn os "e" || givenIn os "f" then do
    let (ps, sh) ← os.foldl step (.ok ([], sh))
    return (joinParts ps, operands, sh)
  else
    match operands with
    | [] => .error []
    | text :: names => .ok ([⟨none, 1, text⟩], names, sh)

/-- Reads all parts of a script. -/
def readParts (d : Regex.Dialect) (ps : List ScriptPart) : Except (List Char) Edit.Draft := do
  let s ← ps.foldlM (fun s p =>
    match Edit.steps d (p.text.length + 1) s p.text with
    | .ok s => .ok s
    | .error f =>
      if f.message = bytes Regex.Fault.bareClass.text then .error f.message
      else .error (p.place f.left ++ f.message)) ({} : Edit.Draft)
  match s.opened, s.missing? with
  | _ :: _, _ => .error (bytes "-e expression #1, char 0: unmatched \x60\x7b'")
  | [], some l => .error (bytes "can't find label for jump to \x60" ++ l ++ ['\''])
  | [], none => return s

/-- The files that a script writes to. -/
def writtenFiles (is : List Edit.Instruction) : List Name :=
  let names := is.filterMap fun i =>
    match i.action with
    | .writeFile n | .writeFirst n => some n
    | .substitute s => s.file
    | _ => none
  names.eraseDups.filter fun n => !Edit.Editor.isStandardOutput n && n ≠ bytes "/dev/stderr"

def sed : Builtin :=
  withOptions "sed" 1 sedTable faultless fun os sh operands =>
    match scriptParts os sh operands with
    | .error [] => sh.withStatus 1
    | .error message => complain sh "sed" message 4
    | .ok (parts, names, sh) =>
      let d : Regex.Dialect :=
        { isExtended := givenIn os "E" || givenIn os "r", isStrict := true }
      match readParts d parts with
      | .error message =>
        let isLate := (bytes "can't find").isPrefixOf message || message =
          bytes Regex.Fault.bareClass.text
        complain sh "sed" message (if isLate then 4 else 1)
      | .ok draft =>
        let instructions := draft.instructions.reverse
        let isSilenced := parts.head?.any fun p =>
          p.text = ['#', 'n'] || ['#', 'n', '\n'].isPrefixOf p.text
        let inPlace := if givenIn os "i" then some ((lastValue? os "i").getD []) else none
        let plan : Edit.Plan :=
          { instructions
            labels := draft.labels
            closed := draft.closed
            isQuiet := givenIn os "n" || isSilenced
            mark := if givenIn os "z" then '\x00' else '\n'
            isSeparate := givenIn os "s" || inPlace.isSome
            inPlace
            width := ((lastValue? os "l").map natural).getD 70 }
        let begin_ (sh : Shell) (name : Name) : Except (List Char) Shell :=
          (store sh name .writing []).mapError fun f =>
            bytes "couldn't open file " ++ bareFault name f
        let opened := (writtenFiles instructions).foldlM begin_ sh
        match opened with
        | .error message => complain sh "sed" message 4
        | .ok sh =>
          if inPlace.isSome && names.isEmpty then complain sh "sed" (bytes "no input files") 4
          else
            let ranges := instructions.zipIdx.filterMap fun (i, n) =>
              if i.fromStart then some (n, Edit.RangeState.opened) else none
            let names := if names.isEmpty then [['-']] else names
            let e : Edit.Editor := { sh, plan, names, ranges }
            match e.cycles 10000000 false with
            | .ok (e, status) =>
              let e := if inPlace.isSome then e.leave else e.flush
              e.giveBack.sh.withStatus (if e.sh.goesOn then status else e.sh.status)
            | .error (e, message) =>
              let status := if message = Edit.Editor.noRegex then 1 else 4
              complain e.flush.sh "sed" message status

end Utility

end Crond.Script
