import Crond.Machine.Script.Regex
import Crond.Machine.Script.Utility.Basic

/-
  Editing scripts: instructions for lines, and how they are written.

  An instruction is a letter, mostly with something behind it, and in front of it there can be the
  lines that it is for. What is wrong is told with the place as far as which the script has been
  read.
-/

namespace Crond.Script

open Text Files

/-! ### Instructions -/

namespace Edit

/-- A line that an instruction is for. Without an expression the last one that was used counts. -/
inductive Address where
  | line (n : Nat)
  | step (first every : Nat)
  | last
  | hits (r : Option Regex)

/-- Where a range of lines ends. -/
inductive Bound where
  | at (a : Address)
  /-- So many lines further. -/
  | further (n : Nat)
  /-- The next line with a number that something divides. -/
  | multiple (n : Nat)

/-- In which case letters are written. -/
inductive CaseShift where
  | upper
  | lower
  | nextUpper
  | nextLower
  | plain
  deriving DecidableEq, Repr

/-- A piece of what takes the place of a match. Group zero is the match. -/
inductive Piece where
  | text (cs : List Char)
  | group (n : Nat)
  | shift (s : CaseShift)

structure Substitution where
  regex : Option Regex
  pieces : List Piece
  isGlobal : Bool := false
  isPrinted : Bool := false
  number : Nat := 1
  file : Option Name := none

inductive Action where
  | nothing
  /-- Begins a block. If the line is not one for it, it goes on behind the block. -/
  | block
  | substitute (s : Substitution)
  | recode (pairs : List (Char × Char))
  | delete
  | deleteFirst
  | print
  | printFirst
  | next
  | appendNext
  | hold
  | holdMore
  | get
  | getMore
  | exchange
  | append (cs : List Char)
  | insert (cs : List Char)
  | change (cs : List Char)
  | number
  | showAll (width : Option Nat)
  | quit (status : Nat) (isPrinted : Bool)
  /-- Goes on behind a label, or at the end if it is empty. -/
  | jump (label : List Char)
  | jumpIf (isReplaced : Bool) (label : List Char)
  | readFile (name : Name)
  | readLine (name : Name)
  | writeFile (name : Name)
  | writeFirst (name : Name)
  | fileName
  | clear

structure Instruction where
  low : Option Address := none
  /-- Whether the range begins before the first line. -/
  fromStart : Bool := false
  high : Option Bound := none
  isNegated : Bool := false
  action : Action

/-! ### Reading -/

/-- What is wrong, and how much of the script is left. -/
structure Fault where
  message : List Char
  left : Nat

def fail {α : Type} (message : String) (rest : List Char) : Except Fault α :=
  .error ⟨bytes message, rest.length⟩

def isBlank (c : Char) : Bool := c = ' ' || c = '\t'

/-- The set in brackets at the front of a text behind the opening bracket, if it is closed in its
  line, and what follows it. -/
def setAt? (cs : List Char) : Option (List Char × List Char) :=
  let front : Nat :=
    match cs with
    | '^' :: ']' :: _ => 2
    | ']' :: _ | '^' :: _ => 1
    | _ => 0
  let rec go : Nat → List Char → Option (List Char × List Char)
    | 0, _ => none
    | _, [] => none
    | n + 1, '[' :: c :: rest =>
      if c = ':' || c = '.' || c = '=' then
        match rest.span (· ≠ c) with
        | (name, _ :: ']' :: rest) =>
          (go n rest).map fun (inside, rest) => ('[' :: c :: name ++ c :: ']' :: inside, rest)
        | _ => none
      else (go n (c :: rest)).map fun (inside, rest) => ('[' :: inside, rest)
    | _, ']' :: rest => some ([']'], rest)
    | _, '\n' :: _ => none
    | n + 1, '\\' :: 'n' :: rest =>
      (go n rest).map fun (inside, rest) => ('\n' :: inside, rest)
    | n + 1, c :: rest => (go n rest).map fun (inside, rest) => (c :: inside, rest)
  (go (cs.length + 1) (cs.drop front)).map fun (inside, rest) => (cs.take front ++ inside, rest)

/-- The text up to a mark that no backslash protects, and what follows the mark; or else where it is
  broken off. The flag tells whether it is an expression, in which a set can hold the mark. The
  number bounds the characters. -/
def upTo (mark : Char) (isRegex : Bool) :
    Nat → List Char → Except (List Char) (List Char × List Char)
  | 0, cs => .error cs
  | _, [] => .error []
  | _, ['\\'] => .error []
  | n + 1, '\\' :: c :: cs =>
    let taken : List Char :=
      if c = 'n' && isRegex then ['\n']
      else if c = '\n' then ['\n']
      else if c = mark && (isRegex || c ≠ '&') then [c]
      else ['\\', c]
    (upTo mark isRegex n cs).map fun (inside, rest) => (taken ++ inside, rest)
  | n + 1, c :: cs =>
    if c = mark then .ok ([], cs)
    else if c = '\n' then .error (c :: cs)
    else if c = '[' && isRegex then
      match setAt? cs with
      | some (set, rest) =>
        (upTo mark isRegex n rest).map fun (inside, rest) => ('[' :: set ++ inside, rest)
      | none => .error (cs.dropWhile (· ≠ '\n'))
    else (upTo mark isRegex n cs).map fun (inside, rest) => (c :: inside, rest)

/-- The text up to a mark, or a complaint that tells where it is broken off. -/
def between (mark : Char) (isRegex : Bool) (message : String) (cs : List Char) :
    Except Fault (List Char × List Char) :=
  match upTo mark isRegex (cs.length + 1) cs with
  | .ok r => .ok r
  | .error rest => fail message rest

/-- The character that an escape stands for: a letter, a number, or a control character. -/
def escape? (cs : List Char) : Option (Char × List Char) :=
  let numbered (base most : Nat) (rest : List Char) : Option (Char × List Char) :=
    let ds := (rest.take most).takeWhile fun d => (digitOf? base d).isSome
    if ds.isEmpty then none
    else some (Char.ofNat (digitsValue base ds % 256), rest.drop ds.length)
  match cs with
  | 'a' :: rest => some ('\x07', rest)
  | 'f' :: rest => some ('\x0c', rest)
  | 'r' :: rest => some ('\r', rest)
  | 't' :: rest => some ('\t', rest)
  | 'v' :: rest => some ('\x0b', rest)
  | 'c' :: c :: rest => some (Char.ofNat ((c.toUpper.toNat) ^^^ 64), rest)
  | 'd' :: rest => numbered 10 3 rest
  | 'o' :: rest => numbered 8 3 rest
  | 'x' :: rest => numbered 16 2 rest
  | _ => none

/-- An expression with its escapes replaced. What they stand for has no meaning of its own. The
  number bounds the characters. -/
def plainRegex : Nat → List Char → List Char
  | 0, _ => []
  | _, [] => []
  | n + 1, '\\' :: cs =>
    match escape? cs, cs with
    | some (c, rest), _ =>
      let isNumbered := cs.head?.any fun d => d = 'd' || d = 'o' || d = 'x'
      let hasMeaning := (bytes "*[]\\.^$/+?\x7b\x7d()|").contains c
      (if hasMeaning && isNumbered then ['\\', c] else [c]) ++ plainRegex n rest
    | none, c :: rest => '\\' :: c :: plainRegex n rest
    | none, [] => ['\\']
  | n + 1, c :: cs => c :: plainRegex n cs

/-- Reads an expression that is written out; an empty one stands for the last that was used. -/
def regexOf (d : Regex.Dialect) (cs rest : List Char) : Except Fault (Option Regex) :=
  if cs.isEmpty then .ok none
  else
    match Regex.read d (plainRegex (cs.length + 1) cs) with
    | .ok r => .ok (some r)
    | .error f => .error ⟨bytes f.text, rest.length⟩

def digits (cs : List Char) : Nat × List Char :=
  let (ds, rest) := cs.span Char.isDigit
  (digitsValue 10 ds, rest)

/-- The address at the front of a text, if there is one. -/
def address? (d : Regex.Dialect) (cs : List Char) : Except Fault (Option Address × List Char) := do
  let regex (mark : Char) (body : List Char) : Except Fault (Option Address × List Char) := do
    let (pattern, rest) ← between mark true "unterminated address regex" body
    let (flags, rest) := rest.span fun c => c = 'I' || c = 'M' || isBlank c
    let d := { d with foldsCase := flags.contains 'I', hasLines := flags.contains 'M' }
    return (some (.hits (← regexOf d pattern rest)), rest)
  match cs with
  | '$' :: rest => return (some .last, rest)
  | '/' :: rest => regex '/' rest
  | '\\' :: mark :: rest => regex mark rest
  | c :: _ =>
    if !c.isDigit then return (none, cs)
    else
      let (n, rest) := digits cs
      match rest.dropWhile isBlank with
      | '~' :: more =>
        let (every, rest) := digits (more.dropWhile isBlank)
        return (some (if every = 0 then .line n else .step n every), rest)
      | _ => return (some (.line n), rest)
  | [] => return (none, [])

/-- The end of a range behind its comma. -/
def bound? (d : Regex.Dialect) (cs : List Char) : Except Fault (Option Bound × List Char) := do
  match cs with
  | '+' :: rest =>
    let (n, rest) := digits (rest.dropWhile isBlank)
    return (some (.further n), rest)
  | '~' :: rest =>
    let (n, rest) := digits (rest.dropWhile isBlank)
    return (some (.multiple n), rest)
  | cs =>
    let (a, rest) ← address? d cs
    return (a.map .at, rest)

/-- Goes on behind an instruction: nothing else can stand there. -/
def ended (cs : List Char) : Except Fault (List Char) :=
  match cs.dropWhile isBlank with
  | [] => .ok []
  | c :: rest =>
    if c = '\n' || c = ';' then .ok rest
    else if c = '\x7d' || c = '#' then .ok (c :: rest)
    else if c = '\r' then .ok rest
    else fail "extra characters after command" rest

/-- The rest of a line, and what is behind it. -/
def lineOf (cs : List Char) : List Char × List Char :=
  let (l, rest) := cs.span (· ≠ '\n')
  (l, rest.drop 1)

/-- The text of an instruction up to the end of its last line. A backslash protects the end of a
  line, or takes itself away. -/
def textUp : Nat → List Char → List Char × List Char
  | 0, _ => ([], [])
  | _, [] => ([], [])
  | _, ['\\'] => ([], [])
  | _, '\n' :: rest => ([], rest)
  | n + 1, '\\' :: cs =>
    match escape? cs, cs with
    | some (c, rest), _ =>
      let (text, rest) := textUp n rest
      (c :: text, rest)
    | none, 'n' :: rest =>
      let (text, rest) := textUp n rest
      ('\n' :: text, rest)
    | none, c :: rest =>
      let (text, rest) := textUp n rest
      (c :: text, rest)
    | none, [] => ([], [])
  | n + 1, c :: cs =>
    let (text, rest) := textUp n cs
    (c :: text, rest)

/-- The text behind one of the letters for texts. -/
def textOf (cs : List Char) : Except Fault (List Char × List Char) :=
  let finish (body : List Char) : Except Fault (List Char × List Char) :=
    let (text, rest) := textUp (body.length + 1) body
    .ok (text ++ ['\n'], rest)
  match cs.dropWhile isBlank with
  | [] => fail "expected \\ after \x60a', \x60c' or \x60i'" []
  | '\\' :: body =>
    match body.dropWhile isBlank with
    | '\n' :: body => finish body
    | [] => if body.isEmpty then .ok ([], []) else finish body
    | _ => finish body
  | body => finish body

/-- The pieces of what takes the place of a match. The number bounds them. -/
def pieces : Nat → List Char → List Piece
  | 0, _ => []
  | _, [] => []
  | n + 1, '&' :: cs => .group 0 :: pieces n cs
  | n + 1, '\\' :: cs =>
    match cs with
    | [] => [.text ['\\']]
    | c :: rest =>
      if c.isDigit then .group (c.toNat - '0'.toNat) :: pieces n rest
      else
        match c with
        | 'U' => .shift .upper :: pieces n rest
        | 'L' => .shift .lower :: pieces n rest
        | 'u' => .shift .nextUpper :: pieces n rest
        | 'l' => .shift .nextLower :: pieces n rest
        | 'E' => .shift .plain :: pieces n rest
        | 'n' => .text ['\n'] :: pieces n rest
        | c =>
          match escape? cs with
          | some (e, rest) => .text [e] :: pieces n rest
          | none => .text [c] :: pieces n rest
  | n + 1, c :: cs => .text [c] :: pieces n cs

/-- What stands behind a substitution. -/
structure Flags where
  isGlobal : Bool := false
  isPrinted : Bool := false
  foldsCase : Bool := false
  hasLines : Bool := false
  number : Option Nat := none
  file : Option Name := none

/-- Reads what stands behind a substitution. The number bounds the letters. -/
def flagsOf : Nat → Flags → List Char → Except Fault (Flags × List Char)
  | 0, f, cs => .ok (f, cs)
  | _, f, [] => .ok (f, [])
  | n + 1, f, c :: cs =>
    match c with
    | 'g' =>
      if f.isGlobal then fail "multiple \x60g' options to \x60s' command" cs
      else flagsOf n { f with isGlobal := true } cs
    | 'p' =>
      if f.isPrinted then fail "multiple \x60p' options to \x60s' command" cs
      else flagsOf n { f with isPrinted := true } cs
    | 'i' | 'I' => flagsOf n { f with foldsCase := true } cs
    | 'm' | 'M' => flagsOf n { f with hasLines := true } cs
    | ' ' => flagsOf n f cs
    | 'w' =>
      let (name, rest) := lineOf (cs.dropWhile isBlank)
      if name.isEmpty then fail "missing filename in r/R/w/W commands" rest
      else .ok ({ f with file := some name }, rest)
    | '\n' | ';' => .ok (f, cs)
    | '\x7d' | '#' => .ok (f, c :: cs)
    | c =>
      if c.isDigit then
        let (k, rest) := digits (c :: cs)
        if f.number.isSome then fail "multiple number options to \x60s' command" rest
        else if k = 0 then fail "number option to \x60s' command may not be zero" rest
        else flagsOf n { f with number := some k } rest
      else fail "unknown option to \x60s'" cs

/-- Reads a substitution behind its letter. -/
def substitution (d : Regex.Dialect) (cs : List Char) :
    Except Fault (Substitution × List Char) := do
  match cs with
  | [] => fail "unterminated \x60s' command" []
  | mark :: body =>
    let (pattern, body) ← between mark true "unterminated \x60s' command" body
    let (text, body) ← between mark false "unterminated \x60s' command" body
    let (f, rest) ← flagsOf (body.length + 1) {} body
    let regex ← regexOf { d with foldsCase := f.foldsCase, hasLines := f.hasLines } pattern rest
    let made := pieces (text.length + 1) text
    let most := made.foldl (fun n p =>
      match p with
      | .group k => max n k
      | _ => n) 0
    match regex with
    | some r =>
      if r.groupCount < most then
        .error ⟨bytes s!"invalid reference \\{most} on \x60s' command's RHS", rest.length⟩
      else pure ()
    | none => pure ()
    return ({ regex, pieces := made, isGlobal := f.isGlobal, isPrinted := f.isPrinted,
              number := f.number.getD 1, file := f.file }, rest)

/-- The characters of one side of a recoding. -/
def recoded : Nat → List Char → List Char
  | 0, _ => []
  | _, [] => []
  | n + 1, '\\' :: cs =>
    match escape? cs, cs with
    | some (c, rest), _ => c :: recoded n rest
    | none, '\\' :: rest => '\\' :: recoded n rest
    | none, 'n' :: rest => '\n' :: recoded n rest
    | none, rest => '\\' :: recoded n rest
  | n + 1, c :: cs => c :: recoded n cs

/-- Reads a recoding behind its letter. -/
def recoding (cs : List Char) : Except Fault (List (Char × Char) × List Char) := do
  match cs with
  | [] => fail "unterminated \x60y' command" []
  | mark :: body =>
    let (old, body) ← between mark false "unterminated \x60y' command" body
    let (new, rest) ← between mark false "unterminated \x60y' command" body
    let old := recoded (old.length + 1) old
    let new := recoded (new.length + 1) new
    if old.length ≠ new.length then fail "strings for \x60y' command are different lengths" rest
    else return (old.zip new, ← ended rest)

/-- A label: all up to a blank, a semicolon or the end of a block. -/
def labelOf (cs : List Char) : List Char × List Char :=
  let (name, rest) := (cs.dropWhile isBlank).span fun c => !isSpace c && c ≠ ';' && c ≠ '\x7d'
  (name, if rest.head? = some '\x7d' then rest else rest.drop 1)

/-- The action that a letter stands for, with what belongs to it. The flags tell whether there is an
  address, and whether there are two. -/
def action (d : Regex.Dialect) (hasAddress isRange : Bool) (c : Char) (cs : List Char) :
    Except Fault (Action × List Char) := do
  let plain (a : Action) : Except Fault (Action × List Char) := do return (a, ← ended cs)
  let named (make : Name → Action) : Except Fault (Action × List Char) :=
    let (name, rest) := lineOf (cs.dropWhile isBlank)
    if name.isEmpty then fail "missing filename in r/R/w/W commands" cs else .ok (make name, rest)
  let texted (make : List Char → Action) : Except Fault (Action × List Char) := do
    let (text, rest) ← textOf cs
    return (make text, rest)
  let jumping (make : List Char → Action) : Except Fault (Action × List Char) :=
    let (name, rest) := labelOf cs
    .ok (make name, rest)
  let counted (make : Option Nat → Action) : Except Fault (Action × List Char) := do
    let rest := cs.dropWhile isBlank
    if rest.head?.any Char.isDigit then
      let (n, rest) := digits rest
      return (make (some n), ← ended rest)
    else return (make none, ← ended rest)
  match c with
  | 's' => do
    let (s, rest) ← substitution d cs
    return (.substitute s, rest)
  | 'y' => do
    let (pairs, rest) ← recoding cs
    return (.recode pairs, rest)
  | 'd' => plain .delete
  | 'D' => plain .deleteFirst
  | 'p' => plain .print
  | 'P' => plain .printFirst
  | 'n' => plain .next
  | 'N' => plain .appendNext
  | 'h' => plain .hold
  | 'H' => plain .holdMore
  | 'g' => plain .get
  | 'G' => plain .getMore
  | 'x' => plain .exchange
  | 'a' => texted .append
  | 'i' => texted .insert
  | 'c' => texted .change
  | '=' => plain .number
  | 'l' => counted .showAll
  | 'q' | 'Q' =>
    if isRange then fail "command only uses one address" cs
    else counted fun n => .quit (n.getD 0) (c = 'q')
  | 'b' => jumping .jump
  | 't' => jumping (.jumpIf true)
  | 'T' => jumping (.jumpIf false)
  | 'r' => named .readFile
  | 'R' => named .readLine
  | 'w' => named .writeFile
  | 'W' => named .writeFirst
  | 'F' => plain .fileName
  | 'z' => plain .clear
  | 'v' => .ok (.nothing, (lineOf cs).2)
  | '#' =>
    if hasAddress then fail "comments don't accept any addresses" cs
    else .ok (.nothing, (lineOf cs).2)
  | c => .error ⟨bytes "unknown command: \x60" ++ [c, '\''], cs.length⟩

/-! ### Whole scripts -/

/-- A script being read: the instructions so far, the latest first, the labels with the number of
  the instruction behind them, and the blocks that are open. -/
structure Draft where
  instructions : List Instruction := []
  labels : List (List Char × Nat) := []
  opened : List Nat := []
  /-- The ends of blocks: where each begins, and what follows it. -/
  closed : List (Nat × Nat) := []

def Draft.size (s : Draft) : Nat := s.instructions.length

def Draft.add (s : Draft) (i : Instruction) : Draft :=
  { s with instructions := i :: s.instructions }

/-- Reads one instruction. -/
def step (d : Regex.Dialect) (s : Draft) (cs : List Char) : Except Fault (Draft × List Char) := do
  let (low, rest) ← address? d cs
  let (low, rest) ← match low, rest with
    | none, '+' :: more | none, '~' :: more =>
      fail "invalid usage of +N or ~N as first address" (digits (more.dropWhile isBlank)).2
    | low, rest => pure (low, rest)
  let rest := if low.isSome then rest.dropWhile isBlank else rest
  let (high, rest) ← match low, rest with
    | some _, ',' :: more =>
      match (← bound? d (more.dropWhile isBlank)) with
      | (some b, rest) => pure (some b, rest.dropWhile isBlank)
      | (none, rest) => fail "unexpected \x60,'" (rest.drop 1)
    | _, rest => pure (none, rest)
  let isZero := match low with
    | some (.line 0) => true
    | _ => false
  let isHit := match high with
    | some (.at (.hits _)) => true
    | _ => false
  if isZero && !isHit then fail "invalid usage of line address 0" (rest.drop 1)
  let (isNegated, rest) ← match rest with
    | '!' :: rest =>
      match rest.dropWhile isBlank with
      | '!' :: rest => fail "multiple \x60!'s" rest
      | rest => pure (true, rest)
    | rest => pure (false, rest)
  let i : Instruction :=
    { low := if isZero then none else low, fromStart := isZero, high, isNegated,
      action := .nothing }
  match rest with
  | [] => fail "missing command" []
  | '\x7b' :: rest =>
    return ({ s with opened := s.size :: s.opened }.add { i with action := .block }, rest)
  | '\x7d' :: rest =>
    match s.opened with
    | [] => fail "unexpected \x60\x7d'" rest
    | b :: opened =>
      if low.isSome then fail "\x7d doesn't want any addresses" rest
      else
        return ({ s with opened, closed := (b, s.size) :: s.closed }, ← ended rest)
  | ':' :: rest =>
    if low.isSome then fail ": doesn't want any addresses" rest
    else
      let (name, rest') := labelOf rest
      if name.isEmpty then fail "\":\" lacks a label" rest
      else return ({ s with labels := (name, s.size) :: s.labels }, rest')
  | c :: rest =>
    let (a, rest) ← action d low.isSome high.isSome c rest
    return (s.add { i with action := a }, rest)

/-- Reads instructions to the end of a text. The number bounds them. -/
def steps (d : Regex.Dialect) : Nat → Draft → List Char → Except Fault Draft
  | 0, s, _ => .ok s
  | n + 1, s, cs =>
    match cs.dropWhile fun c => c = ';' || isSpace c with
    | [] => .ok s
    | cs => do
      let (s, rest) ← step d s cs
      steps d n s rest

/-- The label that an action goes to, if it is one. -/
def Action.label? : Action → Option (List Char)
  | .jump l | .jumpIf _ l => if l.isEmpty then none else some l
  | _ => none

/-- The first label that there is none for. -/
def Draft.missing? (s : Draft) : Option (List Char) :=
  (s.instructions.reverse.filterMap fun i => i.action.label?).find? fun l =>
    (s.labels.lookup l).isNone

end Edit

end Crond.Script
