import Crond.Machine.Script.Builtin.Basic
import Crond.Machine.Script.Redirect
import Crond.Machine.Script.Utility.Options

/-
  What the programs that a script can count on have in common: their options, the texts they are
  given by name, and how they complain.
-/

namespace Crond.Script

open Text Files

namespace Utility

/-! ### Names in messages -/

def isPrintable (c : Char) : Bool := ' ' ≤ c && c < '\x7f'

/-- Whether a character of a name means something to a shell. -/
def isSuspicious (c : Char) : Bool :=
  !isPrintable c || (bytes " !\"$&'()*:;<=>?[\\^|").contains c || c = backquote

/-- A byte as a backslash and three octal digits, or as a letter that stands for it. -/
def escapedByte (c : Char) : List Char :=
  match [('\x07', 'a'), ('\x08', 'b'), ('\t', 't'), ('\n', 'n'), ('\x0b', 'v'), ('\x0c', 'f'),
      ('\r', 'r')].lookup c with
  | some letter => ['\\', letter]
  | none =>
    let digits := Nat.toDigits 8 c.toNat
    '\\' :: List.replicate (3 - digits.length) '0' ++ digits

/-- A name in quotes, so that a shell would read it back. Where there are single quotes in it and
  nothing that double quotes leave a meaning, it stands between double quotes. -/
def inQuotes (name : Name) : List Char :=
  let isSimple := name.all fun c => isPrintable c && c ≠ '"' && c ≠ '$' && c ≠ '\\' &&
    c ≠ '!' && c ≠ backquote
  if name.contains '\'' && isSimple then '"' :: name ++ ['"']
  else
    let runs := name.splitBy fun a b => isPrintable a = isPrintable b
    let quoted := runs.map fun r =>
      if r.all isPrintable then
        '\'' :: (r.flatMap fun c => if c = '\'' then ['\'', '\\', '\'', '\''] else [c]) ++ ['\'']
      else '$' :: '\'' :: r.flatMap escapedByte ++ ['\'']
    let front := if (name.head?.map isPrintable).getD false then [] else ['\'', '\'']
    front ++ quoted.flatten

/-- A word in quotes, where a backslash stands before what does not show by itself. -/
def inEscapes (word : List Char) : List Char :=
  let shown (c : Char) : List Char :=
    if c = '\'' || c = '\\' then ['\\', c] else if isPrintable c then [c] else escapedByte c
  '\'' :: word.flatMap shown ++ ['\'']

/-- A name, in quotes if a shell would not read it back without. -/
def shownName (name : Name) : List Char :=
  let isRisky := name.isEmpty || name.any isSuspicious || name.head? = some '#' ||
    name.head? = some '~' || name = ['\x7b'] || name = ['\x7d']
  if isRisky then inQuotes name else name

/-- How most programs tell that a file cannot be read. -/
def plainFault (name : Name) (f : PathFault) : List Char :=
  shownName name ++ [':', ' '] ++ bytes f.text

/-- How some programs tell it, whatever the name is made of. -/
def bareFault (name : Name) (f : PathFault) : List Char := name ++ [':', ' '] ++ bytes f.text

def quotedFault (what : String) (name : Name) (f : PathFault) : List Char :=
  bytes what ++ ' ' :: inQuotes name ++ [':', ' '] ++ bytes f.text

/-! ### Programs -/

/-- What a program goes by: what it was called by if that is known. -/
def ownName (sh : Shell) (program : String) : List Char := sh.speaker.getD (bytes program)

/-- Writes a message that begins with the name of the program, and notes a status. -/
def complain (sh : Shell) (program : String) (message : List Char) (status : Nat) : Shell :=
  (sh.write 2 (ownName sh program ++ [':', ' '] ++ message ++ ['\n'])).withStatus status

/-- Points to the help that a program has to give. -/
def hint (sh : Shell) (program : String) : List Char :=
  let name := ownName sh program
  let front :=
    if program = "cmp" then name ++ [':', ' ']
    else if program = "grep" then
      bytes "Usage: " ++ name ++ bytes " [OPTION]... PATTERNS [FILE]...\n"
    else []
  '\n' :: front ++ bytes "Try '" ++ name ++ bytes " --help' for more information."

/-- Complains about how a program is used. -/
def misused (sh : Shell) (program : String) (message : List Char) (status : Nat) : Shell :=
  complain sh program (message ++ hint sh program) status

/-- Tells that an operand is missing. -/
def missingOperand (sh : Shell) (program : String) (what : List Char) : Shell :=
  misused sh program (bytes "missing " ++ what) 1

/-- Tells that there is an operand too many. -/
def extraOperand (sh : Shell) (program : String) (operand : List Char) (status : Nat) : Shell :=
  misused sh program (bytes "extra operand " ++ inEscapes operand) status

/-- Goes on with the options and the other arguments, or complains about the first that is wrong,
  and notes a status. What is wrong with the value of an option is said by a function of its own. -/
def withOptions (program : String) (status : Nat) (t : OptionTable)
    (fault? : Shell → GivenOption → Option (List Char))
    (k : List GivenOption → Builtin) : Builtin := fun sh args =>
  let s := t.read args
  match s.options.findSome? (fault? sh), s.fault? with
  | some message, _ => complain sh program message status
  | none, some message => complain sh program (message ++ hint sh program) status
  | none, none => k s.options sh s.operands

/-- The choice that a value means, which may be cut short. Each has one or more names. -/
def choice? (choices : List (List String)) (value : List Char) : Option String :=
  let first (fits : String → Bool) : Option String :=
    match choices.filter fun names => names.any fits with
    | [names] => names.head?
    | _ => none
  (first fun n => bytes n = value).or (first fun n => value.isPrefixOf (bytes n))

/-- What is said of the value of an option that is none of those that there are. -/
def badChoice? (sh : Shell) (program name : String) (value : List Char)
    (choices : List (List String)) : Option (List Char) :=
  let line (names : List String) : List Char :=
    bytes "\n  - " ++ [',', ' '].intercalate (names.map fun n => bytes ("'" ++ n ++ "'"))
  if (choice? choices value).isSome then none
  else
    some (bytes "invalid argument " ++ inEscapes value ++ bytes (" for '--" ++ name ++
      "'\nValid arguments are:") ++ choices.flatMap line ++ hint sh program)

/-- What is wrong with values where nothing can be. -/
def faultless (_ : Shell) (_ : GivenOption) : Option (List Char) := none

/-- Prints one piece after the other, as long as there are more, anyone can take them, and the first
  argument goes. The flag tells whether nobody could. -/
def pour (piece : Nat → List Char) : Nat → Nat → Shell → Shell × Bool
  | 0, _, sh => (sh, false)
  | fuel + 1, n, sh =>
    match piece n with
    | [] => (sh, false)
    | cs =>
      let after := sh.print cs
      if !after.goesOn then (after, false)
      else if (sh.writeFault? 1).isSome then (after, true)
      else pour piece fuel (n + 1) after

/-- Carries out something for every name. -/
def forAll (sh : Shell) (names : List Name) (act : Shell → Name → Shell) : Shell :=
  names.foldl (fun sh name => if sh.goesOn then act sh name else sh) (sh.withStatus 0)

/-- The descriptor that a program uses for a file that it opens by itself. -/
def ownDescriptor : Nat := 1000

/-- The text that a name stands for. For a dash that is what there is to read. -/
def textOf (sh : Shell) (name : Name) : Except PathFault (List Char) × Shell :=
  match (if name = ['-'] then some 0 else deviceDescriptor? name) with
  | some d =>
    let isReadable := sh.isReadable d
    let (cs, after) := sh.readAll d
    (if isReadable then .ok cs else .error .badDescriptor, after)
  | none =>
    match sh.files.resolve sh.directory name with
    | .error f => (.error f, sh)
    | .ok p =>
      match sh.files.node? p with
      | some (.pipe _) =>
        let (cs, after) := (sh.openPipe ownDescriptor p true).readAll ownDescriptor
        (.ok cs, after.close ownDescriptor)
      | _ => (sh.files.contents p, sh)

/-- Writes a text to a file, which is begun if it is not there. -/
def store (sh : Shell) (name : Name) (access : Access) (cs : List Char) :
    Except PathFault Shell := do
  match deviceDescriptor? name with
  | some d =>
    match sh.descriptors.lookup d with
    | some n => return ((sh.lead ownDescriptor n).write ownDescriptor cs).close ownDescriptor
    | none => .error .missing
  | none =>
    let opened ← sh.openOutput ownDescriptor name access
    return (opened.write ownDescriptor cs).close ownDescriptor

/-- Whether a name stands for a file, so that its size is known. -/
def isSized (sh : Shell) (name : Name) : Bool :=
  match (if name = ['-'] then some 0 else deviceDescriptor? name) with
  | some d =>
    match sh.channel? d with
    | some (_, .file _ _ _) => true
    | _ => false
  | none =>
    match sh.files.find sh.directory name with
    | .ok (.file _) => true
    | _ => false

/-- The texts that names stand for; without names that is what there is to read. -/
def load (sh : Shell) (names : List Name) : List (Name × Except PathFault (List Char)) × Shell :=
  (if names.isEmpty then [['-']] else names).foldl (fun (acc, sh) name =>
    let (r, after) := textOf sh name
    (acc ++ [(name, r)], after)) ([], sh)

/-- The texts that can be read, one after the other; what cannot be read is complained about. -/
def gather (sh : Shell) (program : String) (status : Nat)
    (message : Name → PathFault → List Char) (names : List Name) : List Char × Shell :=
  let (loaded, sh) := load sh names
  loaded.foldl (fun (acc, sh) (name, r) =>
    match r with
    | .ok cs => (acc ++ cs, sh)
    | .error f => (acc, complain sh program (message name f) status)) ([], sh.withStatus 0)

/-! ### Lines and numbers -/

def linesOf (cs : List Char) : List (List Char) :=
  (pieces cs).map fun p => p.filter (· ≠ '\n')

def unlines (ls : List (List Char)) : List Char := ls.flatMap (· ++ ['\n'])

/-- Pieces of a text that end with a mark, without it. -/
def segments (mark : Char) (cs : List Char) : List (List Char) :=
  match (cs.splitOn mark).reverse with
  | [] :: front => front.reverse
  | all => all.reverse

/-- Whether a text of such pieces ends with its mark. -/
def isClosed (mark : Char) (cs : List Char) : Bool := cs.isEmpty || cs.getLast? = some mark

def closed (mark : Char) (ls : List (List Char)) : List Char := ls.flatMap (· ++ [mark])

def natural (cs : List Char) : Nat := (Builtin.natural? cs).getD 0

/-- What a suffix multiplies a number by. -/
def factorOf? (cs : List Char) : Option Nat :=
  let power (c : Char) : Option Nat :=
    (['K', 'M', 'G', 'T', 'P', 'E', 'Z', 'Y'].findIdx? (· = c.toUpper)).map (· + 1)
  match cs with
  | [] => some 1
  | ['b'] => some 512
  | [c] => if c = 'g' || c = 't' || c = 'p' then none else (power c).map fun n => Nat.pow 1024 n
  | [c, 'B'] => (power c).map fun n => Nat.pow 1000 n
  | [c, 'i', 'B'] => (power c).map fun n => Nat.pow 1024 n
  | _ => none

/-- A number that can have a suffix. -/
def sizeOf? (cs : List Char) : Option Nat :=
  let bare := match cs.dropWhile isSpace with
    | '+' :: rest => rest
    | rest => rest
  let (digits, suffix) := bare.span Char.isDigit
  match digits, suffix with
  | [], [] => none
  | [], suffix => factorOf? suffix
  | ds, suffix => (factorOf? suffix).map fun f => f * digitsValue 10 ds

/-- A number with blanks in front. -/
def aligned (width n : Nat) : List Char :=
  List.replicate (width - (numeral n).length) ' ' ++ numeral n

end Utility

end Crond.Script
