import Crond.Machine.Script.Utility.Basic

/-
  The program `cat`: files one after the other, as they are or with everything in them visible.
-/

namespace Crond.Script

open Text Files

namespace Utility

/-- How a text is shown. -/
structure Display where
  numbersAll : Bool := false
  numbersFilled : Bool := false
  squeezes : Bool := false
  marksEnds : Bool := false
  marksTabs : Bool := false
  marksOthers : Bool := false
  deriving DecidableEq, Repr

/-- What a letter of an option asks for. -/
def Display.with (d : Display) (letter : Char) : Display :=
  match letter with
  | 'A' => { d with marksEnds := true, marksTabs := true, marksOthers := true }
  | 'b' => { d with numbersFilled := true }
  | 'e' => { d with marksEnds := true, marksOthers := true }
  | 'E' => { d with marksEnds := true }
  | 'n' => { d with numbersAll := true }
  | 's' => { d with squeezes := true }
  | 't' => { d with marksTabs := true, marksOthers := true }
  | 'T' => { d with marksTabs := true }
  | 'v' => { d with marksOthers := true }
  | _ => d

/-- How far a text has been shown. -/
structure Shown where
  lines : Nat := 0
  /-- Whether a line is about to begin. -/
  isFresh : Bool := true
  /-- Whether the last line was empty. -/
  wasEmpty : Bool := false

/-- A character of 7 bits made visible. -/
def visible (d : Display) (n : Nat) : List Char :=
  if n = 127 then ['^', '?']
  else if n = 9 && !d.marksTabs then ['\t']
  else if n < 32 then ['^', Char.ofNat (n + 64)]
  else [Char.ofNat n]

/-- A character as it is shown. -/
def Display.char (d : Display) (c : Char) : List Char :=
  if c = '\t' then (if d.marksTabs then ['^', 'I'] else [c])
  else if !d.marksOthers then [c]
  else if c.toNat < 128 then visible d c.toNat
  else 'M' :: '-' :: visible { d with marksTabs := true } (c.toNat - 128)

/-- A line, or what there is of one, as it is shown. -/
def Display.line (d : Display) (s : Shown) (piece : List Char) : List Char × Shown :=
  let isEmpty := s.isFresh && piece = ['\n']
  let hasEnd := piece.getLast? = some '\n'
  let body := (piece.filter (· ≠ '\n')).flatMap d.char
  let ending := if hasEnd then (if d.marksEnds then ['$', '\n'] else ['\n']) else []
  let isNumbered :=
    s.isFresh && (if d.numbersFilled then !isEmpty else d.numbersAll)
  if d.squeezes && isEmpty && s.wasEmpty then ([], s)
  else
    let lines := if isNumbered then s.lines + 1 else s.lines
    let front := if isNumbered then aligned 6 lines ++ ['\t'] else []
    (front ++ body ++ ending, { lines, isFresh := hasEnd, wasEmpty := isEmpty })

def Display.text (d : Display) (s : Shown) (cs : List Char) : List Char × Shown :=
  (pieces cs).foldl (fun (shown, s) piece =>
    let (more, s) := d.line s piece
    (shown ++ more, s)) ([], s)

/-- Whether a name is that of the file that output goes to, and the file is not empty. -/
def isOutput (sh : Shell) (name : Name) : Bool :=
  let goal := match sh.channel? 1 with
    | some (_, .file n _ _) => some n
    | _ => none
  let source := match name, sh.channel? 0 with
    | ['-'], some (_, .file n _ _) => some n
    | ['-'], _ => none
    | name, _ => (sh.files.resolve sh.directory name).toOption.bind sh.files.number?
  goal.isSome && goal = source && goal.any fun n => !(sh.files.textOf n).isEmpty

def catTable : OptionTable where
  letters := "AbeEnstTuv"
  names := [("show-all", "A"), ("number-nonblank", "b"), ("show-ends", "E"), ("number", "n"),
    ("squeeze-blank", "s"), ("show-tabs", "T"), ("show-nonprinting", "v")]

def cat : Builtin := withOptions "cat" 1 catTable faultless fun os sh names =>
  let d := (os.flatMap fun o => o.key.toList).foldl Display.with {}
  let display (sh : Shell) (s : Shown) (cs : List Char) : Shell × Shown :=
    let (shown, s) := d.text s cs
    (sh.print shown, s)
  let displayNamed (acc : Shell × Shown) (name : Name) : Shell × Shown :=
    let (sh, s) := acc
    if isOutput sh name then
      (complain sh "cat" (name ++ bytes ": input file is output file") 1, s)
    else if name = ['-'] && sh.isReadable 0 then Shell.drain display 0 Shell.waits sh s
    else
      match load sh [name] with
      | ([(_, .ok cs)], sh) => display sh s cs
      | ([(_, .error f)], sh) => (complain sh "cat" (plainFault name f) 1, s)
      | (_, sh) => (sh, s)
  let names := if names.isEmpty then [['-']] else names
  let after := (names.foldl displayNamed (sh.withStatus 0, {})).1
  if names.contains ['-'] && (sh.channel? 0).isNone then
    complain after "cat" (bytes "closing standard input: Bad file descriptor") 1
  else after

end Utility

end Crond.Script
