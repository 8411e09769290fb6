import Crond.Machine.Script.Utility.Basic

/-
  The program `fold`, which breaks lines that are too long.

  Every character is put behind those of its line if it fits; otherwise the line ends in front of
  it, or behind the last blank if lines are broken there.
-/

namespace Crond.Script

open Text

namespace Utility

/-- How lines are broken. -/
structure Folding where
  width : Nat := 80
  countsBytes : Bool := false
  breaksAtBlanks : Bool := false
  deriving DecidableEq, Repr

namespace Folding

/-- The column behind a character. -/
def advance (f : Folding) (column : Nat) (c : Char) : Nat :=
  if f.countsBytes then column + 1
  else if c = '\x08' then column - 1
  else if c = '\r' then 0
  else if c = '\t' then column + 8 - column % 8
  else column + 1

/-- The column behind a line. -/
def columnOf (f : Folding) (line : List Char) : Nat := line.foldl f.advance 0

/-- What has been written, and the line at work. Both have their last characters first. -/
structure Progress where
  written : List Char := []
  line : List Char := []

/-- Puts a character into the line, or begins a new line for it. The number bounds how often one is
  begun. -/
def place (f : Folding) : Nat → Progress → Char → Progress
  | 0, p, c => { p with line := c :: p.line }
  | n + 1, p, c =>
    if c = '\n' then { written := '\n' :: (p.line ++ p.written) }
    else if f.advance (f.columnOf p.line.reverse) c ≤ f.width || p.line.isEmpty then
      { p with line := c :: p.line }
    else
      let isBlank (d : Char) : Bool := d = ' ' || d = '\t'
      let kept := p.line.dropWhile (!isBlank ·)
      if f.breaksAtBlanks && !kept.isEmpty then
        let line := p.line.takeWhile (!isBlank ·)
        place f n { written := '\n' :: (kept ++ p.written), line } c
      else place f n { written := '\n' :: (p.line ++ p.written) } c

/-- A text with its lines broken. -/
def text (f : Folding) (cs : List Char) : List Char :=
  let p := cs.foldl (fun p c => f.place (p.line.length + 2) p c) {}
  (p.line ++ p.written).reverse

end Folding

def foldTable : OptionTable where
  letters := "bsw:0123456789"
  names := [("bytes", "b"), ("spaces", "s"), ("width", "w")]

def fold : Builtin :=
  let fault? (_ : Shell) (o : GivenOption) : Option (List Char) :=
    match o.key, o.value with
    | "w", some v =>
      let message := bytes "invalid number of columns: " ++ inEscapes v
      match Builtin.natural? v with
      | some 0 => some (message ++ bytes ": Numerical result out of range")
      | some _ => none
      | none => some message
    | _, _ => none
  withOptions "fold" 1 foldTable fault? fun os sh names =>
    let digits := os.flatMap fun o => if o.key.toList.all Char.isDigit then o.key.toList else []
    let usual := if digits.isEmpty then 80 else natural digits
    let f : Folding :=
      { width := ((lastValue? os "w").map natural).getD usual
        countsBytes := givenIn os "b"
        breaksAtBlanks := givenIn os "s" }
    let (loaded, sh) := load sh names
    loaded.foldl (fun (sh : Shell) (name, r) =>
      match r with
      | .ok cs => sh.print (f.text cs)
      | .error e => complain sh "fold" (plainFault name e) 1) (sh.withStatus 0)

end Utility

end Crond.Script
