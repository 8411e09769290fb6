import Crond.Machine.Script.Regex
import Crond.Machine.Script.Utility.Basic

/-
  The program `nl`, which numbers lines.

  A text can have pages of three sections, each begun by a line of its own: a head, a body and a
  foot. Lines of each are numbered as is said for that section.
-/

namespace Crond.Script

open Text

namespace Utility

/-- Which lines are numbered. -/
inductive NumberedLines where
  | all
  | filled
  | none
  | matching (r : Regex)

/-- Reads what lines are numbered. -/
def NumberedLines.read? (v : List Char) : Option NumberedLines :=
  match v with
  | ['a'] => some .all
  | ['t'] => some .filled
  | ['n'] => some .none
  | 'p' :: pattern => (Regex.read {} pattern).toOption.map .matching
  | _ => Option.none

/-- A section of a page. -/
inductive PageSection where
  | head
  | body
  | foot
  deriving DecidableEq, Repr

/-- How numbers are written. -/
inductive NumberPlace where
  | left
  | right
  | filledUp
  deriving DecidableEq, Repr

/-- How lines are numbered. -/
structure LineNumbers where
  styleOf : PageSection → NumberedLines
  first : Int := 1
  step : Int := 1
  width : Nat := 6
  place : NumberPlace := .right
  separator : List Char := ['\t']
  /-- As many empty lines as count for one. -/
  blanks : Nat := 1
  /-- The two characters that the line in front of a section is made of. -/
  mark : List Char := ['\\', ':']
  startsAnew : Bool := true

namespace LineNumbers

/-- How far lines have been numbered. -/
structure Count where
  next : Int
  part : PageSection := .body
  /-- How many empty lines have come one after the other. -/
  empty : Nat := 0

/-- A number as it stands in front of a line. -/
def written (n : LineNumbers) (number : Int) : List Char :=
  let digits := signedNumeral number
  let rest := n.width - digits.length
  match n.place with
  | .left => digits ++ List.replicate rest ' '
  | .right => List.replicate rest ' ' ++ digits
  | .filledUp =>
    if number < 0 then '-' :: List.replicate rest '0' ++ digits.drop 1
    else List.replicate rest '0' ++ digits

/-- The section that a line begins, if it begins one. -/
def section? (n : LineNumbers) (line : List Char) : Option PageSection :=
  if n.mark.isEmpty then none
  else if line = n.mark ++ n.mark ++ n.mark then some .head
  else if line = n.mark ++ n.mark then some .body
  else if line = n.mark then some .foot
  else none

/-- What is printed for a line, and the count behind it. -/
def line (n : LineNumbers) (c : Count) (l : List Char) : List Char × Count :=
  match n.section? l with
  | some part =>
    (['\n'], { c with part, next := if n.startsAnew then n.first else c.next })
  | none =>
    let numbered : List Char × Count :=
      (n.written c.next ++ n.separator ++ l ++ ['\n'],
        { c with next := c.next + n.step, empty := 0 })
    let plain : List Char × Count :=
      (List.replicate (n.width + n.separator.length) ' ' ++ l ++ ['\n'], c)
    match n.styleOf c.part with
    | .all =>
      if 1 < n.blanks && l.isEmpty && c.empty + 1 < n.blanks then
        (plain.1, { c with empty := c.empty + 1 })
      else numbered
    | .filled => if l.isEmpty then plain else numbered
    | .none => plain
    | .matching r => if r.isIn l then numbered else plain

def text (n : LineNumbers) (c : Count) (ls : List (List Char)) : List Char × Count :=
  ls.foldl (fun (out, c) l =>
    let (more, c) := n.line c l
    (out ++ more, c)) ([], c)

end LineNumbers

/-- The number that a text is. -/
def wholeNumber? (cs : List Char) : Option Int :=
  match cs with
  | '-' :: ds => (Builtin.natural? ds).map fun n => -(n : Int)
  | '+' :: ds => (Builtin.natural? ds).map fun n => (n : Int)
  | ds => (Builtin.natural? ds).map fun n => (n : Int)

def numberingTable : OptionTable where
  letters := "b:d:f:h:i:l:n:ps:v:w:"
  names := [("body-numbering", "b"), ("section-delimiter", "d"), ("footer-numbering", "f"),
    ("header-numbering", "h"), ("line-increment", "i"), ("join-blank-lines", "l"),
    ("number-format", "n"), ("no-renumber", "p"), ("number-separator", "s"),
    ("starting-line-number", "v"), ("number-width", "w")]

/-- What is wrong with the value of an option that is no number. -/
def numberingStyle? (sh : Shell) (o : GivenOption) : Option (List Char) :=
  let bad (what : String) (v : List Char) : Option (List Char) :=
    some (bytes ("invalid " ++ what ++ ": ") ++ inEscapes v ++ hint sh "nl")
  let style (what : String) (v : List Char) : Option (List Char) :=
    if (NumberedLines.read? v).isSome then none else bad (what ++ " numbering style") v
  match o.key, o.value with
  | "b", some v => style "body" v
  | "h", some v => style "header" v
  | "f", some v => style "footer" v
  | "n", some v =>
    if [bytes "ln", bytes "rn", bytes "rz"].contains v then none
    else bad "line numbering format" v
  | _, _ => none

def numberingFault? (sh : Shell) (o : GivenOption) : Option (List Char) :=
  let number (what : String) (isPositive : Bool) (v : List Char) : Option (List Char) :=
    let message := bytes ("invalid " ++ what ++ ": ") ++ inEscapes v
    match wholeNumber? v with
    | some n =>
      if isPositive && n ≤ 0 then some (message ++ bytes ": Numerical result out of range")
      else none
    | none => some message
  match o.key, o.value with
  | "v", some v => number "starting line number" false v
  | "i", some v => number "line number increment" false v
  | "w", some v => number "line number field width" true v
  | "l", some v => number "line number of blank lines" true v
  | _, _ => numberingStyle? sh o

/-- How options ask lines to be numbered. -/
def numberingOf (os : List GivenOption) : LineNumbers :=
  let style (key : String) (usual : NumberedLines) : NumberedLines :=
    ((lastValue? os key).bind NumberedLines.read?).getD usual
  let number (key : String) (usual : Int) : Int :=
    ((lastValue? os key).bind wholeNumber?).getD usual
  { styleOf := fun s =>
      match s with
      | .head => style "h" .none
      | .body => style "b" .filled
      | .foot => style "f" .none
    first := number "v" 1
    step := number "i" 1
    width := (number "w" 6).toNat
    place := match lastValue? os "n" with
      | some ['l', 'n'] => .left
      | some ['r', 'z'] => .filledUp
      | _ => .right
    separator := (lastValue? os "s").getD ['\t']
    blanks := (number "l" 1).toNat
    mark := match lastValue? os "d" with
      | some [c] => [c, ':']
      | some cs => cs
      | none => ['\\', ':']
    startsAnew := !givenIn os "p" }

def numberLines : Builtin := withOptions "nl" 1 numberingTable numberingFault? fun os sh names =>
  let n := numberingOf os
  let (loaded, sh) := load sh names
  (loaded.foldl (fun (acc : Shell × LineNumbers.Count) (name, r) =>
    match r with
    | .ok cs =>
      let (out, c) := n.text acc.2 (segments '\n' cs)
      (acc.1.print out, c)
    | .error f => (complain acc.1 "nl" (plainFault name f) 1, acc.2))
    (sh.withStatus 0, { next := n.first })).1

end Utility

end Crond.Script
