/-
  The words of a shell script: text as it stands, and what is put in its place when the word is
  expanded. Quoting is gone, except that a piece knows whether it was quoted: quoted pieces are
  never split and their characters are no wildcards.
-/

namespace Crond.Script

/-- What is done with the value of a parameter. Where there is none, or an empty one if that
  counts as none, some uses take their operand. -/
inductive Use where
  | value
  | length
  | fallback (countsEmpty : Bool)
  | assign (countsEmpty : Bool)
  | demand (countsEmpty : Bool)
  | replace (countsEmpty : Bool)
  /-- Takes off what fits a pattern, at the front or at the back. -/
  | trim (atFront isLongest : Bool)
  | malformed
  deriving DecidableEq, Repr

inductive Piece where
  | text (isQuoted : Bool) (chars : List Char)
  | parameter (isQuoted : Bool) (name : List Char) (use : Use) (operand : List Piece)
  /-- What commands print. They begin in a line of the script. -/
  | substitution (isQuoted : Bool) (line : Nat) (commands : List Char)
  | arithmetic (isQuoted : Bool) (expression : List Piece)

abbrev Word := List Piece

namespace Word

/-- Puts a piece in front; text is joined to text of the same kind. -/
def join (p : Piece) (w : Word) : Word :=
  match p, w with
  | .text q cs, .text r ds :: w => if q = r then .text q (cs ++ ds) :: w else p :: .text r ds :: w
  | _, _ => p :: w

/-- The text of a word that is one piece of unquoted text. -/
def plain? : Word → Option (List Char)
  | [.text false cs] => some cs
  | _ => none

/-- The text of a word in which nothing is expanded. -/
def literal (w : Word) : List Char :=
  w.flatMap fun
    | .text _ cs => cs
    | .parameter _ name _ _ => '$' :: name
    | _ => []

def isQuoted (w : Word) : Bool := w.any fun
  | .text q _ => q
  | _ => false

end Word

def isNameStart (c : Char) : Bool := c.isAlpha || c = '_'

def isNameChar (c : Char) : Bool := c.isAlphanum || c = '_'

/-- Whether a text can name a variable. -/
def isName : List Char → Bool
  | [] => false
  | c :: cs => isNameStart c && cs.all isNameChar

/-- The name and the value of a word that is an assignment. -/
def Word.assignment? (w : Word) : Option (List Char × Word) :=
  match w with
  | .text false cs :: rest =>
    match cs.span (· ≠ '=') with
    | (name, _ :: []) => if isName name then some (name, rest) else none
    | (name, _ :: value) => if isName name then some (name, .text false value :: rest) else none
    | (_, []) => none
  | _ => none

end Crond.Script
