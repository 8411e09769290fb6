import Crond.Machine.Files.Tree
import Crond.Machine.Floating

/-
  Wildcard patterns: `*` fits any text, `?` any character, and brackets one character of a set.
-/

namespace Crond.Script

/-- A character of a word; one that was quoted is never a wildcard. -/
structure Glyph where
  char : Char
  isQuoted : Bool
  deriving DecidableEq, Repr

namespace Glob

/-- A set of characters in brackets. -/
structure Bracket where
  isNegated : Bool := false
  ranges : List (Char × Char) := []
  classes : List (List Char) := []
  deriving DecidableEq, Repr

inductive Part where
  | char (c : Char)
  | one
  | many
  | bracket (b : Bracket)
  deriving DecidableEq, Repr

def isPunctuation (c : Char) : Bool :=
  '!' ≤ c && c ≤ '~' && !c.isAlphanum

/-- The names of classes of characters. -/
def classNames : List String :=
  ["alnum", "alpha", "blank", "cntrl", "digit", "graph", "lower", "print", "punct", "space",
   "upper", "xdigit"]

/-- Whether a character belongs to a class that goes by a name. -/
def inClass (name : List Char) (c : Char) : Bool :=
  match String.ofList name with
  | "alpha" => c.isAlpha
  | "digit" => c.isDigit
  | "alnum" => c.isAlphanum
  | "upper" => c.isUpper
  | "lower" => c.isLower
  | "space" => Text.isSpace c
  | "blank" => c = ' ' || c = '\t'
  | "punct" => isPunctuation c
  | "xdigit" => (Text.digitOf? 16 c).isSome
  | "print" => ' ' ≤ c && c ≤ '~'
  | "graph" => '!' ≤ c && c ≤ '~'
  | "cntrl" => c < ' ' || c = '\x7f'
  | _ => false

/-- The rank of a byte in a range. Those above 127 come first. -/
def rank (c : Char) : Nat := (c.toNat + 128) % 256

def Bracket.contains (b : Bracket) (c : Char) : Bool :=
  let isWithin (r : Char × Char) : Bool := rank r.1 ≤ rank c && rank c ≤ rank r.2
  (b.ranges.any isWithin || b.classes.any (inClass · c)) != b.isNegated

/-- The class whose name stands at the front of a text behind a bracket, and what follows it. -/
def class? (cs : List Char) : Option (List Char × List Char) :=
  (classNames.find? fun n => (':' :: n.toList ++ [':', ']']).isPrefixOf cs).map fun n =>
    (n.toList, cs.drop (n.length + 3))

/-- The set that closes before the end of a text, given the character at its front, which is part
  of the set whatever it is. A backslash takes away what the next character means, except that it
  may close the set no more. -/
def bracket? : Nat → Bracket → Char → List Char → Option (Bracket × List Char)
  | 0, _, _, _ => none
  | fuel + 1, b, c, cs =>
    let goOn (b : Bracket) (cs : List Char) : Option (Bracket × List Char) :=
      match cs with
      | [] => none
      | ']' :: rest => some (b, rest)
      | d :: rest => bracket? fuel b d rest
    match (if c = '[' then class? cs else none) with
    | some (name, rest) => goOn { b with classes := name :: b.classes } rest
    | none =>
      let (c, cs) := match c, cs with
        | '\\', d :: rest => (d, rest)
        | c, cs => (c, cs)
      let range (d : Char) : Bracket := { b with ranges := (c, d) :: b.ranges }
      match cs with
      | '-' :: ']' :: _ => goOn (range c) cs
      | '-' :: '\\' :: d :: rest => goOn (range d) rest
      | '-' :: d :: rest => goOn (range d) rest
      | cs => goOn (range c) cs

/-- The set at the front of a text behind an opening bracket. -/
def set? (cs : List Char) : Option (Bracket × List Char) :=
  let (isNegated, cs) := match cs with
    | '!' :: cs => (true, cs)
    | cs => (false, cs)
  match cs with
  | c :: rest => bracket? cs.length { isNegated } c rest
  | [] => none

/-- The parts of a pattern. A bracket that nothing closes is an ordinary character. -/
def parts : Nat → List Char → List Part
  | 0, _ => []
  | _, [] => []
  | fuel + 1, c :: cs =>
    match c, cs with
    | '\\', d :: rest => .char d :: parts fuel rest
    | '*', _ => .many :: parts fuel cs
    | '?', _ => .one :: parts fuel cs
    | '[', _ =>
      match set? cs with
      | some (b, rest) => .bracket b :: parts fuel rest
      | none => .char '[' :: parts fuel cs
    | c, _ => .char c :: parts fuel cs

/-- Whether a text fits, from its beginning to its end. -/
def fits : List Part → List Char → Bool
  | [], cs => cs.isEmpty
  | .many :: ps, [] => fits ps []
  | .many :: ps, c :: cs => fits ps (c :: cs) || fits (.many :: ps) cs
  | _ :: _, [] => false
  | .char d :: ps, c :: cs => c = d && fits ps cs
  | .one :: ps, _ :: cs => fits ps cs
  | .bracket b :: ps, c :: cs => b.contains c && fits ps cs
termination_by ps cs => ps.length + cs.length

/-- The characters that can mean something in a pattern. -/
def meaningful : List Char := "!*?[]=~:/-\\".toList

/-- A pattern written without quotes: what was quoted has a backslash in front if it could mean
  something, unless there is one already. -/
def written : Bool → List Glyph → List Char
  | _, [] => []
  | isEscaped, g :: gs =>
    if g.isQuoted && !isEscaped && meaningful.contains g.char then
      '\\' :: g.char :: written false gs
    else g.char :: written (g.char = '\\' && !g.isQuoted && !isEscaped) gs

def ofGlyphs (gs : List Glyph) : List Part :=
  let cs := written false gs
  parts cs.length cs

def isPlain (ps : List Part) : Bool := ps.all fun
  | .char _ => true
  | _ => false

/-- The text that fits a pattern without wildcards. -/
def plainText (ps : List Part) : List Char := ps.filterMap fun
  | .char c => some c
  | _ => none

/-! ### Names of files -/

open Files

/-- The glyphs between slashes. -/
def components (gs : List Glyph) : List (List Glyph) :=
  gs.splitOnP fun g => g.char = '/'

/-- Whether a name fits the part of a path. A dot at the front must be written out. -/
def fitsName (ps : List Part) (name : Name) : Bool :=
  fits ps name && (name.head? ≠ some '.' || ps.head? = some (.char '.'))

/-- Goes from paths, as written so far, to those that one more part leads to. -/
def extend (t : Tree) (base : Place) (gs : List Glyph) (path : Name) : List Name :=
  let ps := ofGlyphs gs
  if isPlain ps then [path ++ plainText ps]
  else
    match t.resolve base (if path = [] then ['.'] else path) with
    | .error _ => []
    | .ok p => ((['.'] :: ['.', '.'] :: t.names p).filter (fitsName ps)).map (path ++ ·)

/-- The paths that glyphs with wildcards fit, in the order of their bytes. -/
def paths (t : Tree) (base : Place) (gs : List Glyph) : List Name :=
  match components gs with
  | [] => []
  | first :: rest =>
    let start := extend t base first []
    let found := rest.foldl (fun (ps : List Name) part =>
      (ps.map (· ++ ['/'])).flatMap (extend t base part)) start
    let isThere (p : Name) : Bool := ((t.resolveLink base p).toOption.bind t.node?).isSome
    (found.filter isThere).mergeSort Text.inOrder

/-- Whether glyphs hold a wildcard at all. -/
def hasWildcard (gs : List Glyph) : Bool := !isPlain (ofGlyphs gs)

end Glob

end Crond.Script
