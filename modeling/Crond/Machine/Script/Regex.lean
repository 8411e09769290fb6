import Crond.Machine.Script.Glob

/-
  Regular expressions, basic and extended, and where in a text they match.

  A match begins as far to the left as possible, and is the longest of those that begin there. Of
  several ways to match that, the one counts in which what stands first takes most.
-/

namespace Crond.Script

/-- Something about a place in a text. -/
inductive Edge where
  /-- The beginning of the text, and its end. -/
  | start
  | finish
  /-- The beginning of a line, and its end. -/
  | lineStart
  | lineEnd
  | wordStart
  | wordEnd
  | wordEdge
  /-- A place that is no edge of a word. -/
  | noWordEdge
  /-- A place with no character of a word before it, or none behind it. -/
  | freeBefore
  | freeBehind
  deriving DecidableEq, Repr

inductive Regex where
  | empty
  | char (c : Char)
  | any
  | bracket (b : Glob.Bracket)
  | edge (e : Edge)
  | sequence (a b : Regex)
  | choice (a b : Regex)
  /-- A repetition; without a limit it goes on as long as it matches. -/
  | times (a : Regex) (least : Nat) (most : Option Nat)
  | group (number : Nat) (a : Regex)
  /-- What a group has matched. -/
  | again (number : Nat)
  deriving Repr

namespace Regex

/-! ### Reading -/

/-- Which regular expressions there are. -/
structure Dialect where
  isExtended : Bool := false
  foldsCase : Bool := false
  /-- Whether the edges of lines count as those of the text do. -/
  hasLines : Bool := false
  /-- Whether a repetition must have something to repeat, and bounds must be right. -/
  isStrict : Bool := false
  deriving DecidableEq, Repr

/-- What is wrong with a regular expression. -/
inductive Fault where
  | badRepetition
  | unmatchedBracket
  | unmatchedOpening
  | unmatchedClosing
  | unmatchedBrace
  | badBounds
  | badClass
  | badCollation
  | badRange
  | badReference
  | trailingBackslash
  | tooBig
  | loneBracket
  | bareClass
  deriving DecidableEq, Repr

def Fault.text : Fault → String
  | badRepetition => "Invalid preceding regular expression"
  | unmatchedBracket => "Unmatched [, [^, [:, [., or [="
  | unmatchedOpening => "Unmatched ( or \\("
  | unmatchedClosing => "Unmatched ) or \\)"
  | unmatchedBrace => "Unmatched \\\x7b"
  | badBounds => "Invalid content of \\\x7b\\\x7d"
  | badClass => "Invalid character class name"
  | badCollation => "Invalid collation character"
  | badRange => "Invalid range end"
  | badReference => "Invalid back reference"
  | trailingBackslash => "Trailing backslash"
  | tooBig => "Regular expression too big"
  | loneBracket => "Invalid regular expression"
  | bareClass => "character class syntax is [[:space:]], not [:space:]"

/-- The signs of a regular expression. -/
inductive Sign where
  | opening
  | closing
  | bar
  | bounds (least : Nat) (most : Option Nat)
  | part (r : Regex)
  deriving Repr

/-- As often as something can be repeated at most. -/
def mostRepetitions : Nat := 32767

/-- The bounds of a repetition behind the opening brace, and what follows the closing one. -/
def bounds (isExtended : Bool) (cs : List Char) : Except Fault (Sign × List Char) :=
  let closing? (cs : List Char) : Option (List Char) :=
    match isExtended, cs with
    | true, '\x7d' :: rest => some rest
    | false, '\\' :: '\x7d' :: rest => some rest
    | _, _ => none
  let isOpen : Bool := cs.isEmpty || (cs.dropWhile fun c => c.isDigit || c = ',').isEmpty
  let (low, rest) := cs.span Char.isDigit
  let least := Text.digitsValue 10 low
  let (most, rest) : Option Nat × List Char := match rest with
    | ',' :: rest =>
      let (high, rest) := rest.span Char.isDigit
      (if high.isEmpty then none else some (Text.digitsValue 10 high), rest)
    | rest => (some least, rest)
  let isNumbered := !low.isEmpty || (cs.head? = some ',')
  match closing? rest with
  | none => .error (if isOpen then .unmatchedBrace else .badBounds)
  | some rest =>
    if !isNumbered || most.any (· < least) then .error .badBounds
    else if mostRepetitions < most.getD least then .error .tooBig
    else .ok (.bounds least most, rest)

/-- The text up to a mark and a closing bracket, and what follows it. -/
def upToMark (mark : Char) (cs : List Char) : Option (List Char × List Char) :=
  match cs.span (· ≠ mark) with
  | (name, _ :: ']' :: rest) => some (name, rest)
  | _ => none

/-- One character of a set, or an element with a name between dots, and what follows it. -/
def element (cs : List Char) : Except Fault (Char × List Char) :=
  match cs with
  | '[' :: '.' :: rest =>
    match upToMark '.' rest with
    | some ([c], rest) => .ok (c, rest)
    | some _ => .error .badCollation
    | none => .error .unmatchedBracket
  | c :: rest => .ok (c, rest)
  | [] => .error .unmatchedBracket

/-- The set that closes before the end of a text, and what follows it. The text begins behind the
  opening bracket; a closing bracket at the front belongs to the set. -/
def setFrom : Nat → Bool → Glob.Bracket → List Char → Except Fault (Glob.Bracket × List Char)
  | 0, _, _, _ => .error .unmatchedBracket
  | fuel + 1, isFirst, b, cs =>
    let within (low high : Char) : Glob.Bracket := { b with ranges := (low, high) :: b.ranges }
    -- Takes a character, or a range.
    let next : Except Fault (Glob.Bracket × List Char) := do
      let (c, rest) ← element cs
      match rest with
      | '-' :: ']' :: _ => setFrom fuel false (within c c) rest
      | '-' :: rest =>
        let (d, rest) ← element rest
        if d < c then .error .badRange else setFrom fuel false (within c d) rest
      | rest => setFrom fuel false (within c c) rest
    match cs with
    | [] => .error .unmatchedBracket
    | '[' :: ':' :: rest =>
      match upToMark ':' rest with
      | some (name, rest) =>
        if String.ofList name ∈ Glob.classNames then
          setFrom fuel false { b with classes := name :: b.classes } rest
        else .error .badClass
      | none => setFrom fuel false (within '[' '[') (':' :: rest)
    | '[' :: '=' :: rest =>
      match upToMark '=' rest with
      | some ([c], rest) => setFrom fuel false (within c c) rest
      | some _ => .error .badCollation
      | none => .error .unmatchedBracket
    | ']' :: rest => if isFirst then next else .ok (b, rest)
    | _ => next

/-- The set at the front of a text behind an opening bracket. -/
def bracketAt (cs : List Char) : Except Fault (Glob.Bracket × List Char) := do
  let isNegated := cs.head? = some '^'
  let body := if isNegated then cs.tail else cs
  let (b, rest) ← setFrom (body.length + 1) true { isNegated } body
  let inside := cs.take (cs.length - rest.length - 1)
  if inside.head? = some ':' && inside.getLast? = some ':' && 2 < inside.length then
    .error .bareClass
  else return (b, rest)

def wordBracket (isNegated : Bool) : Regex :=
  .bracket { isNegated, ranges := [('_', '_')], classes := ["alnum".toList] }

def spaceBracket (isNegated : Bool) : Regex := .bracket { isNegated, classes := ["space".toList] }

/-- What a letter behind a backslash means. -/
def special? (c : Char) : Option Regex :=
  if c = '\x60' then some (.edge .start)
  else
    match c with
    | 'w' => some (wordBracket false)
    | 'W' => some (wordBracket true)
    | 's' => some (spaceBracket false)
    | 'S' => some (spaceBracket true)
    | 'b' => some (.edge .wordEdge)
    | 'B' => some (.edge .noWordEdge)
    | '<' => some (.edge .wordStart)
    | '>' => some (.edge .wordEnd)
    | '\'' => some (.edge .finish)
    | _ => none

/-- What stands in front of a place in an expression. -/
inductive Front where
  /-- The beginning, or something that begins a part. -/
  | opening
  | part
  | repetition
  deriving DecidableEq, Repr

/-- The bounds that a character means behind something to repeat. -/
def repetition? (c : Char) : Option Sign :=
  match c with
  | '*' => some (.bounds 0 none)
  | '+' => some (.bounds 1 none)
  | '?' => some (.bounds 0 (some 1))
  | _ => none

/-- The signs of a text. In basic expressions the extended operators have backslashes. The number
  bounds the signs. -/
def signs (d : Dialect) : Nat → Front → List Char → Except Fault (List Sign)
  | 0, _, _ => .ok []
  | _, _, [] => .ok []
  | fuel + 1, front, c :: cs => do
    let add (s : Sign) (front : Front) (rest : List Char) : Except Fault (List Sign) := do
      return s :: (← signs d fuel front rest)
    let literal (c : Char) (rest : List Char) : Except Fault (List Sign) :=
      add (.part (.char c)) .part rest
    -- A repetition, or what stands for one, where there may be nothing to repeat.
    let repeated (c : Char) (s : Sign) (rest : List Char) : Except Fault (List Sign) :=
      if front = .opening then
        if !d.isExtended then literal c rest
        else if d.isStrict then .error .badRepetition
        else signs d fuel front rest
      else if front = .repetition && d.isStrict && !d.isExtended then .error .badRepetition
      else add s .repetition rest
    let braced (rest : List Char) : Except Fault (List Sign) :=
      match front, bounds d.isExtended rest with
      | .opening, _ =>
        if d.isStrict then .error .badRepetition
        else if d.isExtended then signs d fuel front rest
        else literal '\x7b' rest
      | _, .ok (s, rest) =>
        if front = .repetition && d.isStrict && !d.isExtended then .error .badRepetition
        else add s .repetition rest
      | _, .error f =>
        let behind := rest.dropWhile fun c => c.isDigit || c = ','
        let isRange := behind.length < rest.length && behind.head? = some '\x7d'
        if d.isExtended && !d.isStrict && !isRange then literal '\x7b' rest else .error f
    match c, cs with
    | '\\', [] => .error .trailingBackslash
    | '\\', e :: rest =>
      if e.isDigit && e ≠ '0' then
        add (.part (.again (e.toNat - '0'.toNat))) .part rest
      else
        match special? e with
        | some r => add (.part r) .part rest
        | none =>
          if d.isExtended then literal e rest
          else
            match e with
            | '(' => add .opening .opening rest
            | ')' => add .closing .part rest
            | '|' => add .bar .opening rest
            | '\x7b' => braced rest
            | e =>
              match (if e = '*' then none else repetition? e) with
              | some s => repeated e s rest
              | none => literal e rest
    | '[', rest =>
      if rest.isEmpty then .error .loneBracket
      else
        let (b, rest) ← bracketAt rest
        add (.part (.bracket b)) .part rest
    | '.', rest => add (.part .any) .part rest
    | '*', rest => repeated '*' (.bounds 0 none) rest
    | '^', rest =>
      if d.isExtended || front = .opening then
        add (.part (.edge (if d.hasLines then .lineStart else .start))) .opening rest
      else literal c rest
    | '$', rest =>
      let isLast := rest.isEmpty || rest.take 2 = ['\\', ')'] || rest.take 2 = ['\\', '|']
      if d.isExtended || isLast then
        add (.part (.edge (if d.hasLines then .lineEnd else .finish))) .part rest
      else literal c rest
    | c, rest =>
      if !d.isExtended then literal c rest
      else
        match c with
        | '(' => add .opening .opening rest
        | ')' => add .closing .part rest
        | '|' => add .bar .opening rest
        | '\x7b' => braced rest
        | c =>
          match repetition? c with
          | some s => repeated c s rest
          | none => literal c rest

/-- An expression being read: the choices and the sequence before, and the last part. -/
structure Reading where
  choices : Option Regex := none
  sequence : Regex := .empty
  last : Option Regex := none

namespace Reading

def joined (r : Reading) : Regex :=
  match r.last with
  | some a => .sequence r.sequence a
  | none => r.sequence

def whole (r : Reading) : Regex :=
  match r.choices with
  | some a => .choice a r.joined
  | none => r.joined

def push (r : Reading) (a : Regex) : Reading := { r with sequence := r.joined, last := some a }

def repeated (r : Reading) (least : Nat) (most : Option Nat) : Reading :=
  { r with last := r.last.map fun a => .times a least most }

end Reading

/-- Reads signs, given the expressions around the one at work, the number of groups, and those that
  are complete. -/
def build (d : Dialect) :
    List (Reading × Nat) → Reading → Nat → List Nat → List Sign → Except Fault Regex
  | [], r, _, _, [] => .ok r.whole
  | _ :: _, _, _, _, [] => .error .unmatchedOpening
  | stack, r, groups, complete, s :: ss =>
    match s with
    | .part (.again n) =>
      if n ∈ complete then build d stack (r.push (.again n)) groups complete ss
      else .error .badReference
    | .part a => build d stack (r.push a) groups complete ss
    | .bounds least most => build d stack (r.repeated least most) groups complete ss
    | .bar => build d stack { choices := some r.whole } groups complete ss
    | .opening => build d ((r, groups + 1) :: stack) {} (groups + 1) complete ss
    | .closing =>
      match stack with
      | (outer, n) :: more =>
        build d more (outer.push (.group n r.whole)) groups (n :: complete) ss
      | [] =>
        if d.isExtended && !d.isStrict then build d [] (r.push (.char ')')) groups complete ss
        else .error .unmatchedClosing

/-- An expression in which letters stand for both cases. -/
def folded : Regex → Regex
  | char c =>
    if c.isAlpha then .bracket { ranges := [(c.toLower, c.toLower), (c.toUpper, c.toUpper)] }
    else char c
  | bracket b =>
    let inside := ((List.range 256).map Char.ofNat).filter fun c => b.contains c != b.isNegated
    .bracket { b with
      classes := []
      ranges := inside.flatMap fun c => [(c.toLower, c.toLower), (c.toUpper, c.toUpper)] }
  | sequence a b => .sequence a.folded b.folded
  | choice a b => .choice a.folded b.folded
  | times a least most => .times a.folded least most
  | group n a => .group n a.folded
  | r => r

def read (d : Dialect) (cs : List Char) : Except Fault Regex := do
  let r ← build d [] {} 0 [] (← signs d (cs.length + 1) .opening cs)
  return if d.foldsCase then r.folded else r

/-- The expression that matches a text as it is. -/
def ofText (cs : List Char) : Regex := cs.foldr (fun c r => .sequence (.char c) r) .empty

/-- The number of groups in an expression. -/
def groupCount : Regex → Nat
  | sequence a b | choice a b => max a.groupCount b.groupCount
  | times a _ _ => a.groupCount
  | group n a => max n a.groupCount
  | _ => 0

/-! ### Matching -/

/-- How far a match has come. -/
structure Progress where
  /-- The character before this place. -/
  before : Option Char
  rest : List Char
  groups : List (Nat × List Char) := []

def isWordChar (c : Char) : Bool := c.isAlphanum || c = '_'

/-- Whether a match has come to an edge. -/
def Progress.isAt (p : Progress) (e : Edge) : Bool :=
  let left := p.before.any isWordChar
  let right := p.rest.head?.any isWordChar
  match e with
  | .start => p.before.isNone
  | .finish => p.rest.isEmpty
  | .lineStart => p.before.all (· = '\n')
  | .lineEnd => p.rest.head?.all (· = '\n')
  | .wordStart => !left && right
  | .wordEnd => left && !right
  | .wordEdge => left != right
  | .noWordEdge => left = right
  | .freeBefore => !left
  | .freeBehind => !right

/-- The match that goes further; of two that go as far it is the first. -/
def further (p : Option Progress) (q : Unit → Option Progress) : Option Progress :=
  match p with
  | none => q ()
  | some p =>
    if p.rest.isEmpty then some p
    else
      match q () with
      | some r => if r.rest.length < p.rest.length then some r else some p
      | none => some p

/-- Goes on behind a match of an expression. The number bounds the steps in one line. -/
def advance : Nat → Regex → Progress → (Progress → Option Progress) → Option Progress
  | 0, _, _, _ => none
  | fuel + 1, r, p, k =>
    let one (holds : Char → Bool) : Option Progress :=
      match p.rest with
      | c :: rest => if holds c then k { p with before := some c, rest } else none
      | [] => none
    match r with
    | .empty => k p
    | .char d => one (· = d)
    | .any => one fun _ => true
    | .bracket b => one b.contains
    | .edge e => if p.isAt e then k p else none
    | .sequence a b => advance fuel a p fun p => advance fuel b p k
    | .choice a b => further (advance fuel a p k) fun _ => advance fuel b p k
    | .group n a =>
      advance fuel a p fun q =>
        let taken := p.rest.take (p.rest.length - q.rest.length)
        k { q with groups := (n, taken) :: q.groups }
    | .again n =>
      match p.groups.lookup n with
      | none => none
      | some text =>
        if text.isPrefixOf p.rest then
          k { p with before := text.getLast?.or p.before, rest := p.rest.drop text.length }
        else none
    | .times a least most =>
      let more : Option Progress :=
        if most = some 0 then none
        else
          advance fuel a p fun q =>
            if q.rest.length = p.rest.length && least = 0 then none
            else advance fuel (.times a (least - 1) (most.map (· - 1))) q k
      if least = 0 then further more fun _ => k p else more

/-- A place where an expression matches: what is before it, what it matches, and its groups. -/
structure Match where
  before : List Char
  matched : List Char
  after : List Char
  groups : List (Nat × List Char)

/-- As many steps as one line can take. -/
def stepBound (cs : List Char) : Nat := 8 * cs.length + 2000

/-- The match at the beginning of a text. -/
def matchAt? (r : Regex) (before : Option Char) (skipped cs : List Char) : Option Match :=
  (advance (stepBound cs) r ⟨before, cs, []⟩ some).map fun p =>
    ⟨skipped.reverse, cs.take (cs.length - p.rest.length), p.rest, p.groups⟩

/-- The first place where an expression matches, given the character before the text. -/
def findFrom (r : Regex) (before : Option Char) (skipped : List Char) : List Char → Option Match
  | [] => r.matchAt? before skipped []
  | c :: cs =>
    match r.matchAt? before skipped (c :: cs) with
    | some m => some m
    | none => findFrom r (some c) (c :: skipped) cs

def find? (r : Regex) (cs : List Char) : Option Match := findFrom r none [] cs

def isIn (r : Regex) (cs : List Char) : Bool := (r.find? cs).isSome

/-- Puts a character in front of what is before the first of some matches, or behind them. -/
def skipping (c : Char) (found : List Match × List Char) : List Match × List Char :=
  match found with
  | ([], rest) => ([], c :: rest)
  | (m :: ms, rest) => ({ m with before := c :: m.before } :: ms, rest)

/-- The matches in a text one after the other, each with what is between it and the one before, and
  the rest of the text. An empty one cannot stand directly behind another. The number bounds them,
  and the flag tells whether one has ended just before. -/
def matchesFrom (r : Regex) : Nat → Option Char → Bool → List Char → List Match × List Char
  | 0, _, _, cs => ([], cs)
  | n + 1, before, isBehind, cs =>
    match r.findFrom before [] cs with
    | none => ([], cs)
    | some m =>
      if !m.matched.isEmpty then
        let (ms, rest) := matchesFrom r n m.matched.getLast? true m.after
        (m :: ms, rest)
      else
        let rest := match m.after with
          | [] => ([], [])
          | c :: after => skipping c (matchesFrom r n (some c) false after)
        if isBehind && m.before.isEmpty then rest else (m :: rest.1, rest.2)

/-- All matches in a text, and what follows the last one. -/
def all (r : Regex) (cs : List Char) : List Match × List Char :=
  matchesFrom r (2 * cs.length + 2) none false cs

end Regex

end Crond.Script
