import Crond.Machine.Script.Word
import Crond.Text.Lines
import Crond.Text.Numeral

/-
  From the characters of a script to its tokens.

  A word may hold commands, whose end only the grammar can find; the scanner is given that part of
  the grammar as `closing`.
-/

namespace Crond.Script

open Text

inductive SyntaxFault where
  | unexpected (found : String) (expected : Option String)
  | openQuote
  | openBrace
  | openArithmetic
  | openBackquote
  | badLoopVariable
  | badFunctionName
  | tooDeep
  deriving DecidableEq, Repr

def SyntaxFault.text : SyntaxFault → String
  | unexpected found none => found ++ " unexpected"
  | unexpected found (some expected) => found ++ " unexpected (expecting " ++ expected ++ ")"
  | openQuote => "Unterminated quoted string"
  | openBrace => "Missing '\x7d'"
  | openArithmetic => "Missing '))'"
  | openBackquote => "EOF in backquote substitution"
  | badLoopVariable => "Bad for loop variable"
  | badFunctionName => "Bad function name"
  | tooDeep => "Too deeply nested"

/-- A fault and the line in which it shows. -/
structure Misread where
  line : Nat
  fault : SyntaxFault
  deriving DecidableEq, Repr

/-- A text that has been put in place of a word. -/
structure Replacement where
  /-- The word. -/
  name : List Char
  /-- How much of the script follows the text. -/
  behind : Nat
  /-- Whether the word behind it can be replaced too, wherever it stands. -/
  isOpen : Bool
  deriving DecidableEq, Repr

/-- A place in a script. -/
structure Cursor where
  rest : List Char
  line : Nat := 1
  /-- The length of the documents behind this line that have been read. -/
  documents : Nat := 0
  /-- What is wrong with them. -/
  misread : Option Misread := none
  /-- The words that stand for other text. -/
  aliases : List (List Char × List Char) := []
  replacements : List Replacement := []

/-- How the commands of a substitution are read: where they end. -/
structure Nesting where
  /-- Behind the parenthesis that closes them. -/
  close : Cursor → Except Misread Cursor
  /-- As far as there are commands. -/
  body : Cursor → Except Misread Cursor

def Cursor.fail {α : Type} (c : Cursor) (fault : SyntaxFault) : Except Misread α :=
  .error ⟨c.line, fault⟩

/-- Goes over some characters. -/
def Cursor.skip (c : Cursor) (n : Nat) : Cursor :=
  { c with rest := c.rest.drop n, line := c.line + (c.rest.take n).count '\n' }

/-- The characters between a cursor and a later one. -/
def Cursor.between (c later : Cursor) : List Char :=
  c.rest.take (c.rest.length - later.rest.length)

/-- Whether a word can still be replaced: not where its own replacement has not come to its end. -/
def Cursor.alias? (c : Cursor) (name : List Char) : Option (List Char) :=
  if c.replacements.any fun r => r.name = name && r.behind ≤ c.rest.length then none
  else c.aliases.lookup name

/-- Puts a text in place of a word that has been read. -/
def Cursor.replace (c : Cursor) (name text : List Char) : Cursor :=
  if text.isEmpty then c
  else
    let isOpen := text.getLast? = some ' ' || text.getLast? = some '\t'
    let inside := c.replacements.filter fun r => r.behind ≤ c.rest.length
    { c with
      rest := text ++ c.rest
      replacements := ⟨name, c.rest.length, isOpen⟩ :: inside }

/-- Whether a replacement that lets the next word be replaced ends between two places. -/
def Cursor.leavesOpen (c later : Cursor) : Bool :=
  c.replacements.any fun r =>
    r.isOpen && r.behind ≤ c.rest.length && later.rest.length < r.behind

/-! ### Words -/

/-- What the scanner is inside of. -/
inductive Setting where
  | word
  | quote
  /-- The operand of a parameter in braces. -/
  | operand (isQuoted isInDocument : Bool)
  /-- An expression, and how many parentheses are open in it. -/
  | arithmetic (depth : Nat)
  | document
  deriving DecidableEq, Repr

namespace Setting

def isQuoted : Setting → Bool
  | word => false
  | operand q _ => q
  | quote | arithmetic _ | document => true

/-- Whether a backslash protects a character. Where nothing is quoted it protects any. -/
def protects (s : Setting) (c : Char) : Bool :=
  c = '\\' || c = '\x60' || c = '$' || (c = '"' && s ≠ .document) ||
    match s with
    | operand _ _ => c = '\x7d'
    | _ => false

end Setting

def backquote : Char := '\x60'

/-- Whether a character ends a word. -/
def isMeta (c : Char) : Bool :=
  c = ' ' || c = '\t' || c = '\n' || c = ';' || c = '&' || c = '|' || c = '<' || c = '>' ||
    c = '(' || c = ')'

/-- A parameter named by one character that is no letter. -/
def isSpecial (c : Char) : Bool :=
  c.isDigit || c = '$' || c = '?' || c = '#' || c = '!' || c = '-' || c = '*' || c = '@'

/-- The name of a parameter in braces, and what follows it. -/
def bracedName? (cs : List Char) : Option (List Char × List Char) :=
  match cs with
  | [] => none
  | c :: rest =>
    if isNameStart c then some (cs.span isNameChar)
    else if c.isDigit then some (cs.span Char.isDigit)
    else if isSpecial c then some ([c], rest)
    else none

/-- What is done with the value of a parameter in braces, and where its operand begins. A use
  without an operand takes the closing brace along, and one that is not known its first
  character. -/
def useOf (cs : List Char) : Use × List Char :=
  let conditional (countsEmpty : Bool) (cs : List Char) : Use × List Char :=
    match cs with
    | '\x7d' :: rest => (.value, rest)
    | '-' :: rest => (.fallback countsEmpty, rest)
    | '=' :: rest => (.assign countsEmpty, rest)
    | '?' :: rest => (.demand countsEmpty, rest)
    | '+' :: rest => (.replace countsEmpty, rest)
    | cs => (.malformed, cs.drop 1)
  match cs with
  | ':' :: '\x7d' :: rest => (.malformed, rest)
  | ':' :: rest => conditional true rest
  | '#' :: '#' :: rest => (.trim true true, rest)
  | '#' :: rest => (.trim true false, rest)
  | '%' :: '%' :: rest => (.trim false true, rest)
  | '%' :: rest => (.trim false false, rest)
  | _ => conditional false cs

/-- What stands in braces, up to its operand. -/
def braced (cs : List Char) : List Char × Use × List Char :=
  let ordinary : List Char × Use × List Char :=
    match bracedName? cs with
    | some (name, rest) => (name, useOf rest)
    | none => ([], .malformed, if cs.head? = some '\x7d' then cs else cs.drop 1)
  match cs with
  | '#' :: rest =>
    match bracedName? rest, rest with
    | some (name, '\x7d' :: rest), _ => (name, .length, rest)
    | none, _ :: '\x7d' :: rest' =>
      if rest.head? = some '\x7d' then ordinary else ([], .malformed, '\x7d' :: rest')
    | _, _ => ordinary
  | _ => ordinary

def Use.hasOperand : Use → Bool
  | value | length => false
  | _ => true

def Setting.isInDocument : Setting → Bool
  | document | operand _ true => true
  | _ => false

/-- How the operand of a use is read: patterns have quotes of their own. -/
def Use.setting (u : Use) (s : Setting) : Setting :=
  match u with
  | trim _ _ => .operand false s.isInDocument
  | _ => .operand s.isQuoted s.isInDocument

/-- The commands between backquotes, without the backslashes that only protect, and what follows. -/
def backquoted (isQuoted : Bool) : List Char → Option (List Char × List Char)
  | [] => none
  | '\\' :: '\n' :: cs => backquoted isQuoted cs
  | '\\' :: c :: cs =>
    (backquoted isQuoted cs).map fun (inside, rest) =>
      if c = '\\' || c = backquote || c = '$' || (isQuoted && c = '"') then (c :: inside, rest)
      else ('\\' :: c :: inside, rest)
  | c :: cs =>
    if c = backquote then some ([], cs)
    else (backquoted isQuoted cs).map fun (inside, rest) => (c :: inside, rest)

abbrev Scanned := Except Misread (Word × Cursor)

/-- Puts a piece in front of what was scanned after it. -/
def Scanned.after (p : Piece) (r : Scanned) : Scanned := r.map fun (w, c) => (w.join p, c)

/-- What a dollar sign begins. The cursor is behind it. -/
def dollar (nested : Nesting) (inner : Setting → Cursor → Scanned) (s : Setting) (c : Cursor) :
    Except Misread (Piece × Cursor) :=
  let isQuoted := s.isQuoted
  match c.rest with
  | [] => .ok (.text isQuoted ['$'], c)
  | '(' :: '(' :: _ => do
    let (w, c) ← inner (.arithmetic 0) (c.skip 2)
    return (.arithmetic isQuoted w, c)
  | '(' :: _ => do
    let start := { c.skip 1 with documents := 0, misread := none }
    let stop ← nested.close start
    return (.substitution isQuoted start.line (start.between stop).dropLast,
      { stop with documents := c.documents, misread := c.misread })
  | '\x7b' :: cs => do
    let (name, use, rest) := braced cs
    let c := { c with rest }
    if use.hasOperand then
      let (w, c) ← inner (use.setting s) c
      return (.parameter isQuoted name use w, c)
    else return (.parameter isQuoted name use [], c)
  | x :: cs =>
    if isNameStart x then
      let name := (x :: cs).takeWhile isNameChar
      .ok (.parameter isQuoted name .value [], c.skip name.length)
    else if isSpecial x then .ok (.parameter isQuoted [x] .value [], c.skip 1)
    else .ok (.text isQuoted ['$'], c)

/-- What is found where the script ends inside of something. -/
def Setting.atEnd (s : Setting) (c : Cursor) : Scanned :=
  match s with
  | word | document => .ok ([], c)
  | quote | operand true false => c.fail .openQuote
  | operand _ _ => c.fail .openBrace
  | arithmetic _ => c.fail .openArithmetic

/-- A quoted part, and what follows it. The cursor is at the quote. Quoted text in front makes a
  field of the part even if it turns out empty, unless it is all parameters and nothing else. -/
def quoted (inner : Setting → Cursor → Scanned) (s : Setting) (c : Cursor) : Scanned :=
  let behind := c.skip 1
  if c.rest.head? = some '\'' then
    let inside := behind.rest.takeWhile (· ≠ '\'')
    let after := behind.skip inside.length
    if after.rest.isEmpty then after.fail .openQuote
    else (inner s (after.skip 1)).after (.text true inside)
  else do
    let (w, c) ← inner .quote behind
    let (rest, c) ← inner s c
    match w with
    | [.parameter _ ['@'] .value _] => return (w ++ rest, c)
    | w => return (Word.join (.text true []) w ++ rest, c)

/-- What a character that begins no substitution means inside of something. -/
inductive Meaning where
  /-- It stands for itself, and what follows it is inside of the setting. -/
  | literal (s : Setting)
  /-- It changes nothing, but it can tell that something is there, even if that is empty. -/
  | mark (tells : Bool)
  /-- A quoted part begins. -/
  | quotation
  /-- The setting ends here, and takes some characters along. -/
  | ending (length : Nat)

/-- The meaning of a character in front of others. -/
def Setting.meaning (s : Setting) (x : Char) (cs : List Char) : Meaning :=
  let isQuote := x = '\'' || x = '"'
  match s with
  | word => if isMeta x then .ending 0 else if isQuote then .quotation else .literal s
  | quote => if x = '"' then .ending 1 else .literal s
  | operand isQuoted isInDocument =>
    if x = '\x7d' then .ending 1
    else if isQuoted then if x = '"' then .mark !isInDocument else .literal s
    else if isQuote then .quotation
    else .literal s
  | arithmetic depth =>
    if x = '(' then .literal (.arithmetic (depth + 1))
    else if x = ')' then
      match depth with
      | depth + 1 => .literal (.arithmetic depth)
      | 0 => if cs.head? = some ')' then .ending 2 else .literal s
    else .literal s
  | document => .literal s

/-- Scans to the end of what the scanner is inside of. The number bounds the characters to go. -/
def scan (nested : Nesting) : Nat → Setting → Cursor → Scanned
  | 0, _, c => c.fail .tooDeep
  | fuel + 1, s, c =>
    match c.rest with
    | [] => s.atEnd c
    | '\\' :: '\n' :: _ => scan nested fuel s (c.skip 2)
    | ['\\'] => (scan nested fuel s (c.skip 1)).after (.text true ['\\'])
    | '\\' :: x :: _ =>
      let kept := if s.isQuoted && !s.protects x then ['\\', x] else [x]
      (scan nested fuel s (c.skip 2)).after (.text true kept)
    | '$' :: _ => do
      let (p, c) ← dollar nested (scan nested fuel) s (c.skip 1)
      (scan nested fuel s c).after p
    | x :: cs =>
      if x = backquote then
        match backquoted s.isQuoted cs with
        | none => (c.skip c.rest.length).fail .openBackquote
        | some (inside, rest) => do
          let stop ← nested.body { rest := inside, aliases := c.aliases }
          let commands := inside.take (inside.length - stop.rest.length)
          (scan nested fuel s (c.skip (c.rest.length - rest.length))).after
            (.substitution s.isQuoted 1 commands)
      else
        match s.meaning x cs with
        | .literal s' => (scan nested fuel s' (c.skip 1)).after (.text s.isQuoted [x])
        | .mark tells =>
          let r := scan nested fuel s (c.skip 1)
          if tells then r.after (.text true []) else r
        | .quotation => quoted (scan nested fuel) s c
        | .ending length => .ok ([], c.skip length)

/-! ### Tokens -/

/-- What a redirection does. -/
inductive Flow where
  | input
  | output
  | append
  /-- Output to a file that may be there already. -/
  | overwrite
  | both
  | copyInput
  | copyOutput
  | document (dropsTabs : Bool)
  deriving DecidableEq, Repr

namespace Flow

/-- The descriptor that is meant where none is named. -/
def standard : Flow → Nat
  | input | both | copyInput | document _ => 0
  | output | append | overwrite | copyOutput => 1

/-- The redirection at the front of a text, and its length. -/
def read? : List Char → Option (Flow × Nat)
  | '<' :: '<' :: '-' :: _ => some (.document true, 3)
  | '<' :: '<' :: _ => some (.document false, 2)
  | '<' :: '&' :: _ => some (.copyInput, 2)
  | '<' :: '>' :: _ => some (.both, 2)
  | '<' :: _ => some (.input, 1)
  | '>' :: '>' :: _ => some (.append, 2)
  | '>' :: '&' :: _ => some (.copyOutput, 2)
  | '>' :: '|' :: _ => some (.overwrite, 2)
  | '>' :: _ => some (.output, 1)
  | _ => none

end Flow

inductive Token where
  | word (w : Word)
  | newline
  | finish
  | operator (text : String)
  | redirection (descriptor : Nat) (flow : Flow)

/-- The operator at the front of a text. -/
def operator? : List Char → Option String
  | ';' :: ';' :: _ => some ";;"
  | ';' :: _ => some ";"
  | '&' :: '&' :: _ => some "&&"
  | '&' :: _ => some "&"
  | '|' :: '|' :: _ => some "||"
  | '|' :: _ => some "|"
  | '(' :: _ => some "("
  | ')' :: _ => some ")"
  | _ => none

/-- The length of the blanks and continued lines at the front of a text. -/
def blankLength : List Char → Nat
  | ' ' :: cs | '\t' :: cs => blankLength cs + 1
  | '\\' :: '\n' :: cs => blankLength cs + 2
  | _ => 0

/-- Goes over blanks and a comment. -/
def Cursor.skipBlank (c : Cursor) : Cursor :=
  let c := c.skip (blankLength c.rest)
  if c.rest.head? = some '#' then c.skip (c.rest.takeWhile (· ≠ '\n')).length else c

/-- Goes over the end of the line, and over the documents behind it. -/
def Cursor.skipLine (c : Cursor) : Except Misread Cursor :=
  match c.misread with
  | some e => .error e
  | none => .ok { c.skip (c.documents + 1) with documents := 0 }

/-- The descriptor that a word in front of a redirection names: a single digit. -/
def descriptor? : Word → Option (Option Nat)
  | [] => some none
  | [.text false [d]] => (digit? d).map some
  | _ => none

/-- The next token. -/
def token (nested : Nesting) (c : Cursor) : Except Misread (Token × Cursor) :=
  let c := c.skipBlank
  match c.rest with
  | [] => .ok (.finish, c)
  | '\n' :: _ => c.skipLine.map fun c => (.newline, c)
  | _ =>
    match operator? c.rest with
    | some o => .ok (.operator o, c.skip o.length)
    | none => do
      let (w, after) ← scan nested (c.rest.length + 1) .word c
      match descriptor? w, Flow.read? after.rest with
      | some d, some (flow, n) => return (.redirection (d.getD flow.standard) flow, after.skip n)
      | _, _ => return (.word w, after)

/-- Whether a backslash protects the end of a line. -/
def isContinued (piece : List Char) : Bool :=
  piece.getLast? = some '\n' && (piece.dropLast.reverse.takeWhile (· = '\\')).length % 2 = 1

/-- Joins lines to those that they go on in. -/
def joinContinued (pieces : List (List Char)) : List (List Char) :=
  pieces.foldr (fun p ps =>
    match ps with
    | q :: qs => if isContinued p then (p ++ q) :: qs else p :: ps
    | [] => [p]) []

/-- The place behind the end of the line, if the line can be read to its end. The number bounds the
  tokens to come. -/
def lineEnd? (nested : Nesting) : Nat → Cursor → Option Cursor
  | 0, _ => none
  | n + 1, c =>
    match token nested c with
    | .ok (.newline, c) => some c
    | .ok (.finish, _) | .error _ => none
    | .ok (_, c) => lineEnd? nested n c

/-- The document at the front of a text, which ends before a line that is its delimiter, and how
  much of the text it takes up. Unless it is taken as it stands, lines can go on in the next one,
  and it cannot begin with one that only does that. -/
def documentOf (cs : List Char) (delimiter : List Char) (isLiteral dropsTabs : Bool) :
    List Char × Nat :=
  let (empty, behind) :=
    if isLiteral then ([], pieces cs)
    else
      let (empty, behind) := (pieces cs).span fun piece => piece = ['\\', '\n']
      (empty, joinContinued behind)
  let bare (piece : List Char) := if dropsTabs then piece.dropWhile (· = '\t') else piece
  let isInside (piece : List Char) := (bare piece).filter (· ≠ '\n') ≠ delimiter
  let (inside, after) := behind.span isInside
  ((inside.map bare).flatten, (empty ++ inside ++ after.take 1).flatten.length)

end Crond.Script
