import Crond.Machine.Script.Command

/-
  The grammar of shell scripts.

  A script is read and run line by line, or rather command by command where a command spans lines:
  a fault in a later line shows only after the earlier ones have run. Words that are keywords are
  so only where a command can begin.
-/

namespace Crond.Script

/-- What can stand inside of a command. The first three are lists, which differ in their ends. -/
inductive Phrase where
  /-- The list ends with its line. -/
  | line
  /-- The list must not be empty. -/
  | body
  | anyBody
  | command
  deriving DecidableEq, Repr

structure Parsing where
  cursor : Cursor
  /-- The next token, if it has been looked at; the cursor is behind it then. -/
  ahead : Option Token := none
  /-- Whether that token can be replaced wherever it stands. -/
  isOpen : Bool := false

abbrev Parser := StateT Parsing (Except Misread)

/-- The parsers of the phrases inside of a phrase. -/
abbrev Parts := Phrase → Parser Command

def keywords : List String :=
  ["!", "case", "do", "done", "elif", "else", "esac", "fi", "for", "if", "in", "then", "until",
   "while", "\x7b", "\x7d"]

/-- The keyword that a token is where a command can begin. -/
def Token.keyword? : Token → Option String
  | .word w =>
    match w.plain? with
    | some cs => keywords.find? fun k => k.toList = cs
    | none => none
  | _ => none

/-- Whether a list ends before a token. -/
def Token.endsList (t : Token) : Bool :=
  match t with
  | .finish | .operator ")" | .operator ";;" => true
  | _ =>
    match t.keyword? with
    | some k => k ∈ ["do", "done", "elif", "else", "esac", "fi", "then", "\x7d"]
    | none => false

def quotedName (s : String) : String := "\"" ++ s ++ "\""

/-- A token as faults tell it. A word is told as a keyword only where it would be one. -/
def Token.title (t : Token) (isKeywordPlace : Bool) : String :=
  match t with
  | .word _ =>
    match t.keyword? with
    | some k => if isKeywordPlace then quotedName k else "word"
    | none => "word"
  | .newline => "newline"
  | .finish => "end of file"
  | .operator o => quotedName o
  | .redirection _ _ => "redirection"

namespace Parser

def fault {α : Type} (f : SyntaxFault) : Parser α := fun p => p.cursor.fail f

def unexpected {α : Type} (t : Token) (isKeywordPlace : Bool) (expected : Option String) :
    Parser α := fault (.unexpected (t.title isKeywordPlace) expected)

def line : Parser Nat := return (← get).cursor.line

/-- Takes what has been looked at. -/
def advance : Parser Unit := modify fun p => { p with ahead := none }

/-- Reads a list and the parenthesis that closes it. -/
def close (parts : Parts) (c : Cursor) : Except Misread Cursor := do
  let (_, p) ← (parts .anyBody).run { cursor := c }
  match p.ahead.getD .finish with
  | .operator ")" => .ok p.cursor
  | t => p.cursor.fail (.unexpected (t.title true) (some (quotedName ")")))

/-- Reads a list, up to what is no part of it. -/
def body (parts : Parts) (c : Cursor) : Except Misread Cursor := do
  let (_, p) ← (parts .anyBody).run { cursor := c }
  let ending := match p.ahead with
    | some (.operator o) => o.length
    | some t => (t.keyword?.map String.length).getD 0
    | none => 0
  return { p.cursor with rest := c.rest.drop (c.rest.length - p.cursor.rest.length - ending) }

def nesting (parts : Parts) : Nesting := ⟨close parts, body parts⟩

/-- The next token as it stands, which is not yet taken. -/
def look (parts : Parts) : Parser Token := fun p =>
  match p.ahead with
  | some t => .ok (t, p)
  | none => do
    let (t, cursor) ← token (nesting parts) p.cursor
    return (t, { cursor, ahead := some t, isOpen := p.cursor.leavesOpen cursor })

/-- A bound on the tokens to come, those from replacements among them. -/
def bound : Parser Nat := do
  let c := (← get).cursor
  let added := c.aliases.foldl (fun n a => n + a.2.length + 1) 1
  return (c.rest.length + 2) * added

/-- The next token, after other text has been put in place of words that stand for it: of those
  that can be replaced where they are, but for keywords, or wherever they are. The number bounds the
  words. -/
def peekReplaced (parts : Parts) (isCommand isReplaceable : Bool) : Nat → Parser Token
  | 0 => look parts
  | n + 1 => do
    let t ← look parts
    let p ← get
    match t with
    | .word w =>
      match w.plain?.bind p.cursor.alias? with
      | none => return t
      | some text =>
        if (isCommand && t.keyword?.isSome) || !(isReplaceable || p.isOpen) then return t
        set ({ cursor := p.cursor.replace (w.plain?.getD []) text } : Parsing)
        peekReplaced parts isCommand true n
    | _ => return t

/-- The next token, which is not yet taken. -/
def peek (parts : Parts) : Parser Token := do peekReplaced parts false false (← bound)

/-- The next token, which is taken. -/
def next (parts : Parts) : Parser Token := do
  let t ← peek parts
  advance
  return t

/-- Takes line ends. The number bounds how many. -/
def skipLines (parts : Parts) : Nat → Parser Unit
  | 0 => return
  | n + 1 => do
    match ← peek parts with
    | .newline => advance; skipLines parts n
    | _ => return

def skipAllLines (parts : Parts) : Parser Unit := do skipLines parts (← bound)

/-- The next token where a command can begin. -/
def peekCommand (parts : Parts) : Parser Token := do
  peekReplaced parts true true (← bound)

/-- The next token in a simple command, before or behind its name. -/
def peekInside (parts : Parts) (isNamed : Bool) : Parser Token := do
  peekReplaced parts false (!isNamed) (← bound)

def expectKeyword (parts : Parts) (k : String) : Parser Unit := do
  let t ← peek parts
  if t.keyword? = some k then advance else unexpected t true (some (quotedName k))

def expectOperator (parts : Parts) (o : String) (isKeywordPlace : Bool) : Parser Unit := do
  match ← peek parts with
  | .operator p => if p = o then advance else unexpected (.operator p) true (some (quotedName o))
  | t => unexpected t isKeywordPlace (some (quotedName o))

/-- The contents of a document as a word, given its delimiter. What is wrong with them shows only at
  the end of the line, and if there is none they are empty. -/
def document (parts : Parts) (delimiter : Word) (dropsTabs : Bool) : Parser Word := do
  let p ← get
  match lineEnd? (nesting parts) (← bound) { p.cursor with documents := 0 } with
  | none => return []
  | some ending =>
    let start := ending.skip p.cursor.documents
    let (text, length) := documentOf start.rest delimiter.literal delimiter.isQuoted dropsTabs
    let documents := p.cursor.documents + length
    let noted := { p.cursor with documents }
    let scanned :=
      if delimiter.isQuoted then .ok ([.text true text], start)
      else
        scan (nesting parts) (text.length + 1) .document { rest := text, line := start.line }
    match scanned with
    | .ok (w, _) =>
      set { p with cursor := noted }
      return w
    | .error e =>
      set { p with cursor := { noted with misread := noted.misread.or (some e) } }
      return []

/-- What follows the sign of a redirection. -/
def redirection (parts : Parts) (descriptor : Nat) (flow : Flow) : Parser Redirection := do
  match ← peek parts with
  | .word w =>
    advance
    match flow with
    | .document dropsTabs =>
      return { descriptor, flow, target := ← document parts w dropsTabs }
    | _ => return { descriptor, flow, target := w }
  | t => unexpected t false none

def redirections (parts : Parts) : Nat → Parser (List Redirection)
  | 0 => return []
  | n + 1 => do
    match ← peek parts with
    | .redirection d flow =>
      advance
      let r ← redirection parts d flow
      return r :: (← redirections parts n)
    | _ => return []

/-! ### Simple commands -/

/-- The parts of a simple command. -/
structure Simple where
  assignments : List (List Char × Word) := []
  words : List Word := []
  redirections : List Redirection := []

/-- Commands that no function can stand in for. -/
def specialNames : List String :=
  [".", ":", "break", "continue", "eval", "exec", "exit", "export", "local", "readonly", "return",
   "set", "shift", "times", "trap", "unset"]

/-- The body of a function, when its name and an opening parenthesis have been taken. -/
def definition (parts : Parts) (name : Word) : Parser Command := do
  expectOperator parts ")" false
  match name.plain? with
  | some cs =>
    if isName cs && String.ofList cs ∉ specialNames then
      skipAllLines parts
      return .definition cs (← parts .command)
    else fault .badFunctionName
  | none => fault .badFunctionName

/-- Reads on in a simple command that begins in a line. -/
def simple (parts : Parts) (line : Nat) (s : Simple) : Nat → Parser Command
  | 0 => fault .tooDeep
  | n + 1 => do
    let t ← peekInside parts (!s.words.isEmpty)
    match t with
    | .word w =>
      advance
      match s.words, w.assignment? with
      | [], some a => simple parts line { s with assignments := s.assignments ++ [a] } n
      | _, _ => simple parts line { s with words := s.words ++ [w] } n
    | .redirection d flow =>
      advance
      let r ← redirection parts d flow
      simple parts line { s with redirections := s.redirections ++ [r] } n
    | .operator "(" =>
      match s with
      | { assignments := [], words := [name], redirections := [] } =>
        advance
        definition parts name
      | _ => return .simple line s.assignments s.words s.redirections
    | _ => return .simple line s.assignments s.words s.redirections

/-! ### Compound commands -/

/-- What follows `then`, up to `fi`. -/
def branches (parts : Parts) : Nat → Parser (Command × Command)
  | 0 => fault .tooDeep
  | n + 1 => do
    let yes ← parts .body
    let t ← peek parts
    match t.keyword? with
    | some "elif" =>
      advance
      let test ← parts .body
      expectKeyword parts "then"
      let (yes', no') ← branches parts n
      return (yes, .conditional test yes' no')
    | some "else" =>
      advance
      let no ← parts .body
      expectKeyword parts "fi"
      return (yes, no)
    | _ =>
      expectKeyword parts "fi"
      return (yes, .nothing)

def conditional (parts : Parts) : Parser Command := do
  let test ← parts .body
  expectKeyword parts "then"
  let (yes, no) ← branches parts (← bound)
  return .conditional test yes no

/-- The commands between `do` and `done`. -/
def loopBody (parts : Parts) : Parser Command := do
  expectKeyword parts "do"
  let body ← parts .body
  expectKeyword parts "done"
  return body

def loop (parts : Parts) (whileSucceeds : Bool) : Parser Command := do
  let test ← parts .body
  return .loop whileSucceeds test (← loopBody parts)

/-- The words up to the end of a line or a semicolon, which is taken. -/
def wordsToEnd (parts : Parts) : Nat → Parser (List Word)
  | 0 => fault .tooDeep
  | n + 1 => do
    match ← next parts with
    | .word w => return w :: (← wordsToEnd parts n)
    | .newline | .operator ";" => return []
    | t => unexpected t false none

def forEach (parts : Parts) : Parser Command := do
  let line ← line
  match ← peek parts with
  | .word w =>
    advance
    match w.plain? with
    | none => fault .badLoopVariable
    | some name =>
      if !isName name then fault .badLoopVariable
      else
        skipAllLines parts
        let t ← peek parts
        if t.keyword? = some "in" then
          advance
          let words ← wordsToEnd parts (← bound)
          skipAllLines parts
          return .forEach line name (some words) (← loopBody parts)
        else
          match t with
          | .operator ";" => advance
          | _ => pure ()
          skipAllLines parts
          return .forEach line name none (← loopBody parts)
  | _ => fault .badLoopVariable

/-- The patterns in front of a parenthesis, which is taken. -/
def patterns (parts : Parts) : Nat → Parser (List Word)
  | 0 => fault .tooDeep
  | n + 1 => do
    let w : Word ← match ← next parts with
      | .word w => pure w
      | .finish => (do modify fun p => { p with ahead := some .finish }; pure [])
      | _ => pure []
    match ← peek parts with
    | .operator "|" => advance; return w :: (← patterns parts n)
    | .operator ")" => advance; return [w]
    | t => unexpected t false (some (quotedName ")"))

/-- The cases up to `esac`, which is taken. -/
def cases (parts : Parts) : Nat → Parser (List (List Word × Command))
  | 0 => fault .tooDeep
  | n + 1 => do
    skipAllLines parts
    let t ← peek parts
    if t.keyword? = some "esac" then
      advance
      return []
    else
      match t with
      | .operator "(" => advance
      | _ => pure ()
      let ws ← patterns parts (← bound)
      let body ← parts .anyBody
      skipAllLines parts
      let t ← peek parts
      match t.keyword?, t with
      | some "esac", _ => advance; return [(ws, body)]
      | _, .operator ";;" => advance; return (ws, body) :: (← cases parts n)
      | _, _ => unexpected t true (some (quotedName ";;"))

def choice (parts : Parts) : Parser Command := do
  let line ← line
  match ← peek parts with
  | .word subject =>
    advance
    skipAllLines parts
    expectKeyword parts "in"
    return .choice line subject (← cases parts (← bound))
  | t => unexpected t false (some "word")

/-- A compound command, which begins in a line, with the redirections behind it. -/
def withRedirections (parts : Parts) (line : Nat) (c : Command) : Parser Command := do
  match c, ← redirections parts (← bound) with
  | c, [] => return c
  | .subshell line c _, rs => return .subshell line c rs
  | c, rs => return .redirected line c rs

def command (parts : Parts) : Parser Command := do
  let t ← peekCommand parts
  let line ← line
  let compound (c : Parser Command) : Parser Command := do
    advance
    withRedirections parts line (← c)
  match t with
  | .operator "(" => compound do
    let c ← parts .body
    expectOperator parts ")" true
    return .subshell line c []
  | .redirection _ _ => simple parts line {} (← bound)
  | .word _ =>
    match t.keyword? with
    | some "if" => compound (conditional parts)
    | some "while" => compound (loop parts true)
    | some "until" => compound (loop parts false)
    | some "for" => compound (forEach parts)
    | some "case" => compound (choice parts)
    | some "\x7b" => compound do
      let c ← parts .body
      expectKeyword parts "\x7d"
      return c
    | some _ => unexpected t true none
    | none => simple parts line {} (← bound)
  | t => unexpected t true none

/-! ### Lists -/

/-- The further commands of a pipeline. -/
def stages (parts : Parts) : Nat → Parser (List Command)
  | 0 => fault .tooDeep
  | n + 1 => do
    match ← peek parts with
    | .operator "|" =>
      advance
      skipAllLines parts
      let c ← command parts
      return c :: (← stages parts n)
    | _ => return []

def pipeline (parts : Parts) : Parser Command := do
  let isNegated := (← peekCommand parts).keyword? = some "!"
  if isNegated then advance
  let first ← command parts
  let c : Command := match ← stages parts (← bound) with
    | [] => first
    | more => .pipeline (first :: more)
  return if isNegated then .negation c else c

/-- Reads on behind the first pipelines of an and-or list. -/
def andOrRest (parts : Parts) (c : Command) : Nat → Parser Command
  | 0 => fault .tooDeep
  | n + 1 => do
    match ← peek parts with
    | .operator "&&" =>
      advance
      skipAllLines parts
      andOrRest parts (.both c (← pipeline parts)) n
    | .operator "||" =>
      advance
      skipAllLines parts
      andOrRest parts (.either c (← pipeline parts)) n
    | _ => return c

def andOr (parts : Parts) : Parser Command := do
  andOrRest parts (← pipeline parts) (← bound)

/-- Reads on behind the first commands of a list. -/
def list (parts : Parts) (p : Phrase) (sofar : Command) (mayEnd : Bool) : Nat → Parser Command
  | 0 => fault .tooDeep
  | n + 1 => do
    if p ≠ .line then skipAllLines parts
    let t ← peekCommand parts
    match t with
    | .newline => advance; return sofar
    | .finish => return sofar
    | _ =>
      if p ≠ .line && mayEnd && t.endsList then return sofar
      let c ← andOr parts
      match ← peek parts with
      | .finish => return sofar.andThen c
      | .newline => list parts p (sofar.andThen c) true n
      | .operator ";" => advance; list parts p (sofar.andThen c) true n
      | .operator "&" => advance; list parts p (sofar.andThen (.background c)) true n
      | t => if p = .line then unexpected t true none else return sofar.andThen c

end Parser

/-- Reads a phrase. The number bounds how deeply phrases are nested. -/
def Parser.phrase : Nat → Phrase → Parser Command
  | 0, _ => fault .tooDeep
  | n + 1, .command => command (phrase n)
  | n + 1, p => do list (phrase n) p .nothing (p = .anyBody) (← bound)

/-- A command of a script, and where the script goes on. -/
structure Reading where
  /-- There is none at the end of the script. -/
  command : Option Command
  cursor : Cursor
  /-- Whether the script ends with the line of the command. -/
  isLast : Bool := false

/-- The next command of a script. -/
def nextCommand (c : Cursor) : Except Misread Reading := do
  let depth := c.rest.length + 1
  let (t, cursor) ← token (Parser.nesting (Parser.phrase depth)) c
  match t with
  | .finish => return { command := none, cursor }
  | .newline => return { command := some .nothing, cursor }
  | _ =>
    let (command, p) ← (Parser.phrase depth .line).run { cursor := c }
    let isLast := match p.ahead with
      | some .finish => true
      | _ => false
    return { command := some command, cursor := p.cursor, isLast }

/-- The word that a text is which is shown as a prompt. -/
def promptOf (text : List Char) : Except Misread Word :=
  let depth := text.length + 1
  (scan (Parser.nesting (Parser.phrase depth)) depth .document { rest := text }).map (·.1)

end Crond.Script
