import Crond.Machine.Script.Program.Finding.Condition

/-
  What is told of a file that has been found: by a format with directives, or in one line with
  everything.
-/

namespace Crond.Script

open Text Files Calendar

namespace Finding

/-! ### Formats -/

/-- The characters that a backslash and a letter stand for. -/
def escapes : List (Char × Char) :=
  [('a', '\x07'), ('b', '\x08'), ('f', '\x0c'), ('n', '\n'), ('r', '\r'), ('t', '\t'),
    ('v', '\x0b'), ('\\', '\\')]

/-- A format that has been read: its parts, what it is warned of, or why it is none. -/
structure Format where
  pieces : List Piece := []
  warnings : List (List Char) := []
  fault? : Option (List Char) := none

def Format.led (p : Piece) (f : Format) : Format := { f with pieces := p :: f.pieces }

def Format.warned (message : List Char) (f : Format) : Format :=
  { f with warnings := message :: f.warnings }

/-- Reads a format. The number bounds it. -/
def readFormat : Nat → List Char → Format
  | 0, _ => {}
  | _, [] => {}
  | n + 1, '\\' :: cs =>
    match cs with
    | [] =>
      ((readFormat n []).led (.text ['\\'])).warned
        (bytes "escape \x60\\' followed by nothing at all")
    | 'c' :: _ => { pieces := [.stop] }
    | c :: rest =>
      let digits := (cs.take 3).takeWhile fun d => '0' ≤ d && d ≤ '7'
      if !digits.isEmpty then
        let code := digitsValue 8 digits % 256
        (readFormat n (cs.drop digits.length)).led (.text [Char.ofNat code])
      else
        match escapes.lookup c with
        | some d => (readFormat n rest).led (.text [d])
        | none =>
          ((readFormat n rest).led (.text ['\\', c])).warned
            (bytes "unrecognized escape \x60\\" ++ [c, '\''])
  | n + 1, '%' :: cs =>
    match cs with
    | [] => { fault? := some (bytes "error: % at end of format string") }
    | '%' :: rest => (readFormat n rest).led (.text ['%'])
    | _ =>
      let (flags, rest) := cs.span fun c => c = '-' || c = '+' || c = ' ' || c = '#'
      let (width, rest) := rest.span Char.isDigit
      let (most, rest) : Option Nat × List Char := match rest with
        | '.' :: behind =>
          let (digits, behind) := behind.span Char.isDigit
          (some (Utility.natural digits), behind)
        | _ => (none, rest)
      let field (letter : Char) (of : Option Char) : Piece :=
        .field (flags.contains '-') (width.head? = some '0') (flags.contains '#') (Utility.natural width)
          most letter of
      match rest with
      | [] => { fault? := some (bytes "error: %" ++ cs ++ bytes " at end of format string") }
      | c :: behind =>
        if (bytes "abcdDfFgGhHiklmMnpPsStuUyYZ").contains c then
          (readFormat n behind).led (field c none)
        else
          match (if (bytes "ABCT").contains c then behind else []) with
          | key :: behind => (readFormat n behind).led (field c (some key))
          | [] =>
            let whole := '%' :: cs.take (cs.length - behind.length)
            ((readFormat n behind).led (.text whole)).warned
              (bytes "unrecognized format directive \x60%" ++ [c, '\''])
  | n + 1, c :: cs => (readFormat n cs).led (.text [c])

/-! ### Fields -/

/-- The fraction of a second, as it is shown behind a point. -/
def fraction (t : Int) : List Char :=
  let digits := numeral (t % nanosPerSecond).toNat
  '.' :: List.replicate (9 - digits.length) '0' ++ digits ++ ['0']

/-- A moment, as a letter asks. -/
def momentText (t : Int) (key : Char) : List Char :=
  let written (p : String) : List Char := Moment.written ⟨t⟩ (bytes p)
  match key with
  | '@' => written "%s" ++ fraction t
  | '+' => written "%Y-%m-%d+%H:%M:%S" ++ fraction t
  | 'S' => written "%S" ++ fraction t
  | 'T' | 'X' => written "%H:%M:%S" ++ fraction t
  | 'c' => written "%a %b %e %H:%M:%S %Y"
  | key =>
    if (bytes "aAbBdDhHIjklmMprsUwWxyYZ").contains key then Moment.written ⟨t⟩ ['%', key]
    else ['%', key]

/-- The path of the directory that a file is in, as far as it is written. -/
def Entry.front (e : Entry) : Name :=
  if e.path.contains '/' then
    ((e.path.reverse.dropWhile (· ≠ '/')).drop 1).reverse
  else ['.']

/-- A letter for what a link leads to. -/
def Entry.otherLetter (e : Entry) (sh : Shell) (followsLinks : Bool) : Char :=
  match e.item.node, e.other sh followsLinks with
  | .link _, none =>
    match sh.files.resolve e.place.dropLast (e.place.getLastD []) with
    | .error .tooManyLinks => 'L'
    | _ => 'N'
  | node, other => letterOf (other.getD node)

/-- What a letter asks of a file. -/
def Entry.field (e : Entry) (sh : Shell) (followsLinks isMarked : Bool) (letter : Char)
    (of : Option Char) : List Char :=
  let t := e.item.modified
  let written (p : String) : List Char := Moment.written ⟨t⟩ (bytes p)
  match letter with
  | 'p' => e.path
  | 'f' => e.base
  | 'h' => e.front
  | 'P' => (e.path.drop e.start.length).dropWhile (· = '/')
  | 'H' => e.start
  | 'd' => numeral e.depth
  | 's' => numeral (Utility.sizeOf e.item)
  | 'k' => numeral (Utility.begun (Utility.roomOf e.item) 1024)
  | 'b' => numeral (Utility.begun (Utility.roomOf e.item) 512)
  | 'm' =>
    let digits := Nat.toDigits 8 e.item.rights
    if isMarked && e.item.rights ≠ 0 then '0' :: digits else digits
  | 'M' => Utility.kindLetter e.item.node :: Rights.text e.item.rights
  | 'y' => [letterOf e.item.node]
  | 'Y' => [e.otherLetter sh followsLinks]
  | 'u' | 'g' => bytes "root"
  | 'U' | 'G' | 'D' => ['0']
  | 'F' => bytes "overlay"
  | 'i' => numeral ((sh.files.number? e.place).getD 0)
  | 'n' => numeral (e.links sh)
  | 'l' =>
    match e.item.node with
    | .link way => way
    | _ => []
  | 't' | 'a' | 'c' =>
    written "%a %b %e %H:%M:%S" ++ fraction t ++ written " %Y"
  | _ =>
    match of with
    | some key => momentText t key
    | none => []

/-- A text put into a field. -/
def inField (isLeft isFilled : Bool) (width : Nat) (cs : List Char) : List Char :=
  let gap := width - cs.length
  if isLeft then cs ++ List.replicate gap ' '
  else List.replicate gap (if isFilled then '0' else ' ') ++ cs

/-- What is told of a file. -/
def Entry.report (e : Entry) (sh : Shell) (followsLinks : Bool) (ps : List Piece) : List Char :=
  (ps.takeWhile fun p => match p with | .stop => false | _ => true).flatMap fun p =>
    match p with
    | .text cs => cs
    | .stop => []
    | .field isLeft isFilled isMarked width most letter of =>
      let cs := e.field sh followsLinks isMarked letter of
      let isNumber := letter = 'm' || letter = 'd'
      inField isLeft (isFilled && isNumber) width
        (match most with
          | some n => if isNumber then cs else cs.take n
          | none => cs)

/-! ### Lines with everything -/

/-- A name as it stands in a line with everything. -/
def listedName (name : Name) : List Char :=
  (Utility.escapedName false name).flatMap fun c => if c = '"' then ['\\', '"'] else [c]

def Entry.listed (e : Entry) (sh : Shell) : List Char :=
  let right (width : Nat) (n : Nat) : List Char := inField false false width (numeral n)
  let left (cs : String) : List Char := inField true false 8 (bytes cs)
  let target : List Char := match e.item.node with
    | .link way => bytes " -> " ++ listedName way
    | _ => []
  let size := ({} : Utility.Listing).sizeText e.item
  [' '].intercalate
    [right 9 ((sh.files.number? e.place).getD 0),
      right 6 (Utility.begun (Utility.roomOf e.item) 1024),
      Utility.kindLetter e.item.node :: Rights.text e.item.rights, right 3 (e.links sh),
      left "root", left "root", inField false false 8 size,
      ({} : Utility.Listing).moment sh e.item, listedName e.path ++ target] ++ ['\n']

end Finding

end Crond.Script
