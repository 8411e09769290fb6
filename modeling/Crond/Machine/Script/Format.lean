import Crond.Machine.Script.Arithmetic
import Crond.Machine.Script.Format.Shape

/-
  Formatted text: what `echo` and `printf` print.
-/

namespace Crond.Script.Format

open Text

/-! ### Escapes -/

/-- A number in octal, of a limited number of digits, and the rest. -/
def octal : Nat → Nat → List Char → Nat × List Char
  | places + 1, n, c :: cs =>
    if '0' ≤ c && c ≤ '7' then octal places (8 * n + (c.toNat - '0'.toNat)) cs else (n, c :: cs)
  | _, n, cs => (n, cs)

/-- What a letter behind a backslash stands for when it is printed. -/
def escaped? (c : Char) : Option Char :=
  [('a', '\x07'), ('b', '\x08'), ('f', '\x0c'), ('n', '\n'), ('r', '\r'), ('t', '\t'),
   ('v', '\x0b'), ('e', '\x1b'), ('\\', '\\')].lookup c

def byte (n : Nat) : Char := Char.ofNat (n % 256)

/-- The character that the text behind a backslash stands for, and the rest. A backslash that
  begins no escape stands for itself. -/
def escape (cs : List Char) : Char × List Char :=
  match cs with
  | [] => ('\\', [])
  | c :: rest =>
    if '0' ≤ c && c ≤ '7' then
      let (n, rest) := octal 3 0 cs
      (byte n, rest)
    else
      match escaped? c with
      | some e => (e, rest)
      | none => ('\\', cs)

/-- A text with its escapes replaced; the flag says whether printing goes on behind it. In such a
  text, octal numbers begin with a zero that does not count. -/
def unescape : Nat → List Char → List Char × Bool
  | 0, _ => ([], true)
  | _, [] => ([], true)
  | fuel + 1, c :: cs =>
    if c = '\\' then
      match cs with
      | 'c' :: _ => ([], false)
      | '0' :: cs =>
        let (n, cs) := octal 3 0 cs
        let (rest, goesOn) := unescape fuel cs
        (byte n :: rest, goesOn)
      | cs =>
        let (e, cs) := escape cs
        let (rest, goesOn) := unescape fuel cs
        (e :: rest, goesOn)
    else
      let (rest, goesOn) := unescape fuel cs
      (c :: rest, goesOn)

def echo (args : List (List Char)) : List Char :=
  let (args, ending) := match args with
    | ['-', 'n'] :: args => (args, [])
    | args => (args, ['\n'])
  let text := [' '].intercalate args
  match unescape (text.length + 1) text with
  | (cs, true) => cs ++ ending
  | (cs, false) => cs

/-! ### Directives -/

/-- What reading a number from an argument comes to, besides the number. -/
inductive Defect where
  | notNumeric
  | outOfRange
  | incomplete
  | badDirective
  | noLetter
  deriving DecidableEq, Repr

def Defect.text : Defect → String
  | notNumeric => "expected numeric value"
  | outOfRange => "Numerical result out of range"
  | incomplete => "not completely converted"
  | badDirective => "invalid directive"
  | noLetter => "missing format character"

/-- Whether printing ends there. -/
def Defect.isFinal (d : Defect) : Bool := d = badDirective || d = noLetter

/-- What is wrong with the text behind a number that is the front of an argument, or with the number
  itself. -/
def leftover? (rest : List Char) (isOutOfRange : Bool) : Option Defect :=
  if !rest.isEmpty then some .incomplete else if isOutOfRange then some .outOfRange else none

/-- What the number of an argument is that there is none in. -/
def nothingIn (cs : List Char) : Int × Option Defect :=
  (0, if cs.isEmpty then none else some .notNumeric)

/-- The number of the character behind a quote at the front of an argument. -/
def quoted? (cs : List Char) : Option Nat :=
  match cs with
  | '"' :: rest | '\'' :: rest => some ((rest.head?.map Char.toNat).getD 0)
  | _ => none

/-- The integer that an argument is. -/
def integerOf (cs : List Char) : Int × Option Defect :=
  match quoted? cs, Arithmetic.integerAt? Arithmetic.numeralAt cs with
  | some n, _ => (n, none)
  | none, none => nothingIn cs
  | none, some (n, rest) =>
    (Arithmetic.clamped n, leftover? rest (Arithmetic.clamped n ≠ n))

/-- The integer that an argument is, where there are no negative ones: those wrap around. -/
def naturalOf (cs : List Char) : Nat × Option Defect :=
  match quoted? cs, Arithmetic.integerAt? Arithmetic.numeralAt cs with
  | some n, _ => (n, none)
  | none, none => (0, (nothingIn cs).2)
  | none, some (n, rest) =>
    if 18446744073709551615 < n.natAbs then (18446744073709551615, leftover? rest true)
    else (Arithmetic.bits n, leftover? rest false)

/-- The fraction that an argument is. -/
def fractionOf (cs : List Char) : Floating × Option Defect :=
  match quoted? cs, floatingAt? cs with
  | some n, _ => ({ magnitude := (Magnitude.nearest n 1).1 }, none)
  | none, none => ({ magnitude := .finite 0 0 }, (nothingIn cs).2)
  | none, some (f, rest) => (f, leftover? rest f.isOutOfRange)

/-- What has been printed, and the arguments that have not been used. -/
structure Printing where
  out : List Char := []
  args : List (List Char)
  complaints : List (List Char × Defect) := []
  /-- Whether printing has been broken off. -/
  isDone : Bool := false

namespace Printing

def add (p : Printing) (cs : List Char) : Printing := { p with out := p.out ++ cs }

/-- The next argument; where there is none it counts as empty. -/
def next (p : Printing) : List Char × Printing :=
  match p.args with
  | [] => ([], p)
  | a :: rest => (a, { p with args := rest })

def note (p : Printing) (arg : List Char) (d : Option Defect) : Printing :=
  match d with
  | some d => { p with complaints := p.complaints ++ [(arg, d)] }
  | none => p

/-- A number in a directive, or a star for the next argument, of which 32 bits count. -/
def count (p : Printing) (cs : List Char) : Option Int × List Char × Printing :=
  match cs with
  | '*' :: cs =>
    let (arg, p) := p.next
    let (n, d) := integerOf arg
    (some (n.bmod 4294967296), cs, p.note arg d)
  | cs =>
    let (ds, rest) := cs.span Char.isDigit
    (if ds.isEmpty then none else some (digitsValue 10 ds : Int), rest, p)

/-- Carries out a directive, given its shape, its letter, and how it is written. -/
def directive (p : Printing) (s : Shape) (letter : Char) (written : List Char) : Printing :=
  let (arg, rest) := p.next
  let text (cs : List Char) : Printing := rest.add (s.text cs)
  let signed : Printing :=
    let (n, d) := integerOf arg
    (rest.note arg d).add (s.integer n)
  let unsigned (render : Nat → List Char) : Printing :=
    let (n, d) := naturalOf arg
    (rest.note arg d).add (render n)
  let fraction (style : Shape.Notation) : Printing :=
    let (f, d) := fractionOf arg
    (rest.note arg d).add (s.fraction style letter.isUpper f)
  match letter with
  | 's' => text arg
  | 'c' => rest.add (s.fill [arg.headD '\x00'])
  | 'b' =>
    let (cs, goesOn) := unescape (arg.length + 1) arg
    { text cs with isDone := !goesOn }
  | 'd' | 'i' => signed
  | 'u' => unsigned s.decimal
  | 'o' => unsigned s.octal
  | 'x' | 'X' => unsigned (s.hexadecimal letter.isUpper)
  | 'f' | 'F' => fraction .positional
  | 'e' | 'E' => fraction .scientific
  | 'g' | 'G' => fraction .general
  | 'a' | 'A' => fraction .hexadecimal
  | _ => { p.note written (some .badDirective) with isDone := true }

/-- Goes through a format once. -/
def pass : Nat → Printing → List Char → Printing
  | 0, p, _ => p
  | _, p, [] => p
  | fuel + 1, p, c :: cs =>
    if p.isDone then p
    else if c = '\\' then
      let (e, rest) := escape cs
      pass fuel (p.add [e]) rest
    else if c = '%' then
      match cs with
      | '%' :: rest => pass fuel (p.add ['%']) rest
      | _ =>
        let (s, rest) := Shape.flags {} cs
        let (width, rest, p) := p.count rest
        let s := match width with
          | some n => { s with width := n.natAbs, isLeft := s.isLeft || n < 0 }
          | none => s
        let (s, rest, p) := match rest with
          | '.' :: rest =>
            let (n, rest, p) := p.count rest
            let precision := if n.getD 0 < 0 then none else some (n.getD 0).toNat
            ({ s with precision }, rest, p)
          | rest => (s, rest, p)
        match rest with
        | letter :: rest =>
          let written := '%' :: cs.take (cs.length - rest.length)
          pass fuel (p.directive s letter written) rest
        | [] => { p.note [] (some .noLetter) with isDone := true }
    else pass fuel (p.add [c]) cs

/-- Goes through a format until the arguments are used up. -/
def repeated (format : List Char) : Nat → Printing → Printing
  | 0, p => p
  | n + 1, p =>
    let q := pass (format.length + 1) p format
    if q.isDone || q.args.isEmpty || q.args.length = p.args.length then q
    else repeated format n q

end Printing

/-- What is printed for a format and its arguments. -/
def printf (format : List Char) (args : List (List Char)) : Printing :=
  Printing.repeated format (args.length + 1) { args }

end Crond.Script.Format
