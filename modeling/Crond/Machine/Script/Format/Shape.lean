import Crond.Machine.Floating

/-
  The shapes in which `printf` prints texts and numbers: how wide they are, how many digits they
  have, and what is put in front of them.
-/

namespace Crond.Script.Format

open Text

/-- What stands between the percent sign and the letter of a directive. -/
structure Shape where
  isLeft : Bool := false
  hasZeros : Bool := false
  hasPlus : Bool := false
  hasBlank : Bool := false
  isAlternate : Bool := false
  width : Nat := 0
  precision : Option Nat := none
  deriving DecidableEq, Repr

namespace Shape

/-- Reads flags. -/
def flags : Shape → List Char → Shape × List Char
  | s, '-' :: cs => flags { s with isLeft := true } cs
  | s, '0' :: cs => flags { s with hasZeros := true } cs
  | s, '+' :: cs => flags { s with hasPlus := true } cs
  | s, ' ' :: cs => flags { s with hasBlank := true } cs
  | s, '#' :: cs => flags { s with isAlternate := true } cs
  | s, cs => (s, cs)

/-- Fills a text up to the width. -/
def fill (s : Shape) (cs : List Char) : List Char :=
  let blanks := List.replicate (s.width - cs.length) ' '
  if s.isLeft then cs ++ blanks else blanks ++ cs

/-- Fills a number up to the width: its sign or base, and its digits. -/
def fillNumber (s : Shape) (sign digits : List Char) : List Char :=
  if s.hasZeros && !s.isLeft then
    sign ++ List.replicate (s.width - sign.length - digits.length) '0' ++ digits
  else s.fill (sign ++ digits)

def text (s : Shape) (cs : List Char) : List Char :=
  s.fill (match s.precision with
    | some n => cs.take n
    | none => cs)

def sign (s : Shape) (isNegative : Bool) : List Char :=
  if isNegative then ['-'] else if s.hasPlus then ['+'] else if s.hasBlank then [' '] else []

/-! ### Whole numbers -/

/-- Digits with zeros in front up to the precision. -/
def atLeast (s : Shape) (digits : List Char) : List Char :=
  List.replicate (s.precision.getD 1 - digits.length) '0' ++ digits

/-- Digits, of which a zero has none where none are asked for. -/
def digits (base n : Nat) (s : Shape) : List Char :=
  if n = 0 then s.atLeast [] else s.atLeast (Nat.toDigits base n)

/-- Fills a whole number up to the width. A precision rules zeros in front out. -/
def fillWhole (s : Shape) : List Char → List Char → List Char :=
  fillNumber { s with hasZeros := s.hasZeros && s.precision.isNone }

def integer (s : Shape) (n : Int) : List Char :=
  s.fillWhole (s.sign (n < 0)) (digits 10 n.natAbs s)

def decimal (s : Shape) (n : Nat) : List Char := s.fillWhole [] (digits 10 n s)

/-- A number of base eight. The alternate shape begins with a zero. -/
def octal (s : Shape) (n : Nat) : List Char :=
  let ds := digits 8 n s
  s.fillWhole [] (if s.isAlternate && ds.head? ≠ some '0' then '0' :: ds else ds)

/-- A number of base sixteen, with a mark in front in the alternate shape. -/
def hexadecimal (s : Shape) (isUpper : Bool) (n : Nat) : List Char :=
  let mark := if s.isAlternate && n ≠ 0 then ['0', 'x'] else []
  let cased (cs : List Char) : List Char := if isUpper then cs.map Char.toUpper else cs
  s.fillWhole (cased mark) (cased (digits 16 n s))

/-! ### Fractions -/

/-- Digits with a point between them, which needs digits behind it unless the alternate shape is
  asked for. -/
def pointed (s : Shape) (whole behind : List Char) : List Char :=
  whole ++ (if behind.isEmpty && !s.isAlternate then [] else '.' :: behind)

/-- The power behind a letter. -/
def power (letter : Char) (places : Nat) (n : Int) : List Char :=
  letter :: (if n < 0 then '-' else '+') :: padded places n.natAbs

/-- Digits, the first of them in front of the point, and a power of ten. -/
def powered (s : Shape) (digits : List Char) (n : Int) : List Char :=
  s.pointed (digits.take 1) (digits.drop 1) ++ power 'e' 2 n

/-- Text without the zeros behind its last digit that is none. -/
def withoutZeros (cs : List Char) : List Char := (cs.reverse.dropWhile (· = '0')).reverse

/-- The shorter of the two notations, without zeros at the end unless the alternate shape is asked
  for. -/
def general (s : Shape) (a b : Nat) : List Char :=
  let places := max 1 (s.precision.getD 6)
  let (ds, n) := scientific a b (places - 1)
  let trim (cs : List Char) : List Char := if s.isAlternate then cs else withoutZeros cs
  if -4 ≤ n && n < places then
    let (whole, behind) := positional a b ((places : Int) - 1 - n).toNat
    s.pointed whole (trim behind)
  else s.powered (ds.take 1 ++ trim (ds.drop 1)) n

/-- The notations of fractions. -/
inductive Notation where
  | positional
  | scientific
  | general
  | hexadecimal
  deriving DecidableEq, Repr

/-- A finite number that is not negative, with the mark in front of it. -/
def finite (s : Shape) (style : Notation) (mantissa : Nat) (exponent : Int) :
    List Char × List Char :=
  let (a, b) := Magnitude.quotient mantissa exponent
  match style with
  | .positional =>
    let (whole, behind) := Text.positional a b (s.precision.getD 6)
    ([], s.pointed whole behind)
  | .scientific =>
    let (ds, n) := Text.scientific a b (s.precision.getD 6)
    ([], s.powered ds n)
  | .general => ([], s.general a b)
  | .hexadecimal =>
    let (ds, n) := Text.hexadecimal mantissa exponent s.precision
    (['0', 'x'], s.pointed (ds.take 1) (ds.drop 1) ++ power 'p' 1 n)

/-- A number in a notation. What is no finite number is filled up with blanks. -/
def fraction (s : Shape) (style : Notation) (isUpper : Bool) (f : Floating) : List Char :=
  let sign := s.sign f.isNegative
  let cased (cs : List Char) : List Char := if isUpper then cs.map Char.toUpper else cs
  match f.magnitude with
  | .infinite => s.fill (sign ++ cased "inf".toList)
  | .notNumber => s.fill (sign ++ cased "nan".toList)
  | .finite mantissa exponent =>
    let (mark, cs) := s.finite style mantissa exponent
    s.fillNumber (sign ++ cased mark) (cased cs)

end Shape

end Crond.Script.Format
