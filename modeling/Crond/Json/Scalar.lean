import Crond.Json.Node

/-
  Reading the strings, numbers and words of a JSON text, byte by byte.

  Each reader gets the bytes behind the ones that told what is to be read, and gives a node with
  the bytes after it, or the node alone where nothing behind it can be read.
-/

namespace Crond.Json

abbrev Bytes := List UInt8

/-- The byte of an ASCII character. -/
def ascii (c : Char) : UInt8 := c.toNat.toUInt8

def isSpace (b : UInt8) : Bool :=
  b = ascii ' ' || b = ascii '\n' || b = ascii '\t' || b = ascii '\r'

def skipSpace (bs : Bytes) : Bytes := bs.dropWhile isSpace

def isDigit (b : UInt8) : Bool := ascii '0' ≤ b && b ≤ ascii '9'

def digitValue (b : UInt8) : Nat := b.toNat - '0'.toNat

/-! ### Strings -/

/-- A part of a string: a byte that stands for itself, or a UTF-16 unit written with an escape. -/
inductive Part where
  | byte (b : UInt8)
  | unit (n : Nat)
  deriving DecidableEq, Repr

def hexValue? (b : UInt8) : Option Nat :=
  if isDigit b then some (digitValue b)
  else if ascii 'a' ≤ b && b ≤ ascii 'f' then some (b.toNat - 'a'.toNat + 10)
  else if ascii 'A' ≤ b && b ≤ ascii 'F' then some (b.toNat - 'A'.toNat + 10)
  else none

/-- The byte for which a letter after a backslash stands. -/
def escaped? (b : UInt8) : Option UInt8 :=
  if b = ascii '"' || b = ascii '\\' || b = ascii '/' then some b
  else if b = ascii 'b' then some 8
  else if b = ascii 'f' then some 12
  else if b = ascii 'n' then some 10
  else if b = ascii 'r' then some 13
  else if b = ascii 't' then some 9
  else none

/--
The parts of a string up to its closing quote, and the bytes after that; or, with the parts so far,
the flaw that ends it. The four bytes of a unit are fetched before any of them is judged.
-/
def readParts : Bytes → List Part × Except Flaw Bytes
  | [] => ([], .error .truncated)
  | b :: bs =>
    if b = ascii '"' then ([], .ok bs)
    else if b = ascii '\\' then
      match bs with
      | [] => ([], .error .truncated)
      | e :: bs =>
        if e = ascii 'u' then
          match bs with
          | h₁ :: h₂ :: h₃ :: h₄ :: bs =>
            match hexValue? h₁, hexValue? h₂, hexValue? h₃, hexValue? h₄ with
            | some d₁, some d₂, some d₃, some d₄ =>
              let (parts, rest) := readParts bs
              (.unit (((16 * d₁ + d₂) * 16 + d₃) * 16 + d₄) :: parts, rest)
            | _, _, _, _ => ([], .error .malformed)
          | _ => ([], .error .truncated)
        else
          match escaped? e with
          | some c =>
            let (parts, rest) := readParts bs
            (.byte c :: parts, rest)
          | none => ([], .error .malformed)
    else if b < 0x20 then ([], .error .malformed)
    else
      let (parts, rest) := readParts bs
      (.byte b :: parts, rest)

def isLeading (n : Nat) : Bool := 0xD800 ≤ n && n ≤ 0xDBFF

def isTrailing (n : Nat) : Bool := 0xDC00 ≤ n && n ≤ 0xDFFF

def encodeChar (n : Nat) : Bytes := (String.singleton (Char.ofNat n)).toUTF8.toList

/--
The bytes for which parts stand, where every surrogate unit is one of a pair; the flaw otherwise.
A leading surrogate at the end of the parts has the flaw `atEnd`.
-/
def joinParts (atEnd : Flaw) : List Part → Except Flaw Bytes
  | [] => .ok []
  | .byte b :: parts => (joinParts atEnd parts).map (b :: ·)
  | .unit n :: parts =>
    if isTrailing n then .error .malformed
    else if isLeading n then
      match parts with
      | [] => .error atEnd
      | .byte _ :: _ => .error .malformed
      | .unit m :: parts =>
        if isTrailing m then
          (joinParts atEnd parts).map
            (encodeChar (0x10000 + (n - 0xD800) * 0x400 + (m - 0xDC00)) ++ ·)
        else .error .malformed
    else (joinParts atEnd parts).map (encodeChar n ++ ·)

/-- A string behind its opening quote: what it stands for and what follows, or the two flaws. -/
def readString (bs : Bytes) : Except (Flaw × Flaw) (Quoted × Bytes) :=
  match readParts bs with
  | (parts, .ok rest) =>
    match joinParts .malformed parts with
    | .ok utf8 => .ok (String.fromUTF8? ⟨utf8.toArray⟩, rest)
    | .error _ => .ok (none, rest)
  | (parts, .error flaw) =>
    match joinParts flaw parts with
    | .ok _ => .error (flaw, flaw)
    | .error used => .error (used, flaw)

/-! ### Numbers -/

/-- The largest whole number kept exactly while the digits of a number are read. -/
def wordLimit : Nat := 18446744073709551615

/--
Digits of a number as a whole number and a count of dropped digits: once the next digit does not
fit into a word, it and all digits after it are dropped.
-/
def foldDigits : Nat → Bytes → Nat × Nat
  | m, [] => (m, 0)
  | m, b :: bs =>
    if wordLimit < 10 * m + digitValue b then (m, bs.length + 1)
    else foldDigits (10 * m + digitValue b) bs

/--
Whether a number is within the range of double precision, the product of the doubles next to the
mantissa and next to the power of ten being what counts.
-/
def inRange (mantissa : Nat) (exponent : Int) : Bool :=
  if mantissa = 0 || exponent < 0 then true
  else if 308 < exponent then false
  else !(Float.ofNat mantissa * Float.ofScientific 1 false exponent.toNat).isInf

/-- The digits of a number, split at the point and at the exponent sign. -/
structure Digits where
  whole : Bytes
  fraction : Bytes := []
  negativeExponent : Bool := false
  exponent : Bytes := []
  deriving DecidableEq, Repr

/-- The largest exponent that is read as one. -/
def exponentLimit : Nat := 2147483647

def digitsValue (ds : Bytes) : Nat := ds.foldl (fun n d => 10 * n + digitValue d) 0

/-- Whether the number that the digits make up is in range. -/
def Digits.isUsable (d : Digits) : Bool :=
  let (whole, droppedWhole) := foldDigits 0 d.whole
  let (mantissa, droppedFraction) := foldDigits whole d.fraction
  let point : Int := droppedWhole - (d.fraction.length - droppedFraction : Nat)
  let exponent := digitsValue d.exponent
  if exponentLimit < exponent then mantissa = 0 || d.negativeExponent
  else inRange mantissa (if d.negativeExponent then point - exponent else point + exponent)

/-- A step of reading a number: what was read and the rest, or the flaws when used and skipped. -/
abbrev NumberStep (α : Type) := Except (Flaw × Flaw) (α × Bytes)

/-- Digits, one at least. A number that ends early is truncated only to one who uses it. -/
def readDigits (bs : Bytes) : NumberStep Bytes :=
  match bs.span isDigit with
  | ([], []) => .error (.truncated, .malformed)
  | ([], _ :: _) => .error (.malformed, .malformed)
  | (ds, rest) => .ok (ds, rest)

/-- The whole part: a zero alone, or digits that begin with none. -/
def readWhole (bs : Bytes) : NumberStep Bytes :=
  match readDigits bs with
  | .ok (d :: e :: ds, rest) =>
    if d = ascii '0' then .error (.malformed, .malformed) else .ok (d :: e :: ds, rest)
  | step => step

def readFraction : Bytes → NumberStep Bytes
  | b :: bs => if b = ascii '.' then readDigits bs else .ok ([], b :: bs)
  | [] => .ok ([], [])

/-- The exponent, with whether it is negative. -/
def readExponent : Bytes → NumberStep (Bool × Bytes)
  | b :: bs =>
    if b = ascii 'e' || b = ascii 'E' then
      match bs with
      | s :: rest =>
        if s = ascii '-' then (readDigits rest).map fun (ds, rest) => ((true, ds), rest)
        else if s = ascii '+' then (readDigits rest).map fun (ds, rest) => ((false, ds), rest)
        else (readDigits bs).map fun (ds, rest) => ((false, ds), rest)
      | [] => .error (.truncated, .malformed)
    else .ok ((false, []), b :: bs)
  | [] => .ok ((false, []), [])

/-- A number without its minus sign. -/
def readNumber (bs : Bytes) : NumberStep Digits :=
  match readWhole bs with
  | .error flaws => .error flaws
  | .ok (whole, bs) =>
    match readFraction bs with
    | .error flaws => .error flaws
    | .ok (fraction, bs) =>
      match readExponent bs with
      | .error flaws => .error flaws
      | .ok ((negativeExponent, exponent), bs) =>
        .ok ({ whole, fraction, negativeExponent, exponent }, bs)

/-! ### Words -/

/-- The bytes behind a word, which the text has to spell out. -/
def readWord : List Char → Bytes → Except Flaw Bytes
  | [], bs => .ok bs
  | _ :: _, [] => .error .truncated
  | c :: cs, b :: bs => if b = ascii c then readWord cs bs else .error .malformed

end Crond.Json
