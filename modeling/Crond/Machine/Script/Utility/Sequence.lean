import Crond.Machine.Script.Format
import Crond.Machine.Script.Utility.Basic

/-
  The programs `seq` and `yes`, which print numbers one after the other, and a line without end.
-/

namespace Crond.Script

open Text

namespace Utility

/-! ### Numbers in arguments -/

/-- A number as it is given: its value, the places behind its point, and how wide it is. Without
  places it is written as short as can be. -/
structure GivenNumber where
  value : Floating
  /-- The value as a quotient, if it is finite. -/
  quotient? : Option (Int × Nat)
  places : Option Nat
  width : Int
  deriving DecidableEq, Repr

/-- The whole number that an exponent is. -/
def exponentOf (cs : List Char) : Int :=
  match cs with
  | '-' :: ds => -(digitsValue 10 (ds.takeWhile Char.isDigit) : Int)
  | '+' :: ds => digitsValue 10 (ds.takeWhile Char.isDigit)
  | ds => digitsValue 10 (ds.takeWhile Char.isDigit)

/-- The exact value of a decimal number. -/
def exactDecimal (cs : List Char) : Int × Nat :=
  let (isNegative, body) := match cs with
    | '-' :: body => (true, body)
    | body => (false, body)
  let (ds, behind, rest) := digitsAt 10 body
  let power := (exponentAt 'e' rest).1 - behind
  let n : Int := digitsValue 10 ds * Nat.pow 10 power.toNat
  (if isNegative then -n else n, Nat.pow 10 (-power).toNat)

def GivenNumber.read? (arg : List Char) : Option GivenNumber := do
  let cs := arg.dropWhile fun c => isSpace c || c = '+'
  let (value, rest) ← floatingAt? arg
  if !rest.isEmpty then failure
  let isHex := cs.contains 'x' || cs.contains 'X'
  let quotient? := match value.magnitude with
    | .finite mantissa exponent =>
      if isHex then
        let (a, b) := Magnitude.quotient mantissa exponent
        some (if value.isNegative then -(a : Int) else a, b)
      else some (exactDecimal cs)
    | _ => none
  let plain : Option Nat := if cs.contains '.' || cs.contains 'p' then none else some 0
  if isHex || quotient?.isNone then return { value, quotient?, places := plain, width := 0 }
  let (number, power) := cs.span fun c => c ≠ 'e' && c ≠ 'E'
  let (front, behind) := number.span (· ≠ '.')
  let fraction := behind.length - 1
  let hasPoint := !behind.isEmpty
  let width : Int := cs.length
  let width := if !hasPoint then width
    else if fraction = 0 then width - 1
    else if front.getLast?.any Char.isDigit then width
    else width + 1
  let places := if hasPoint then fraction else 0
  match power with
  | [] => return { value, quotient?, places := some places, width }
  | _ :: ds =>
    let n := exponentOf ds
    let width := width - power.length
    if n < 0 then
      let width := if hasPoint then (if fraction = 0 then width + 1 else width) else width + 1
      return { value, quotient?, places := some (places + n.natAbs), width := width + n.natAbs }
    else
      let left := places - min places n.toNat
      let width := if hasPoint && left = 0 && fraction ≠ 0 then width - 1 else width
      let width := width + (n.toNat - min fraction n.toNat)
      return { value, quotient?, places := some left, width }

/-! ### Formats -/

/-- A format with one directive: what is before and behind it, its shape, and its letter. -/
structure NumberFormat where
  before : List Char
  shape : Format.Shape
  letter : Char
  behind : List Char
  deriving DecidableEq, Repr

/-- The text up to a directive, where two percent signs stand for one, and what follows. -/
def upToDirective : List Char → List Char × List Char
  | '%' :: '%' :: cs =>
    let (front, rest) := upToDirective cs
    ('%' :: front, rest)
  | '%' :: cs => ([], '%' :: cs)
  | c :: cs =>
    let (front, rest) := upToDirective cs
    (c :: front, rest)
  | [] => ([], [])

def NumberFormat.read (cs : List Char) : Except (List Char) NumberFormat :=
  let fail (what : List Char) : Except (List Char) NumberFormat :=
    .error (bytes "format " ++ inEscapes cs ++ ' ' :: what)
  match upToDirective cs with
  | (_, []) => fail (bytes "has no % directive")
  | (before, _ :: rest) =>
    let (shape, rest) := Format.Shape.flags {} (rest.filter (· ≠ '\'') )
    let (ds, rest) := rest.span Char.isDigit
    let (precision, rest) := match rest with
      | '.' :: rest =>
        let (places, rest) := rest.span Char.isDigit
        (some (digitsValue 10 places), rest)
      | rest => (none, rest)
    let shape := { shape with width := digitsValue 10 ds, precision }
    let rest := if rest.head? = some 'L' then rest.tail else rest
    match rest with
    | [] => fail (bytes "ends in %")
    | letter :: rest =>
      if (bytes "efgaEFGA").contains letter then
        match upToDirective rest with
        | (behind, []) => .ok { before, shape, letter, behind }
        | _ => fail (bytes "has too many % directives")
      else fail (bytes "has unknown %" ++ letter :: bytes " directive")

def NumberFormat.apply (f : NumberFormat) (x : Floating) : List Char :=
  let style : Format.Shape.Notation := match f.letter.toLower with
    | 'f' => .positional
    | 'e' => .scientific
    | 'g' => .general
    | _ => .hexadecimal
  f.before ++ f.shape.fraction style f.letter.isUpper x ++ f.behind

/-! ### Sequences -/

/-- The numbers to print: the first, the steps between them, and the last. -/
structure Progression where
  first : GivenNumber
  step : GivenNumber
  last : GivenNumber

/-- A number of a progression, as a quotient. -/
def Progression.term (p : Progression) (n : Nat) : Int × Nat :=
  let (a, b) := p.first.quotient?.getD (0, 1)
  let (c, d) := p.step.quotient?.getD (1, 1)
  (a * d + n * c * b, b * d)

/-- Whether a number is behind the last one. -/
def Progression.isBehind (p : Progression) (x : Int × Nat) : Bool :=
  let isFalling := p.step.value.isNegative
  match p.first.quotient?, p.last.quotient? with
  | none, _ => true
  | some _, some (m, k) => if isFalling then x.1 * k < m * x.2 else m * x.2 < x.1 * k
  | some _, none => p.last.value.isNegative != isFalling

/-- A quotient with a number of places behind the point. -/
def fixedPlaces (isNegative : Bool) (x : Int × Nat) (places : Nat) : List Char :=
  let (whole, behind) := positional x.1.natAbs x.2 places
  (if isNegative then ['-'] else []) ++ whole ++ (if places = 0 then [] else '.' :: behind)

/-- A number of a progression as it is printed. -/
def Progression.shown (p : Progression) (isAligned : Bool) (format : Option NumberFormat)
    (n : Nat) : List Char :=
  let x := p.term n
  let isNegative := x.1 < 0 || (n = 0 && x.1 = 0 && p.first.value.isNegative)
  let value : Floating := { isNegative, magnitude := (Magnitude.nearest x.1.natAbs x.2).1 }
  let known := p.first.places.bind fun a => p.step.places.map fun b => max a b
  match format, known, p.last.places with
  | some f, _, _ => f.apply value
  | none, some places, some lastPlaces =>
    let cs := fixedPlaces isNegative x places
    if isAligned then
      let firstPlaces := p.first.places.getD 0
      let firstWidth := p.first.width + ((places : Int) - firstPlaces) +
        (if firstPlaces = 0 && places ≠ 0 then 1 else 0)
      let lastWidth := p.last.width + ((places : Int) - lastPlaces) -
        (if lastPlaces ≠ 0 && places = 0 then 1 else 0) +
        (if lastPlaces = 0 && places ≠ 0 then 1 else 0)
      let width := (max firstWidth lastWidth).toNat
      let shape : Format.Shape := { width, hasZeros := true }
      if isNegative then shape.fillNumber ['-'] (cs.drop 1) else shape.fillNumber [] cs
    else cs
  | none, _, _ => ({} : Format.Shape).fraction .general false value

/-- How many numbers are printed at a time. -/
def seqBlock : Nat := 1000

/-- A block of the numbers of a progression, with what stands between them in front of each but the
  first. -/
def Progression.block (p : Progression) (isAligned : Bool) (format : Option NumberFormat)
    (between : List Char) (n : Nat) : List Char :=
  let numbers := ((List.range seqBlock).map fun k => n * seqBlock + k).takeWhile fun k =>
    !p.isBehind (p.term k)
  numbers.flatMap fun k => (if k = 0 then [] else between) ++ p.shown isAligned format k

def seqTable : OptionTable where
  letters := "f:s:w"
  names := [("equal-width", "w"), ("format", "f"), ("separator", "s")]
  isMixed := false
  hasNumbers := true

/-- As many pieces as are printed at most where nobody breaks it off. -/
def manyPieces : Nat := 20000

def seq : Builtin := withOptions "seq" 1 seqTable faultless fun os sh args =>
  let misuse (message : List Char) : Shell := misused sh "seq" message 1
  let isAligned := givenIn os "w"
  let given := args.map fun a => (a, GivenNumber.read? a)
  let format := (lastValue? os "f").map NumberFormat.read
  let bad : Option (List Char) := given.findSome? fun (a, g) =>
    match g with
    | none => some (bytes "invalid floating point argument: " ++ inEscapes a)
    | some g =>
      if g.value.magnitude = .notNumber then
        some (bytes "invalid 'not-a-number' argument: " ++ inEscapes a)
      else none
  match args with
  | [] => missingOperand sh "seq" (bytes "operand")
  | _ :: _ :: _ :: extra :: _ => extraOperand sh "seq" extra 1
  | args =>
    match format, bad, given.filterMap (·.2) with
    | some (.error message), _, _ => complain sh "seq" message 1
    | some _, _, _ :: _ =>
      if isAligned then
        misuse (bytes "format string may not be specified when printing equal width strings")
      else go os sh args given bad format
    | _, _, _ => go os sh args given bad format
where
  /-- Prints the numbers, or tells what is wrong with an argument. -/
  go (os : List GivenOption) (sh : Shell) (args : List (List Char))
      (given : List (List Char × Option GivenNumber)) (bad : Option (List Char))
      (format : Option (Except (List Char) NumberFormat)) : Shell :=
    let misuse (message : List Char) : Shell := misused sh "seq" message 1
    let one : GivenNumber :=
      { value := { magnitude := .finite 1 0 }
        quotient? := some (1, 1)
        places := some 0
        width := 1 }
    let progression? : Option Progression := match given.filterMap (·.2) with
      | [last] => some ⟨one, one, last⟩
      | [first, last] => some ⟨first, one, last⟩
      | [first, step, last] => some ⟨first, step, last⟩
      | _ => none
    match bad, progression? with
    | some message, _ => misuse message
    | none, none => sh.withStatus 1
    | none, some p =>
      if p.step.quotient?.any fun q => q.1 = 0 then
        misuse (bytes "invalid Zero increment value: " ++ inEscapes (args[1]?.getD []))
      else
        let between := (lastValue? os "s").getD ['\n']
        let format := format.bind Except.toOption
        let (sh, isBroken) :=
          pour (p.block (givenIn os "w") format between) manyPieces 0 (sh.withStatus 0)
        if isBroken then complain sh "seq" (bytes "write error: Broken pipe") 1
        else if p.isBehind (p.term 0) then sh
        else sh.print ['\n']

def yesTable : OptionTable where
  letters := ""
  names := []
  isMixed := false

/-- A time that does not end while anyone waits for it, in milliseconds. -/
def forever : Nat := 1000000000000

/-- Prints a line over and over, as long as anyone takes it. -/
def yes : Builtin := withOptions "yes" 1 yesTable faultless fun _ sh args =>
  let line := (if args.isEmpty then ['y'] else [' '].intercalate args) ++ ['\n']
  let block := (List.replicate (max 1 (8192 / line.length)) line).flatten
  let isLost := match sh.channel? 1 with
    | some (_, .null) => true
    | _ => false
  let (sh, isBroken) := if isLost then (sh.sleep forever, false)
    else pour (fun _ => block) manyPieces 0 (sh.withStatus 0)
  if isBroken then
    let why := ((sh.writeFault? 1).getD .brokenPipe).text
    complain sh "yes" (bytes ("standard output: " ++ why)) 1
  else sh

end Utility

end Crond.Script
