import Crond.Text.Numeral

/-
  Numbers in double precision, as text: reading them, and writing them out exactly.

  A number that is read is the nearest of those that there are, halves going to the even one. All
  its digits can be written, since it is a whole number times a power of two; where fewer are
  written, they are again the nearest.
-/

namespace Crond.Text

/-- What a number is without its sign. -/
inductive Magnitude where
  | finite (mantissa : Nat) (exponent : Int)
  | infinite
  | notNumber
  deriving DecidableEq, Repr

/-- A quotient rounded to the nearest whole number, halves to the even one. -/
def roundDiv (a b : Nat) : Nat :=
  let q := a / b
  let r := a % b
  if 2 * r < b || (2 * r = b && q % 2 = 0) then q else q + 1

/-- A quotient times a power of a base, rounded. -/
def roundScaled (base a b : Nat) (power : Int) : Nat :=
  if 0 ≤ power then roundDiv (a * Nat.pow base power.toNat) b
  else roundDiv a (b * Nat.pow base (-power).toNat)

namespace Magnitude

/-- The lowest power of two that a number can be a multiple of. -/
def leastExponent : Int := -1074

/-- Places of the mantissa, the first of which is always one unless the number is tiny. -/
def places : Nat := 53

/-- The number nearest to a quotient, and whether it is so small that it has lost places. -/
def nearest (a b : Nat) : Magnitude × Bool :=
  if a = 0 then (.finite 0 leastExponent, false)
  else
    let estimate : Int := (Nat.log2 a : Int) - Nat.log2 b - (places - 1)
    let rounded (q : Int) : Nat := roundScaled 2 a b (-q)
    let estimate := if rounded (max estimate leastExponent) < Nat.pow 2 (places - 1) then
        estimate - 1
      else estimate
    let exponent := max estimate leastExponent
    let (mantissa, exponent) :=
      if rounded exponent = Nat.pow 2 places then (Nat.pow 2 (places - 1), exponent + 1)
      else (rounded exponent, exponent)
    let isExact := mantissa * Nat.pow 2 exponent.toNat * b = a * Nat.pow 2 (-exponent).toNat
    if (1024 : Int) ≤ Nat.log2 mantissa + exponent then (.infinite, true)
    else (.finite mantissa exponent, mantissa < Nat.pow 2 (places - 1) && !isExact)

/-- A number as a quotient. -/
def quotient (mantissa : Nat) (exponent : Int) : Nat × Nat :=
  (mantissa * Nat.pow 2 exponent.toNat, Nat.pow 2 (-exponent).toNat)

/-- The number nearest to a whole number times a power of a base. The flag tells that it is out of
  range. -/
def ofPower (base digits : Nat) (power : Int) : Magnitude × Bool :=
  let size : Int := (Nat.toDigits base digits).length + power
  if digits = 0 then nearest 0 1
  else if 1100 < size then (.infinite, true)
  else if size < -1200 then (.finite 0 leastExponent, true)
  else nearest (digits * Nat.pow base power.toNat) (Nat.pow base (-power).toNat)

end Magnitude

/-! ### Reading -/

/-- A number that has been read, with its sign, and whether it is out of range. -/
structure Floating where
  isNegative : Bool := false
  magnitude : Magnitude
  isOutOfRange : Bool := false
  deriving DecidableEq, Repr

/-- The value of a digit of a base up to sixteen. -/
def digitOf? (base : Nat) (c : Char) : Option Nat :=
  let value :=
    if c.isDigit then some (c.toNat - '0'.toNat)
    else if 'a' ≤ c && c ≤ 'f' then some (c.toNat - 'a'.toNat + 10)
    else if 'A' ≤ c && c ≤ 'F' then some (c.toNat - 'A'.toNat + 10)
    else none
  value.filter (· < base)

/-- The number that digits make. -/
def digitsValue (base : Nat) (ds : List Char) : Nat :=
  ds.foldl (fun n c => base * n + (digitOf? base c).getD 0) 0

/-- The exponent behind a letter, and the rest. Without digits there is none. -/
def exponentAt (letter : Char) (cs : List Char) : Int × List Char :=
  match cs with
  | c :: rest =>
    if c.toLower ≠ letter then (0, cs)
    else
      let (isNegative, rest) := match rest with
        | '-' :: rest => (true, rest)
        | '+' :: rest => (false, rest)
        | rest => (false, rest)
      let (ds, rest) := rest.span Char.isDigit
      let n : Int := min (digitsValue 10 ds) 1000000000
      if ds.isEmpty then (0, cs) else (if isNegative then -n else n, rest)
  | [] => (0, [])

/-- The digits at the front of a text, with how many of them stand behind a point, and the rest. -/
def digitsAt (base : Nat) (cs : List Char) : List Char × Nat × List Char :=
  let isDigit (c : Char) : Bool := (digitOf? base c).isSome
  let (whole, rest) := cs.span isDigit
  match rest with
  | '.' :: more =>
    let (behind, more) := more.span isDigit
    if whole.isEmpty && behind.isEmpty then ([], 0, cs) else (whole ++ behind, behind.length, more)
  | rest => (whole, 0, rest)

/-- Whether a word in lower case is at the front of a text, in any case. -/
def beginsWith (word : String) (cs : List Char) : Bool :=
  word.toList = (cs.take word.length).map Char.toLower

/-- The number at the front of a text, without a sign, and the rest. -/
def magnitudeAt? (cs : List Char) : Option ((Magnitude × Bool) × List Char) :=
  let decimal : Option ((Magnitude × Bool) × List Char) :=
    match digitsAt 10 cs with
    | ([], _, _) => none
    | (ds, behind, rest) =>
      let (power, rest) := exponentAt 'e' rest
      some (Magnitude.ofPower 10 (digitsValue 10 ds) (power - behind), rest)
  if beginsWith "infinity" cs then some ((.infinite, false), cs.drop 8)
  else if beginsWith "inf" cs then some ((.infinite, false), cs.drop 3)
  else if beginsWith "nan" cs then
    match cs.drop 3 with
    | '(' :: rest =>
      match rest.span fun c => c.isAlphanum || c = '_' with
      | (_, ')' :: rest) => some ((.notNumber, false), rest)
      | _ => some ((.notNumber, false), '(' :: rest)
    | rest => some ((.notNumber, false), rest)
  else if beginsWith "0x" cs then
    match digitsAt 16 (cs.drop 2) with
    | ([], _, _) => decimal
    | (ds, behind, rest) =>
      let (power, rest) := exponentAt 'p' rest
      some (Magnitude.ofPower 2 (digitsValue 16 ds) (power - 4 * behind), rest)
  else decimal

/-- White space in front of a number. -/
def isSpace (c : Char) : Bool := c = ' ' || ('\t' ≤ c && c ≤ '\r')

/-- The number at the front of a text, and the rest. -/
def floatingAt? (cs : List Char) : Option (Floating × List Char) :=
  let (isNegative, body) := match cs.dropWhile isSpace with
    | '-' :: body => (true, body)
    | '+' :: body => (false, body)
    | body => (false, body)
  (magnitudeAt? body).map fun ((magnitude, isOutOfRange), rest) =>
    ({ isNegative, magnitude, isOutOfRange }, rest)

/-! ### Writing -/

/-- The power of ten with which a positive quotient has one digit in front of the point. -/
def powerOfTen (a b : Nat) : Int :=
  if b ≤ a then (numeral (a / b)).length - 1
  else
    let k := (numeral (b / a)).length
    if b ≤ a * Nat.pow 10 (k - 1) then 1 - (k : Int) else -(k : Int)

/-- The digits of a quotient in front of the point and behind it. -/
def positional (a b places : Nat) : List Char × List Char :=
  let n := roundScaled 10 a b places
  let scale := Nat.pow 10 places
  (numeral (n / scale), if places = 0 then [] else padded places (n % scale))

/-- The digits of a quotient with one in front of the point, and the power of ten that goes with
  them. -/
def scientific (a b places : Nat) : List Char × Int :=
  if a = 0 then (List.replicate (places + 1) '0', 0)
  else
    let power := powerOfTen a b
    let n := roundScaled 10 a b ((places : Int) - power)
    if n = Nat.pow 10 (places + 1) then (numeral (n / 10), power + 1) else (numeral n, power)

/-- The digits of base sixteen of a number with one in front of the point, and the power of two
  that goes with them. Without a number of places there are as many as it takes. -/
def hexadecimal (mantissa : Nat) (exponent : Int) (places : Option Nat) : List Char × Int :=
  let full := Magnitude.places / 4
  let most := Magnitude.places - 1
  let shift := if mantissa = 0 then 0 else most - Nat.log2 mantissa
  let shift := min shift (exponent - Magnitude.leastExponent).toNat
  let wide := mantissa * Nat.pow 2 shift
  let power : Int := if mantissa = 0 then 0 else exponent - shift + most
  let digits (n width : Nat) : List Char :=
    let ds := Nat.toDigits 16 n
    List.replicate (width - ds.length) '0' ++ ds
  match places with
  | none =>
    let ds := digits wide (full + 1)
    (ds.take 1 ++ ((ds.drop 1).reverse.dropWhile (· = '0')).reverse, power)
  | some n =>
    if full ≤ n then (digits wide (full + 1) ++ List.replicate (n - full) '0', power)
    else (digits (roundDiv wide (Nat.pow 16 (full - n))) (n + 1), power)

end Crond.Text
