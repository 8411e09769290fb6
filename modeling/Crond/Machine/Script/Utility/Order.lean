import Crond.Machine.Calendar.Titles
import Crond.Machine.Script.Utility.Basic

/-
  The orders in which lines can be put: as bytes, as numbers, as sizes with units, as months, and as
  names with versions in them.
-/

namespace Crond.Script

open Text

namespace Utility

def compareText : List Char → List Char → Ordering
  | [], [] => .eq
  | [], _ :: _ => .lt
  | _ :: _, [] => .gt
  | c :: cs, d :: ds =>
    match compare c.toNat d.toNat with
    | .eq => compareText cs ds
    | o => o

/-! ### Numbers -/

/-- A decimal numeral at the front of a text: its sign, and its digits without zeros that do not
  count. -/
structure Decimal where
  isNegative : Bool
  whole : List Char
  behind : List Char
  deriving DecidableEq, Repr

def Decimal.isZero (d : Decimal) : Bool := d.whole.isEmpty && d.behind.isEmpty

/-- The numeral at the front of a text, and what follows it. -/
def decimalAt (cs : List Char) : Decimal × List Char :=
  let (isNegative, body) := match cs with
    | '-' :: body => (true, body)
    | body => (false, body)
  let (whole, rest) := body.span Char.isDigit
  let (behind, rest) := match rest with
    | '.' :: more => more.span Char.isDigit
    | rest => ([], rest)
  ({ isNegative
     whole := whole.dropWhile (· = '0')
     behind := (behind.reverse.dropWhile (· = '0')).reverse }, rest)

def Decimal.order (a b : Decimal) : Ordering :=
  let sizes (a b : Decimal) : Ordering :=
    ((compare a.whole.length b.whole.length).then (compareText a.whole b.whole)).then
      (compareText a.behind b.behind)
  match a.isZero, b.isZero with
  | true, true => .eq
  | true, false => if b.isNegative then .gt else .lt
  | false, true => if a.isNegative then .lt else .gt
  | false, false =>
    match a.isNegative, b.isNegative with
    | false, false => sizes a b
    | true, true => sizes b a
    | true, false => .lt
    | false, true => .gt

def isGap (c : Char) : Bool := c = ' ' || c = '\t' || c = '\n'

def compareNumbers (a b : List Char) : Ordering :=
  (decimalAt (a.dropWhile isGap)).1.order (decimalAt (b.dropWhile isGap)).1

/-- The rank of the unit behind a number. A zero has none. -/
def unitRank (cs : List Char) : Int :=
  let (d, rest) := decimalAt cs
  let rank : Int := match rest with
    | c :: _ =>
      if d.isZero then 0
      else (((bytes "KMGTPEZYRQ").findIdx? fun u => u = c || (c = 'k' && u = 'K')).map
        fun n => (n : Int) + 1).getD 0
    | [] => 0
  if d.isNegative then -rank else rank

/-- Sizes with units are in the order of their units, and then of the numbers. -/
def compareSizes (a b : List Char) : Ordering :=
  let a := a.dropWhile isGap
  let b := b.dropWhile isGap
  (compare (unitRank a) (unitRank b)).then ((decimalAt a).1.order (decimalAt b).1)

/-- A number of any notation: what is none comes first, and what is undefined next. -/
def compareFloatings (a b : List Char) : Ordering :=
  let value (f : Floating) : Option (Int × Nat) :=
    match f.magnitude with
    | .finite mantissa exponent =>
      let (n, d) := Magnitude.quotient mantissa exponent
      some (if f.isNegative then -(n : Int) else n, d)
    | _ => none
  let rank (f : Floating) : Int :=
    match f.magnitude with
    | .notNumber => 0
    | .infinite => if f.isNegative then 1 else 3
    | .finite _ _ => 2
  match floatingAt? a, floatingAt? b with
  | none, none => .eq
  | none, some _ => .lt
  | some _, none => .gt
  | some (f, _), some (g, _) =>
    match value f, value g with
    | some (m, c), some (n, d) => compare (m * d) (n * c)
    | _, _ => compare (rank f) (rank g)

/-! ### Months and versions -/

/-- The number of the month whose short title is at the front of a text, or zero. -/
def monthOf (cs : List Char) : Nat :=
  let word := ((cs.dropWhile isGap).take 3).map Char.toLower
  ((Calendar.monthTitles.findIdx? fun t =>
    (t.toList.take 3).map Char.toLower = word).map (· + 1)).getD 0

/-- The rank of what a name has at a position where it has no digit. -/
def versionRank (c : Option Char) : Int :=
  match c with
  | none => -1
  | some c =>
    if c.isDigit then 0
    else if c.isAlpha then c.toNat
    else if c = '~' then -2
    else c.toNat + 256

/-- Goes along two texts as long as there is something in one of them that is no digit. -/
def compareLetters : Nat → List Char → List Char → Except Ordering (List Char × List Char)
  | 0, a, b => .ok (a, b)
  | n + 1, a, b =>
    let isLetter (cs : List Char) : Bool := cs.head?.any (!·.isDigit)
    if isLetter a || isLetter b then
      match compare (versionRank a.head?) (versionRank b.head?) with
      | .eq => compareLetters n a.tail b.tail
      | o => .error o
    else .ok (a, b)

/-- Compares texts piece by piece: what is no digit by rank, and digits as numbers. -/
def compareVersions : Nat → List Char → List Char → Ordering
  | 0, _, _ => .eq
  | _, [], [] => .eq
  | n + 1, a, b =>
    match compareLetters (a.length + b.length) a b with
    | .error o => o
    | .ok (a, b) =>
      let (m, a) := (a.dropWhile (· = '0')).span Char.isDigit
      let (k, b) := (b.dropWhile (· = '0')).span Char.isDigit
      match (compare m.length k.length).then (compareText m k) with
      | .eq => compareVersions n a b
      | o => o

/-- A name without the endings that begin with a dot and a letter. The number bounds the rest. -/
def withoutEndings : Nat → List Char → List Char
  | 0, _ => []
  | n + 1, cs =>
    let isEnding (part : List Char) : Bool :=
      part.head?.any (fun c => c.isAlpha || c = '~') && part.all fun c => c.isAlphanum || c = '~'
    match cs.reverse.span (· ≠ '.') with
    | (last, _ :: front) =>
      if isEnding last.reverse && !front.isEmpty then withoutEndings n front.reverse else cs
    | _ => cs

/-- The order of names with versions in them. Names that begin with dots come first. -/
def compareNames (a b : List Char) : Ordering :=
  let rank (cs : List Char) : Nat :=
    match cs with
    | [] => 0
    | ['.'] => 1
    | ['.', '.'] => 2
    | '.' :: _ => 3
    | _ => 4
  let whole (a b : List Char) : Ordering := compareVersions (a.length + b.length + 1) a b
  match compare (rank a) (rank b) with
  | .eq => (whole (withoutEndings a.length a) (withoutEndings b.length b)).then (whole a b)
  | o => o

end Utility

end Crond.Script
