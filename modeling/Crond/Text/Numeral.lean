/-
  Decimal numerals, read from the left under a limit.

  Reading stops at the first character that settles the outcome: one that is no digit makes the
  text malformed, and a digit that takes the value over the limit makes it too large, whatever
  follows. Leading zeros change nothing.
-/

namespace Crond.Text

/-- The value of an ASCII digit. -/
def digit? (c : Char) : Option Nat := if c.isDigit then some (c.toNat - 48) else none

inductive Reading where
  | value (n : Nat)
  | tooLarge
  | malformed
  deriving DecidableEq

/-- Reads the remaining digits of a numeral whose digits so far have the value `sofar`. -/
def readDigits (limit : Nat) : Nat → List Char → Reading
  | sofar, [] => .value sofar
  | sofar, c :: cs =>
    match digit? c with
    | none => .malformed
    | some d => if limit < 10 * sofar + d then .tooLarge else readDigits limit (10 * sofar + d) cs

/-- Reads a numeral of at least one digit. -/
def readNumeral (limit : Nat) : List Char → Reading
  | [] => .malformed
  | c :: cs => readDigits limit 0 (c :: cs)

/-- The numeral of a number: no leading zero, except in the numeral of zero itself. -/
def numeral (n : Nat) : List Char := Nat.toDigits 10 n

/-- The numeral of an integer, a negative one with its sign in front. -/
def signedNumeral : Int → List Char
  | .ofNat n => numeral n
  | .negSucc n => '-' :: numeral (n + 1)

/-- A numeral filled up with zeros in front to at least `width` places. -/
def padded (width n : Nat) : List Char :=
  List.replicate (width - (numeral n).length) '0' ++ numeral n

end Crond.Text
