import Crond.Machine.Script.Utility.Basic

/-
  Sizes as programs show them: in units of so many bytes, or with the unit that fits them. A begun
  unit counts as a whole one.
-/

namespace Crond.Script

open Text

namespace Utility

/-- How sizes are shown. -/
inductive Scale where
  /-- In units of so many bytes, with what is shown behind the number. -/
  | fixed (unit : Nat) (behind : String)
  /-- In powers of a number, as many as leave the size a small one. -/
  | fitting (base : Nat)
  deriving DecidableEq, Repr

/-- The units, each so many times the one before. -/
def unitLetters : List Char := ['K', 'M', 'G', 'T', 'P', 'E', 'Z', 'Y']

/-- A quotient, where a begun unit counts as a whole one. -/
def begun (n unit : Nat) : Nat := (n + unit - 1) / unit

/-- A size in the first unit in which it is small, from a unit on. The number bounds the units. -/
def fittingText (base bytes : Nat) : Nat → Nat → List Char
  | 0, _ => numeral bytes
  | n + 1, power =>
    let unit := base ^ power
    let letter := match unitLetters[power - 1]? with
      | some 'K' => if base = 1000 then 'k' else 'K'
      | some c => c
      | none => 'Y'
    let tenths := begun (10 * bytes) unit
    if tenths < 100 then numeral (tenths / 10) ++ '.' :: numeral (tenths % 10) ++ [letter]
    else if begun bytes unit < base then numeral (begun bytes unit) ++ [letter]
    else fittingText base bytes n (power + 1)

/-- A size as it is shown. -/
def Scale.text (s : Scale) (bytes : Nat) : List Char :=
  match s with
  | .fixed unit behind => numeral (begun bytes unit) ++ Text.bytes behind
  | .fitting base => if bytes < base then numeral bytes else fittingText base bytes 8 1

/-- The scale that a text asks for. -/
def scaleOf? (cs : List Char) : Option Scale :=
  match String.ofList cs with
  | "human-readable" => some (.fitting 1024)
  | "si" => some (.fitting 1000)
  | _ =>
    let (digits, suffix) := cs.span Char.isDigit
    match sizeOf? cs with
    | some (unit + 1) =>
      some (.fixed (unit + 1) (if digits.isEmpty then String.ofList suffix else ""))
    | _ => none

end Utility

end Crond.Script
