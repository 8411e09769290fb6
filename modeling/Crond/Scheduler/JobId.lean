import Crond.Text.Numeral

/-
  Job ids. The jobs of a scheduler are numbered from 0 in the order in which they come, and `job`
  followed by the number is the text of an id. No other text is read as an id: no sign, no leading
  zero, no number of 2^64 or more.
-/

namespace Crond

open Text

structure JobId where
  number : Nat
  deriving DecidableEq, Repr

namespace JobId

/-- The largest number of an id, one less than 2^64. -/
def limit : Nat := 18446744073709551615

def render (id : JobId) : List Char := 'j' :: 'o' :: 'b' :: numeral id.number

def text (id : JobId) : String := String.ofList id.render

/-- Whether digits are a numeral without superfluous zeros. -/
def isCanonical (ds : List Char) : Bool :=
  ds.all Char.isDigit && (ds = ['0'] || ds.head? ≠ some '0')

def read? : List Char → Option JobId
  | 'j' :: 'o' :: 'b' :: ds =>
    if isCanonical ds then
      match readNumeral limit ds with
      | .value n => some ⟨n⟩
      | .tooLarge | .malformed => none
    else none
  | _ => none

/-- A text that is no job id. -/
structure Invalid where
  text : String
  deriving DecidableEq, Repr

def Invalid.message (e : Invalid) : String := "Invalid job id: " ++ e.text

def parse (s : String) : Except Invalid JobId :=
  match read? s.toList with
  | some id => .ok id
  | none => .error ⟨s⟩

end JobId

end Crond
