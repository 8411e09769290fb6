import Crond.Machine.Script.Format
import Crond.Machine.Script.Utility.Basic

/-
  The program `echo`, which heeds backslashes only if it is told to.
-/

namespace Crond.Script

open Text

namespace Utility

/-- What the options at the front ask for: no line end, and heeding backslashes. -/
def echoOptions : Bool → Bool → List (List Char) → Bool × Bool × List (List Char)
  | isOpen, heeds, args@(('-' :: letters) :: rest) =>
    if letters ≠ [] && letters.all fun c => c = 'n' || c = 'e' || c = 'E' then
      let heeds := letters.foldl (fun on c =>
        if c = 'e' then true else if c = 'E' then false else on) heeds
      echoOptions (isOpen || letters.contains 'n') heeds rest
    else (isOpen, heeds, args)
  | isOpen, heeds, args => (isOpen, heeds, args)

/-- A text with its backslashes heeded; the flag says whether printing goes on behind it. -/
def heeded : Nat → List Char → List Char × Bool
  | 0, cs => (cs, true)
  | _, [] => ([], true)
  | fuel + 1, c :: cs =>
    let goOn (front : List Char) (rest : List Char) : List Char × Bool :=
      let (more, goesOn) := heeded fuel rest
      (front ++ more, goesOn)
    match c, cs with
    | '\\', 'c' :: _ => ([], false)
    | '\\', '0' :: rest =>
      let (n, rest) := Format.octal 3 0 rest
      goOn [Format.byte n] rest
    | '\\', 'x' :: d :: rest =>
      match digitOf? 16 d, (rest.head?.bind (digitOf? 16)) with
      | some m, some n => goOn [Format.byte (16 * m + n)] rest.tail
      | some m, none => goOn [Format.byte m] rest
      | none, _ => goOn ['\\', 'x'] (d :: rest)
    | '\\', d :: rest =>
      if '1' ≤ d && d ≤ '7' then
        let (n, rest) := Format.octal 3 0 cs
        goOn [Format.byte n] rest
      else
        match Format.escaped? d with
        | some e => goOn [e] rest
        | none => goOn ['\\', d] rest
    | c, cs => goOn [c] cs

def echo : Builtin := fun sh args =>
  let (isOpen, heeds, args) := echoOptions false false args
  let text := [' '].intercalate args
  let (text, goesOn) := if heeds then heeded text.length text else (text, true)
  (sh.print (text ++ if isOpen || !goesOn then [] else ['\n'])).withStatus 0

end Utility

end Crond.Script
