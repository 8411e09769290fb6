import Crond.Machine.Script.Utility.Clock

/-
  The program `touch`, which sets when files were changed last.
-/

namespace Crond.Script

open Text Files Calendar

namespace Utility

/-- The moment that digits such as `202001310959.30` mean, of which the first ones can be left
  out. -/
def stampOf? (thisYear : Int) (cs : List Char) : Option Moment := do
  let (digits, behind) := cs.span (· ≠ '.')
  guard (digits.all Char.isDigit && digits.length % 2 = 0)
  let second ← match behind with
    | [] => some 0
    | [_, a, b] => if a.isDigit && b.isDigit then some (digitsValue 10 [a, b]) else none
    | _ => none
  let two (n : Nat) (ds : List Char) : Nat := digitsValue 10 ((ds.drop n).take 2)
  let (year, rest) ← match digits.length with
    | 8 => some (thisYear, digits)
    | 10 =>
      let y := two 0 digits
      some ((if y < 69 then 2000 + y else 1900 + y : Nat), digits.drop 2)
    | 12 => some ((digitsValue 10 (digits.take 4) : Nat), digits.drop 4)
    | _ => none
  let base ← Moment.ofCivil? ⟨⟨year, two 0 rest, two 2 rest⟩, two 4 rest, two 6 rest, 0, 0⟩
  if second ≤ 60 then some (base.add ⟨second * nanosPerSecond⟩) else none

def touchTable : OptionTable where
  letters := "acd:fhmr:t:"
  names := [("time", ":"), ("no-create", "c"), ("date", "d"), ("reference", "r"),
    ("no-dereference", "h")]

def timeKinds : List (List String) := [["atime", "access", "use"], ["mtime", "modify"]]

/-- Sets when a file was changed, or makes it. -/
def touchOne (moment? : Option Int) (setsChange creates follows : Bool) (sh : Shell) (name : Name) :
    Shell :=
  match lookAs follows sh name with
  | .ok (p, some _) =>
    if !setsChange then sh
    else
      withFiles sh (match moment? with
        | some nanos => sh.files.adjust p fun i => { i with modified := nanos }
        | none => sh.files.renew p)
  | .ok (p, none) =>
    if !creates then sh
    else
      let made := sh.files.write p [] sh.newRights
      withFiles sh (match moment? with
        | some nanos =>
          if setsChange then made.adjust p fun i => { i with modified := nanos } else made
        | none => made)
  | .error f =>
    if f = .missing && !creates then sh
    else
      let isOpen := f = .missing && (lookAs follows sh (Tree.trimmed name)).toOption.isSome
      let what := if isOpen || !creates then "setting times of" else "cannot touch"
      complain sh "touch" (quotedFault what name f) 1

def touch : Builtin :=
  let fault? (sh : Shell) (o : GivenOption) : Option (List Char) :=
    match o.key, o.value with
    | "time", some value => badChoice? sh "touch" "time" value timeKinds
    | "t", some value =>
      if (stampOf? 2026 value).isSome then none
      else some (bytes "invalid date format " ++ inEscapes value)
    | "d", some value =>
      if (Moment.ofPhrase? (presentMoment sh) value).isSome then none
      else some (bytes "invalid date format " ++ inEscapes value)
    | _, _ => none
  withOptions "touch" 1 touchTable fault? fun os sh names =>
    let times := (os.filter fun o => o.key = "time").map fun o =>
      (o.value.bind (choice? timeKinds)).getD ""
    let onlyAccess := (givenIn os "a" || times.contains "atime") &&
      !givenIn os "m" && !times.contains "mtime"
    let stamp? := (lastValue? os "t").bind (stampOf? 2026)
    let sources := [givenIn os "t", givenIn os "d", givenIn os "r"].filter id
    let model := (lastValue? os "r").map fun r => (r, present (lookAs (!givenIn os "h") sh r))
    if 1 < sources.length then
      misused sh "touch" (bytes "cannot specify times from more than one source") 1
    else
      match model with
      | some (name, .error f) =>
        complain sh "touch" (quotedFault "failed to get attributes of" name f) 1
      | _ =>
        let phrased? := (lastValue? os "d").bind (Moment.ofPhrase? (presentMoment sh))
        let moment? := ((stamp?.or phrased?).map Moment.nanos).or
          (model.bind fun m => m.2.toOption.map fun found => found.2.modified)
        if names.isEmpty then missingOperand sh "touch" (bytes "file operand")
        else
          forAll sh names
            (touchOne moment? (!onlyAccess) (!givenIn os "c" && !givenIn os "h") (!givenIn os "h"))

end Utility

end Crond.Script
