import Crond.Machine.Calendar.Pattern
import Crond.Machine.Calendar.Phrase
import Crond.Machine.Script.Utility.Places

/-
  The program `date`, which writes a moment: the present one, that of a phrase, or that at which a
  file was changed last.
-/

namespace Crond.Script

open Text Files Calendar

namespace Utility

/-- The present moment. -/
def presentMoment (sh : Shell) : Moment := ⟨Tree.firstMoment + 1000 * sh.clock⟩

def dateTable : OptionTable where
  letters := "d:f:I::r:Rs:u"
  names := [("date", "d"), ("debug", ""), ("file", "f"), ("iso-8601", "I"), ("reference", "r"),
    ("rfc-2822", "R"), ("rfc-822", "R"), ("rfc-email", "R"), ("rfc-3339", ":"), ("set", "s"),
    ("uct", "u"), ("utc", "u"), ("universal", "u"), ("resolution", "")]

def isoPrecisions : List (List String) := [["hours"], ["minutes"], ["date"], ["seconds"], ["ns"]]

def rfcPrecisions : List (List String) := [["date"], ["seconds"], ["ns"]]

/-- The pattern for a precision, given what stands between a day and a time, and before a
  fraction. -/
def precisePattern (between point precision : String) : String :=
  let day := "%Y-%m-%d"
  match precision with
  | "hours" => day ++ between ++ "%H%:z"
  | "minutes" => day ++ between ++ "%H:%M%:z"
  | "seconds" => day ++ between ++ "%H:%M:%S%:z"
  | "ns" => day ++ between ++ "%H:%M:%S" ++ point ++ "%N%:z"
  | _ => day

/-- The pattern that an option asks for, if it asks for one. -/
def patternOf? (o : GivenOption) : Option String :=
  match o.key with
  | "I" =>
    some (precisePattern "T" "," ((o.value.bind (choice? isoPrecisions)).getD "date"))
  | "rfc-3339" =>
    some (precisePattern " " "." ((o.value.bind (choice? rfcPrecisions)).getD "date"))
  | "R" => some "%a, %d %b %Y %H:%M:%S %z"
  | "resolution" => some "%s.%N"
  | _ => none

/-- Writes moments, or tells that a phrase means none. -/
def dateOf (pattern : List Char) (sh : Shell) (phrase : List Char) : Shell :=
  match Moment.ofPhrase? (presentMoment sh) phrase with
  | some t => sh.printLine (t.written pattern)
  | none => complain sh "date" (bytes "invalid date " ++ inEscapes phrase) 1

def date : Builtin :=
  let fault? (sh : Shell) (o : GivenOption) : Option (List Char) :=
    match o.key, o.value with
    | "I", some v => badChoice? sh "date" "iso-8601" v isoPrecisions
    | "rfc-3339", some v => badChoice? sh "date" "rfc-3339" v rfcPrecisions
    | _, _ => none
  withOptions "date" 1 dateTable fault? fun os sh operands =>
    let sources := ["d", "f", "r", "resolution"].filter (givenIn os)
    let patterns := os.filterMap patternOf?
    let given := (operands.head?).filter fun a => a.head? = some '+'
    let pattern := (given.map List.tail).getD
      (bytes (patterns.headD "%a %b %e %H:%M:%S %Z %Y"))
    let sh := sh.withStatus 0
    let sources := sources ++ if givenIn os "s" then ["s"] else []
    if 1 < (sources.filter (· ≠ "s")).length then
      misused sh "date"
        (bytes "the options to specify dates for printing are mutually exclusive") 1
    else if 1 < sources.length then
      misused sh "date" (bytes "the options to print and set the time may not be used together") 1
    else
      match operands, given with
      | _ :: extra :: _, _ => extraOperand sh "date" extra 1
      | [a], none =>
        if sources.isEmpty && patterns.isEmpty then
          complain sh "date" (bytes "invalid date " ++ inEscapes a) 1
        else
          misused sh "date" (bytes "the argument " ++ inEscapes a ++
            bytes (" lacks a leading '+';\nwhen using an option to specify date(s), any " ++
              "non-option\nargument must be a format string beginning with '+'")) 1
      | _, given =>
        if 1 < patterns.length || (given.isSome && !patterns.isEmpty) then
          complain sh "date" (bytes "multiple output formats specified") 1
        else
          match lastValue? os "d", lastValue? os "r", lastValue? os "f", lastValue? os "s" with
          | some phrase, _, _, _ => dateOf pattern sh phrase
          | none, some name, _, _ =>
            match present (look sh name) with
            | .ok (_, item) => sh.printLine (Moment.written ⟨item.modified⟩ pattern)
            | .error f => complain sh "date" (plainFault name f) 1
          | none, none, some name, _ =>
            let (r, sh) := textOf sh name
            match r with
            | .ok cs => (linesOf cs).foldl (dateOf pattern) sh
            | .error f => complain sh "date" (plainFault name f) 1
          | none, none, none, some phrase =>
            match Moment.ofPhrase? (presentMoment sh) phrase with
            | some t => sh.printLine (t.written pattern)
            | none => complain sh "date" (bytes "invalid date " ++ inEscapes phrase) 1
          | none, none, none, none => sh.printLine ((presentMoment sh).written pattern)

end Utility

end Crond.Script
