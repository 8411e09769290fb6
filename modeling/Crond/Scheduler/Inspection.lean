import Crond.Scheduler.Registry
import Crond.Schedule.Printer

/-
  Jobs as they are shown for inspection, on one line: the id and the schedule, and two dots for
  the task, which cannot be shown.
-/

namespace Crond

open Text

mutual

def Pattern.inspect : Pattern → String
  | .any => "Wildcard"
  | .value c => "Constant(" ++ String.ofList (signedNumeral c) ++ ")"
  | .span first last =>
    "Range(" ++ String.ofList (signedNumeral first) ++ ", " ++
      String.ofList (signedNumeral last) ++ ")"
  | .every base step =>
    "Interval(" ++ base.inspect ++ ", " ++ String.ofList (signedNumeral step) ++ ")"
  | .union members => "Alternation([" ++ ", ".intercalate (inspectAll members) ++ "])"

def inspectAll : List Pattern → List String
  | [] => []
  | p :: ps => p.inspect :: inspectAll ps

end

def Field.shortName : Field → String
  | .day => "day"
  | .weekday => "weekday"
  | f => f.name

def Schedule.inspect (s : Schedule) : String :=
  let fields := Field.all.map fun f => f.shortName ++ ": " ++ (s.pattern f).inspect
  "CronInterval \x7b " ++ ", ".intercalate fields ++ " \x7d"

def Job.inspect (j : Job) : String :=
  "Job \x7b id: JobId(" ++ String.ofList (numeral j.id.number) ++ "), interval: " ++
    j.schedule.inspect ++ ", .. \x7d"

end Crond
