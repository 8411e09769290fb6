import Crond.Schedule.Basic
import Crond.Text.Blank
import Crond.Text.Numeral

/-
  Expressions: the text of a schedule.

  An expression is six fields with one space between neighbours. A field is a list of terms with
  commas between them; a term is a base, or a base and a step with `/` between them; a base is `*`,
  a value, or two values with `-` between them. A value is a number, in the month field also JAN to
  DEC, and in the day-of-week field also SUN to SAT, where 7 is another 0.

  `readField?` gives the pattern of a field text; `Schedule.read` reads the fields in order and
  reports what is wrong with the first bad one.
-/

namespace Crond

open Text

/-! ### Values -/

/-- A number without a sign. One that is too large counts as the largest. -/
def readUnsigned? (cs : List Char) : Option Int :=
  match readNumeral largest.toNat cs with
  | .value n => some n
  | .tooLarge => some largest
  | .malformed => none

/-- A number with or without a sign. There is no value below the smallest. -/
def readNumber? : List Char → Option Int
  | '-' :: cs =>
    match readNumeral (-smallest).toNat cs with
    | .value n => some (-n)
    | .tooLarge | .malformed => none
  | '+' :: cs => readUnsigned? cs
  | cs => readUnsigned? cs

def monthNames : List (List Char × Int) :=
  [(['J', 'A', 'N'], 1), (['F', 'E', 'B'], 2), (['M', 'A', 'R'], 3), (['A', 'P', 'R'], 4),
   (['M', 'A', 'Y'], 5), (['J', 'U', 'N'], 6), (['J', 'U', 'L'], 7), (['A', 'U', 'G'], 8),
   (['S', 'E', 'P'], 9), (['O', 'C', 'T'], 10), (['N', 'O', 'V'], 11), (['D', 'E', 'C'], 12)]

def weekdayNames : List (List Char × Int) :=
  [(['S', 'U', 'N'], 0), (['M', 'O', 'N'], 1), (['T', 'U', 'E'], 2), (['W', 'E', 'D'], 3),
   (['T', 'H', 'U'], 4), (['F', 'R', 'I'], 5), (['S', 'A', 'T'], 6)]

def readMonth? (cs : List Char) : Option Int :=
  (monthNames.lookup cs).or (readNumber? cs)

/-- Sunday may be told as 7. -/
def foldSunday (n : Int) : Int := if n = 7 then 0 else n

def readWeekday? (cs : List Char) : Option Int :=
  ((weekdayNames.lookup cs).or (readNumber? cs)).map foldSunday

/-- The value reader of a field. -/
def Field.readValue? : Field → List Char → Option Int
  | .month => readMonth?
  | .weekday => readWeekday?
  | .second | .minute | .hour | .day => readNumber?

/-! ### Field texts -/

section

variable (value? : List Char → Option Int)

/-- A base: `*`, a value, or two values with `-` between them. -/
def readBase? (cs : List Char) : Option Pattern :=
  match cs.splitOn '-' with
  | [['*']] => some .any
  | [v] => (value? v).map .value
  | [first, last] =>
    match value? first, value? last with
    | some a, some b => some (.span a b)
    | _, _ => none
  | _ => none

/-- A term: a base, alone or with a step. A step is a number in every field. -/
def readTerm? (cs : List Char) : Option Pattern :=
  match cs.splitOn '/' with
  | [base] => readBase? value? base
  | [base, step] =>
    match readBase? value? base, readNumber? step with
    | some p, some n => p.stepped? n
    | _, _ => none
  | _ => none

/-- A list of terms as one pattern; a single term stands for itself. -/
def Pattern.ofTerms : List Pattern → Pattern
  | [p] => p
  | ps => .union ps

def readField? (cs : List Char) : Option Pattern :=
  ((cs.splitOn ',').mapM (readTerm? value?)).map Pattern.ofTerms

end

/-! ### Expressions -/

/-- Why an expression is refused. -/
inductive Fault where
  | fieldCount (count : Nat)
  | badFormat (field : Field)
  | notInRange (field : Field)
  | badSpan (field : Field)
  deriving DecidableEq, Repr

namespace Fault

def ofDefect (f : Field) : Pattern.Defect → Fault
  | .notInRange => notInRange f
  | .badSpan => badSpan f

/-- The field at fault, unless the number of fields is wrong. -/
def field? : Fault → Option Field
  | fieldCount _ => none
  | badFormat f | notInRange f | badSpan f => some f

def message : Fault → String
  | fieldCount _ => "6 values required"
  | badFormat f => f.name ++ ": bad format"
  | notInRange f => f.name ++ ": not in range"
  | badSpan f => f.name ++ ": bad range"

end Fault

/-- The pattern of a field, checked against its bounds. -/
def Field.read (f : Field) (cs : List Char) : Except Fault Pattern :=
  match readField? f.readValue? cs with
  | none => .error (.badFormat f)
  | some p =>
    match p.defect? f.low f.high with
    | some d => .error (.ofDefect f d)
    | none => .ok p

namespace Schedule

/-- Reads the six field texts of an expression, up to the first bad one. -/
def readFields (second minute hour day month weekday : List Char) : Except Fault Schedule := do
  let second ← Field.second.read second
  let minute ← Field.minute.read minute
  let hour ← Field.hour.read hour
  let day ← Field.day.read day
  let month ← Field.month.read month
  let weekday ← Field.weekday.read weekday
  return ⟨second, minute, hour, day, month, weekday⟩

/-- Reads an expression. White space around it is no part of it. -/
def read (cs : List Char) : Except Fault Schedule :=
  match (trim cs).splitOn ' ' with
  | [second, minute, hour, day, month, weekday] =>
    readFields second minute hour day month weekday
  | parts => .error (.fieldCount parts.length)

def parse (expression : String) : Except Fault Schedule := read expression.toList

end Schedule

end Crond
