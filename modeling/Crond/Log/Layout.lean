import Crond.Json.Quoted
import Crond.Log.Event
import Crond.Log.Style

/-
  Layouts: the text of an event in each style, with the line breaks that end it.

  Colours are terminal sequences around parts of the text. The JSON style has none.
-/

namespace Crond.Log

open Json

/-- A style, with or without colour. -/
structure Layout where
  style : Style
  isColored : Bool
  deriving DecidableEq, Repr

/-- The colour of a level, as a terminal code. -/
def Level.color : Level → String
  | .error => "31"
  | .warn => "33"
  | .info => "32"
  | .debug => "34"
  | .trace => "35"

/-- The name of a level, right-aligned to the width of the longest. -/
def Level.column (l : Level) : String :=
  String.ofList (List.replicate (5 - l.name.length) ' ') ++ l.name

/-- The hexadecimal numeral of a number. -/
def hexText (n : Nat) : String := String.ofList (Nat.toDigits 16 n)

/-- A character of a message; one that a terminal would act upon is written as its code. -/
def showChar (c : Char) : String :=
  let n := c.toNat
  if n = 0x07 || n = 0x08 then "\\x0" ++ hexText n
  else if n = 0x0c then "\\x0c"
  else if n = 0x1b || n = 0x7f then "\\x" ++ hexText n
  else if 0x80 ≤ n && n ≤ 0x9f then "\\u\x7b" ++ hexText n ++ "\x7d"
  else String.singleton c

def showMessage (s : String) : String := String.join (s.toList.map showChar)

namespace Layout

def bold : String := "1"

def dim : String := "2"

def italic : String := "3"

/-- Begins a colour. -/
def begin (l : Layout) (code : String) : String :=
  if l.isColored then "\x1b[" ++ code ++ "m" else ""

/-- Ends all colours. -/
def reset (l : Layout) : String := if l.isColored then "\x1b[0m" else ""

def paint (l : Layout) (code s : String) : String := l.begin code ++ s ++ l.reset

/-- Fields as they follow a message on its line. -/
def fieldList (l : Layout) (fields : List (String × String)) : List String :=
  fields.map fun (k, v) => l.paint italic k ++ l.paint dim "=" ++ v

/-- Time and level, as a line begins with them. -/
def head (l : Layout) (time : String) (e : Event) : String :=
  l.paint dim time ++ " " ++ l.paint e.level.color e.level.column ++ " "

def full (l : Layout) (time : String) (e : Event) : String :=
  let span := match e.span with
    | none => ""
    | some s =>
      let fields := if s.fields.isEmpty then "" else
        l.paint bold "\x7b" ++ " ".intercalate (l.fieldList s.fields) ++ l.paint bold "\x7d"
      l.paint bold s.name ++ fields ++ l.paint dim ":" ++ " "
  l.head time e ++ span ++ " ".intercalate (showMessage e.message :: l.fieldList e.fields) ++ "\n"

/-- As the full style, but with the fields of the span at the end of the line. -/
def compact (l : Layout) (time : String) (e : Event) : String :=
  let (span, fields) := match e.span with
    | none => ("", [])
    | some s => (l.paint bold s.name ++ ": ", l.fieldList s.fields)
  l.head time e ++ span ++
    " ".intercalate (showMessage e.message :: l.fieldList e.fields ++ fields) ++ "\n"

/-- A field of the pretty style, inside text of the level's colour. -/
def prettyField (l : Layout) (level : Level) (field : String × String) : String :=
  l.paint (bold ++ ";" ++ level.color) field.1 ++ l.begin level.color ++ ": " ++ field.2

def pretty (l : Layout) (time : String) (e : Event) : String :=
  let fields := e.fields.map (l.prettyField e.level)
  let span := match e.span with
    | none => ""
    | some s =>
      let aside := dim ++ ";" ++ italic
      let fields := if s.fields.isEmpty then "" else
        " " ++ l.paint aside "with" ++ " " ++
          ", ".intercalate (s.fields.map fun (k, v) => l.paint bold k ++ ": " ++ v)
      "    " ++ l.paint aside "in" ++ " " ++ l.paint bold s.name ++ fields ++ "\n"
  "  " ++ l.head time e ++ " " ++
    l.paint e.level.color (", ".intercalate (showMessage e.message :: fields)) ++ "\n" ++
    span ++ "\n"

def quoteAll (fields : List (String × String)) : List (String × String) :=
  fields.map fun (k, v) => (k, quote v)

def json (time : String) (e : Event) : String :=
  let span := match e.span with
    | none => []
    | some s =>
      let text := objectText (quoteAll (s.fields ++ [("name", s.name)]))
      [("span", text), ("spans", "[" ++ text ++ "]")]
  objectText ([("timestamp", quote time), ("level", quote e.level.name),
    ("fields", objectText (quoteAll (("message", e.message) :: e.fields)))] ++ span) ++ "\n"

/-- The text of an event at a time. -/
def render (l : Layout) (time : String) (e : Event) : String :=
  match l.style with
  | .full => l.full time e
  | .pretty => l.pretty time e
  | .compact => l.compact time e
  | .json => json time e

end Layout

end Crond.Log
