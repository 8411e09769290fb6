import Crond.Calendar.Moment
import Crond.Machine.Calendar.Titles
import Crond.Text.Bytes
import Crond.Text.Numeral

/-
  Moments written as a pattern asks.

  A pattern is a text with directives: a percent sign, flags, a width and a letter. A directive that
  means nothing stands for itself. All moments are those of Greenwich.
-/

namespace Crond.Calendar

open Text

namespace Pattern

/-- What stands between the percent sign and the letter of a directive. -/
structure Flags where
  /-- What numbers are filled up with: nothing, blanks, zeros, or zeros behind a sign. -/
  filling? : Option Char := none
  raises : Bool := false
  swaps : Bool := false
  width? : Option Nat := none
  colons : Nat := 0
  deriving DecidableEq, Repr

/-- Reads flags, the width, and what changes a directive, which means nothing here. -/
def Flags.read : Flags → List Char → Flags × List Char
  | f, c :: cs =>
    if f.width?.isNone && (c = '-' || c = '_' || c = '0' || c = '+') then
      Flags.read { f with filling? := some c } cs
    else if f.width?.isNone && c = '^' then Flags.read { f with raises := true } cs
    else if f.width?.isNone && c = '#' then Flags.read { f with swaps := true } cs
    else if c.isDigit then
      Flags.read { f with width? := some (10 * f.width?.getD 0 + (c.toNat - 48)) } cs
    else if c = ':' then Flags.read { f with colons := f.colons + 1 } cs
    else (f, c :: cs)
  | f, [] => (f, [])

/-- What a directive stands for. -/
inductive Value where
  | text (cs : List Char)
  /-- A number with at least so many digits, filled up with a character. -/
  | number (n : Int) (width : Nat) (filling : Char)
  /-- Digits behind a point, of which as many are shown as are asked for. -/
  | fraction (digits : List Char)
  | unknown

/-- A number as wide as it must be. -/
def shownNumber (f : Flags) (n : Int) (width : Nat) (filling : Char) : List Char :=
  let digits := numeral n.natAbs
  let filling := match f.filling? with
    | some '_' => ' '
    | some '0' | some '+' => '0'
    | _ => filling
  let width := f.width?.getD width
  let sign := if n < 0 then ['-']
    else if f.filling? = some '+' && (f.width?.isSome && 4 < width) then ['+'] else []
  let rest := List.replicate (width - sign.length - digits.length) filling
  if f.filling? = some '-' then sign ++ digits
  else if filling = ' ' then rest ++ sign ++ digits
  else sign ++ rest ++ digits

/-- A text as wide as it must be. -/
def shownText (f : Flags) (cs : List Char) : List Char :=
  let cs := if f.raises then cs.map Char.toUpper else cs
  let rest := (f.width?.getD 0) - cs.length
  match f.filling? with
  | some '-' => cs
  | some '0' | some '+' => List.replicate rest '0' ++ cs
  | _ => List.replicate rest ' ' ++ cs

def Value.shown (f : Flags) : Value → Option (List Char)
  | .text cs => some (shownText f cs)
  | .number n width filling => some (shownNumber f n width filling)
  | .fraction digits => some (digits.take (f.width?.getD digits.length))
  | .unknown => none

/-- The number of the week that a day is in, where weeks begin on a day that is so far from the
  first of them. -/
def weekOf (dayOfYear sinceBegin : Nat) : Nat := (dayOfYear + 7 - sinceBegin) / 7

/-- The year and the number of the week that has the Thursday next to a day. -/
def isoWeek (day : Int) : Int × Nat :=
  let thursday := day - ((weekdayOf day + 6) % 7 : Nat) + 3
  let year := (Date.ofDayNumber thursday).year
  (year, ((thursday - (Date.mk year 1 1).dayNumber) / 7).toNat + 1)

/-- The values of the directives that are made of no others. -/
def valueOf (t : Moment) (f : Flags) (letter : Char) : Value :=
  let c := t.civil
  let day := t.dayNumber
  let weekday := weekdayOf day
  let dayOfYear := (day - (Date.mk c.date.year 1 1).dayNumber).toNat
  let title (titles : List String) (n : Nat) : List Char := bytes (titles.getD n "")
  let cased (cs : List Char) : Value := .text (if f.swaps then cs.map Char.toUpper else cs)
  let two (n : Int) : Value := .number n 2 '0'
  let hour12 := if c.hour % 12 = 0 then 12 else c.hour % 12
  match letter with
  | 'a' => cased ((title weekdayTitles weekday).take 3)
  | 'A' => cased (title weekdayTitles weekday)
  | 'b' | 'h' => cased ((title monthTitles (c.date.month - 1)).take 3)
  | 'B' => cased (title monthTitles (c.date.month - 1))
  | 'C' => two (c.date.year / 100)
  | 'd' => two c.date.day
  | 'e' => .number c.date.day 2 ' '
  | 'g' => two ((isoWeek day).1 % 100)
  | 'G' => .number (isoWeek day).1 4 '0'
  | 'H' => two c.hour
  | 'I' => two hour12
  | 'j' => .number (dayOfYear + 1) 3 '0'
  | 'k' => .number c.hour 2 ' '
  | 'l' => .number hour12 2 ' '
  | 'm' => two c.date.month
  | 'M' => two c.minute
  | 'n' => .text ['\n']
  | 'N' => .fraction (padded 9 c.nano)
  | 'p' => .text (bytes (if f.swaps then (if c.hour < 12 then "am" else "pm")
      else if c.hour < 12 then "AM" else "PM"))
  | 'P' => .text (bytes (if c.hour < 12 then "am" else "pm"))
  | 'q' => .number ((c.date.month + 2) / 3 : Nat) 1 '0'
  | 's' => .number t.seconds 1 '0'
  | 'S' => two c.second
  | 't' => .text ['\t']
  | 'u' => .number (if weekday = 0 then 7 else weekday) 1 '0'
  | 'U' => two (weekOf dayOfYear weekday)
  | 'V' => two (isoWeek day).2
  | 'w' => .number weekday 1 '0'
  | 'W' => two (weekOf dayOfYear ((weekday + 6) % 7))
  | 'y' => two (c.date.year % 100)
  | 'Y' => .number c.date.year 4 '0'
  | 'z' =>
    match f.colons with
    | 0 => .text (bytes "+0000")
    | 1 => .text (bytes "+00:00")
    | 2 => .text (bytes "+00:00:00")
    | 3 => .text (bytes "+00")
    | _ => .unknown
  | 'Z' => .text (bytes (if f.swaps then "utc" else "UTC"))
  | '%' => if f.width?.isNone then .text ['%'] else .unknown
  | _ => .unknown

/-- The pattern that a directive stands for, if it stands for one. -/
def whole? (letter : Char) : Option String :=
  [('c', "%a %b %e %H:%M:%S %Y"), ('D', "%m/%d/%y"), ('F', "%Y-%m-%d"), ('r', "%I:%M:%S %p"),
    ('R', "%H:%M"), ('T', "%H:%M:%S"), ('x', "%m/%d/%y"), ('X', "%H:%M:%S")].lookup letter

/-- Writes a moment as a pattern asks. The number bounds the patterns within patterns and the
  text. -/
def write (t : Moment) : Nat → List Char → List Char
  | 0, _ => []
  | _, [] => []
  | n + 1, '%' :: cs =>
    let (f, rest) := Flags.read {} cs
    let rest := match rest with
      | 'E' :: c :: more => if (bytes "cCxXyY").contains c then c :: more else rest
      | 'O' :: c :: more => if (bytes "deHImMSuUVwWy").contains c then c :: more else rest
      | _ => rest
    match rest with
    | [] => '%' :: write t n cs
    | letter :: rest =>
      let shown := if f.colons ≠ 0 && letter ≠ 'z' then none
        else
          match whole? letter with
          | some pattern => some (shownText f (write t n (bytes pattern)))
          | none => (valueOf t f letter).shown f
      match shown with
      | some text => text ++ write t n rest
      | none => '%' :: write t n cs
  | n + 1, c :: cs => c :: write t n cs

end Pattern

/-- A moment written as a pattern asks. -/
def Moment.written (t : Moment) (pattern : List Char) : List Char :=
  Pattern.write t (pattern.length + 40) pattern

end Crond.Calendar
