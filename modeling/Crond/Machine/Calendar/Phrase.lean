import Crond.Calendar.Moment
import Crond.Machine.Calendar.Titles
import Crond.Text.Bytes
import Crond.Machine.Floating
import Crond.Text.Numeral

/-
  Moments as people write them.

  A phrase is made of parts in any order: a date, a time of the day, a zone, a day of the week, and
  steps such as `2 days ago`. What it does not say is as it is now, except that a date without a
  time means its midnight. All clocks are those of Greenwich, where a phrase names no zone.
-/

namespace Crond.Calendar

open Text

namespace Phrase

/-! ### Tokens -/

/-- A part of the text. -/
inductive Token where
  /-- Digits, and what stands behind a point, with a sign in front if there is one. -/
  | number (sign : Option Bool) (digits : List Char) (fraction : Option (List Char))
  /-- Letters, all of them small, without points. -/
  | word (letters : List Char)
  | mark (c : Char)
  deriving DecidableEq, Repr

/-- The digits at the front of a text, with a fraction behind them if there is one. -/
def numberAt (cs : List Char) : List Char × Option (List Char) × List Char :=
  let (digits, rest) := cs.span Char.isDigit
  match rest with
  | c :: d :: more =>
    if (c = '.' || c = ',') && d.isDigit then
      let (fraction, rest) := (d :: more).span Char.isDigit
      (digits, some fraction, rest)
    else (digits, none, rest)
  | rest => (digits, none, rest)

/-- Takes a text apart. The number bounds the tokens. -/
def tokens : Nat → List Char → List Token
  | 0, _ => []
  | _, [] => []
  | n + 1, c :: cs =>
    if isSpace c then tokens n cs
    else if c.isDigit then
      let (digits, fraction, rest) := numberAt (c :: cs)
      .number none digits fraction :: tokens n rest
    else if c = '+' || c = '-' then
      let behind := cs.dropWhile isSpace
      if (behind.head?.map Char.isDigit).getD false then
        let (digits, fraction, rest) := numberAt behind
        .number (some (c = '-')) digits fraction :: tokens n rest
      else if c = '-' then tokens n behind
      else .mark c :: tokens n cs
    else if c.isAlpha then
      let (letters, rest) := (c :: cs).span fun d => d.isAlpha || d = '.'
      .word ((letters.filter (· ≠ '.')).map Char.toLower) :: tokens n rest
    else .mark c :: tokens n cs

/-! ### Words -/

/-- The place of a title that a word of small letters is, or is short for. -/
def titled? (titles : List String) (word : List Char) : Option Nat :=
  titles.findIdx? fun t =>
    let letters := (bytes t).map Char.toLower
    word = letters || word = letters.take 3

def month? (word : List Char) : Option Nat :=
  if word = bytes "sept" then some 9 else (titled? monthTitles word).map (· + 1)

def weekday? (word : List Char) : Option Nat :=
  ([("tues", 2), ("wednes", 3), ("thur", 4), ("thurs", 4)].lookup (String.ofList word)).or
    (titled? weekdayTitles word)

/-- Lengths of steps. -/
inductive Step where
  | years
  | months
  | days (count : Nat)
  | seconds (count : Nat)
  deriving DecidableEq, Repr

/-- The step that a word names, of which there can be several. -/
def step? (word : List Char) : Option Step :=
  let single := if 1 < word.length && word.getLast? = some 's' then word.dropLast else word
  let known : List (String × Step) :=
    [("year", .years), ("month", .months), ("fortnight", .days 14), ("week", .days 7),
      ("day", .days 1), ("hour", .seconds 3600), ("minute", .seconds 60), ("min", .seconds 60),
      ("second", .seconds 1), ("sec", .seconds 1)]
  (known.lookup (String.ofList word)).or (known.lookup (String.ofList single))

/-- Words that count. -/
def count? (word : List Char) : Option Int :=
  [("last", (-1 : Int)), ("this", 0), ("next", 1), ("first", 1), ("third", 3), ("fourth", 4),
    ("fifth", 5), ("sixth", 6), ("seventh", 7), ("eighth", 8), ("ninth", 9), ("tenth", 10),
    ("eleventh", 11), ("twelfth", 12)].lookup (String.ofList word)

/-- Words that shift by days on their own. -/
def dayShift? (word : List Char) : Option Int :=
  [("tomorrow", (1 : Int)), ("yesterday", -1), ("today", 0), ("now", 0)].lookup (String.ofList word)

/-- How many minutes the clocks of a zone are ahead. -/
def zone? (word : List Char) : Option Int :=
  let hours := [("gmt", (0 : Int)), ("ut", 0), ("utc", 0), ("wet", 0), ("z", 0), ("west", 1),
    ("bst", 1), ("cet", 1), ("cest", 2), ("met", 1), ("mest", 2), ("eet", 2), ("eest", 3),
    ("msk", 3), ("jst", 9), ("est", -5), ("edt", -4), ("cst", -6), ("cdt", -5), ("mst", -7),
    ("mdt", -6), ("pst", -8), ("pdt", -7)]
  let letters := "abcdefghiklm".toList.zipIdx.map fun (c, n) => ([c], (n : Int) + 1)
  let others := "nopqrstuvwxy".toList.zipIdx.map fun (c, n) => ([c], -(n : Int) - 1)
  ((hours.lookup (String.ofList word)).or ((letters ++ others).lookup word)).map (60 * ·)

/-! ### Reading -/

/-- What a phrase has said so far. -/
structure Reading where
  /-- The year with the number of its digits. -/
  year? : Option (Int × Nat) := none
  month : Nat := 1
  day : Nat := 1
  hour : Nat := 0
  minute : Nat := 0
  second : Nat := 0
  nanos : Nat := 0
  /-- Whether the hour is one of the second half of the day, if it is counted to twelve. -/
  isLate? : Option Bool := none
  weekday : Nat := 0
  ordinal : Int := 0
  zone : Int := 0
  years : Int := 0
  months : Int := 0
  days : Int := 0
  nanoStep : Int := 0
  dates : Nat := 0
  times : Nat := 0
  weekdays : Nat := 0
  zones : Nat := 0
  steps : Nat := 0

namespace Reading

def value (digits : List Char) : Nat := digitsValue 10 digits

/-- The nanoseconds of a fraction of a second. -/
def nanosOf (fraction : Option (List Char)) : Nat :=
  let ds := (fraction.getD []).take 9
  value (ds ++ List.replicate (9 - ds.length) '0')

def withDate (r : Reading) (year? : Option (Int × Nat)) (month day : Nat) : Reading :=
  { r with year? := year?.or r.year?, month, day, dates := r.dates + 1 }

def withTime (r : Reading) (hour minute second nanos : Nat) (isLate? : Option Bool) : Reading :=
  { r with hour, minute, second, nanos, isLate?, times := r.times + 1 }

def withZone (r : Reading) (minutes : Int) : Reading :=
  { r with zone := minutes, zones := r.zones + 1 }

def withWeekday (r : Reading) (ordinal : Int) (weekday : Nat) : Reading :=
  { r with ordinal, weekday, weekdays := r.weekdays + 1 }

/-- Goes so many steps further. -/
def withStep (r : Reading) (count : Int) (fraction : Nat) (s : Step) : Reading :=
  let r := { r with steps := r.steps + 1 }
  match s with
  | .years => { r with years := r.years + count }
  | .months => { r with months := r.months + count }
  | .days n => { r with days := r.days + n * count }
  | .seconds n =>
    { r with nanoStep := r.nanoStep + n * count * nanosPerSecond + fraction * count.sign }

/-- Digits that stand alone. They mean a year behind a date and a time, a whole date, or a time. -/
def withDigits (r : Reading) (digits : List Char) : Reading :=
  let n := value digits
  if r.dates ≠ 0 && r.year?.isNone && r.steps = 0 && (r.times ≠ 0 || 2 < digits.length) then
    { r with year? := some (n, digits.length) }
  else if 4 < digits.length then
    r.withDate (some ((n / 10000 : Nat), digits.length - 4)) (n / 100 % 100) (n % 100)
  else if digits.length ≤ 2 then r.withTime n 0 0 0 none
  else r.withTime (n / 100) (n % 100) 0 0 none

end Reading

/-- Minutes behind a sign: hours, or hours and minutes in one. -/
def offsetOf? (isNegative : Bool) (digits : List Char) (minutes : Option (List Char)) :
    Option Int :=
  let n := Reading.value digits
  let total := match minutes with
    | some ms => 60 * n + Reading.value ms
    | none => if digits.length ≤ 2 then 60 * n else 60 * (n / 100) + n % 100
  if total ≤ 1440 then some (if isNegative then -total else total) else none

/-- Reads a zone behind a time, if there is one that is written as a number. -/
def zoneBehind (r : Reading) : List Token → Option (Reading × List Token)
  | .number (some s) ds none :: .mark ':' :: .number none ms none :: rest =>
    (offsetOf? s ds (some ms)).map fun m => (r.withZone m, rest)
  | .number (some s) ds none :: rest => (offsetOf? s ds none).map fun m => (r.withZone m, rest)
  | rest => some (r, rest)

/-- Whether an hour is one of the second half of the day. -/
def isLateWord? (w : List Char) : Option Bool :=
  if w = bytes "am" then some false else if w = bytes "pm" then some true else none

/-- Reads what can stand behind a time. -/
def behindTime (r : Reading) (hour minute second nanos : Nat) :
    List Token → Option (Reading × List Token)
  | .word w :: rest =>
    match isLateWord? w with
    | some isLate => some (r.withTime hour minute second nanos (some isLate), rest)
    | none => some (r.withTime hour minute second nanos none, .word w :: rest)
  | rest => zoneBehind (r.withTime hour minute second nanos none) rest

/-- Reads `ago` behind a step, which turns it around. -/
def behindStep (r : Reading) (count : Int) (fraction : Nat) (s : Step) :
    List Token → Reading × List Token
  | .word ['a', 'g', 'o'] :: rest => (r.withStep (-count) fraction s, rest)
  | rest => (r.withStep count fraction s, rest)

/-- Reads one part of a phrase. -/
def readPart (r : Reading) : List Token → Option (Reading × List Token)
  | .number none h none :: .mark ':' :: .number none m none :: .mark ':' ::
      .number none s f :: rest =>
    behindTime r (Reading.value h) (Reading.value m) (Reading.value s) (Reading.nanosOf f) rest
  | .number none h none :: .mark ':' :: .number none m none :: rest =>
    behindTime r (Reading.value h) (Reading.value m) 0 0 rest
  | .number none a none :: .mark '/' :: .number none b none :: .mark '/' ::
      .number none c none :: rest =>
    if 4 ≤ a.length then
      some (r.withDate (some (Reading.value a, a.length)) (Reading.value b) (Reading.value c), rest)
    else
      some (r.withDate (some (Reading.value c, c.length)) (Reading.value a) (Reading.value b), rest)
  | .number none a none :: .mark '/' :: .number none b none :: rest =>
    some (r.withDate none (Reading.value a) (Reading.value b), rest)
  | .number none y none :: .number (some true) m none :: .number (some true) d none :: rest =>
    some (r.withDate (some (Reading.value y, y.length)) (Reading.value m) (Reading.value d), rest)
  | .number none d none :: .word w :: .number (some true) y none :: rest =>
    match month? w with
    | some m => some (r.withDate (some (Reading.value y, y.length)) m (Reading.value d), rest)
    | none => (step? w).map fun s =>
      (r.withStep (Reading.value d) 0 s, .number (some true) y none :: rest)
  | .number sign n f :: .word w :: rest =>
    let signed : Int := if sign = some true then -(Reading.value n : Int) else Reading.value n
    match step? w with
    | some s =>
      if f.isSome && s ≠ .seconds 1 then none
      else some (behindStep r signed (Reading.nanosOf f) s rest)
    | none =>
      match sign, month? w, weekday? w, isLateWord? w with
      | none, some m, _, _ =>
        match rest with
        | .number none y none :: .mark ':' :: more =>
          some (r.withDate none m (Reading.value n), .number none y none :: .mark ':' :: more)
        | .number none y none :: more =>
          some (r.withDate (some (Reading.value y, y.length)) m (Reading.value n), more)
        | rest => some (r.withDate none m (Reading.value n), rest)
      | none, _, some d, _ => some (r.withWeekday signed d, rest)
      | none, _, _, some isLate => some (r.withTime (Reading.value n) 0 0 0 (some isLate), rest)
      | none, _, _, _ => some (r.withDigits n, .word w :: rest)
      | some s, _, _, _ =>
        if r.times ≠ 0 then (offsetOf? s n none).map fun m => (r.withZone m, .word w :: rest)
        else none
  | .number none n none :: .number (some s) k f :: rest =>
    match rest with
    | .word w :: _ =>
      if (step? w).isSome then some (r.withDigits n, .number (some s) k f :: rest)
      else zoneBehind (r.withTime (Reading.value n) 0 0 0 none) (.number (some s) k f :: rest)
    | _ => zoneBehind (r.withTime (Reading.value n) 0 0 0 none) (.number (some s) k f :: rest)
  | .number none n none :: rest => some (r.withDigits n, rest)
  | .number (some s) n none :: rest =>
    if r.times ≠ 0 || r.zones ≠ 0 then zoneBehind r (.number (some s) n none :: rest) else none
  | .word ['t'] :: .number none n f :: rest =>
    if r.dates ≠ 0 && r.times = 0 then some (r, .number none n f :: rest) else none
  | .word w :: rest =>
    match month? w, weekday? w, dayShift? w, count? w, step? w with
    | some m, _, _, _, _ =>
      match rest with
      | .number none d none :: .mark ',' :: .number none y none :: more =>
        some (r.withDate (some (Reading.value y, y.length)) m (Reading.value d), more)
      | .number none d none :: more => some (r.withDate none m (Reading.value d), more)
      | _ => none
    | _, some d, _, _, _ =>
      some (r.withWeekday 0 d, if rest.head? = some (.mark ',') then rest.tail else rest)
    | _, _, some days, _, _ => some (r.withStep days 0 (.days 1), rest)
    | _, _, _, some n, _ =>
      match rest with
      | .word u :: more =>
        match step? u, weekday? u with
        | some s, _ => some (behindStep r n 0 s more)
        | none, some d => some (r.withWeekday n d, more)
        | none, none => none
      | _ => none
    | _, _, _, _, some s => some (behindStep r 1 0 s rest)
    | _, _, _, _, _ =>
      (zone? w).map fun minutes =>
        match rest with
        | .number (some s) n none :: more =>
          match more with
          | .word u :: _ =>
            if (step? u).isSome then (r.withZone minutes, rest)
            else (r.withZone (minutes + (offsetOf? s n none).getD 0), more)
          | _ => (r.withZone (minutes + (offsetOf? s n none).getD 0), more)
        | rest => (r.withZone minutes, rest)
  | _ => none

/-- Reads all parts of a phrase. The number bounds them. -/
def readAll : Nat → Reading → List Token → Option Reading
  | 0, _, _ => none
  | _, r, [] => some r
  | n + 1, r, ts => do
    let (r, rest) ← readPart r ts
    if rest.length < ts.length then readAll n r rest else none

/-! ### Moments -/

/-- The year that digits mean. Two of them are short for a year of this or the last century. -/
def yearOf (y : Int × Nat) : Int :=
  if y.2 = 2 || y.2 = 1 then (if y.1 < 69 then 2000 + y.1 else 1900 + y.1) else y.1

/-- The moment that has been said, as things are now. -/
def Reading.moment? (now : Moment) (r : Reading) : Option Moment := do
  let base := now.civil
  guard (r.dates ≤ 1 && r.times ≤ 1 && r.weekdays ≤ 1 && r.zones ≤ 1)
  let year := (r.year?.map yearOf).getD base.date.year
  let (month, day) := if r.dates = 0 then (base.date.month, base.date.day) else (r.month, r.day)
  let hour ← match r.isLate? with
    | none => some r.hour
    | some isLate =>
      if r.hour = 0 || 12 < r.hour then none
      else some (r.hour % 12 + if isLate then 12 else 0)
  let keepsTime := r.steps ≠ 0 && r.dates = 0 && r.weekdays = 0
  let clock := if r.times ≠ 0 then (hour, r.minute, r.second, r.nanos)
    else if keepsTime then (base.hour, base.minute, base.second, base.nano)
    else (0, 0, 0, 0)
  let (hour, minute, second, nano) := clock
  let date : Date := ⟨year, month, day⟩
  guard (date.exists && hour < 24 && minute < 60 && second < 60)
  let weekday := weekdayOf date.dayNumber
  let shift : Int := if r.weekdays = 0 || r.dates ≠ 0 then 0
    else ((r.weekday + 7 - weekday) % 7 : Nat) +
      7 * (r.ordinal - if 0 < r.ordinal && r.weekday ≠ weekday then 1 else 0)
  let monthsOn : Int := (month : Int) - 1 + r.months
  let first : Date := ⟨year + r.years + monthsOn / 12, (monthsOn % 12).toNat + 1, 1⟩
  let dayNumber := first.dayNumber + (day - 1 : Int) + shift + r.days
  let clockSeconds : Nat := 3600 * hour + 60 * minute + second
  let seconds := dayNumber * secondsPerDay + clockSeconds - 60 * r.zone
  return ⟨seconds * nanosPerSecond + nano + r.nanoStep⟩

end Phrase

/-- The moment that a phrase means. -/
def Moment.ofPhrase? (now : Moment) (cs : List Char) : Option Moment :=
  match cs.dropWhile isSpace with
  | '@' :: rest =>
    let (isNegative, rest) := match rest with
      | '-' :: ds => (true, ds)
      | '+' :: ds => (false, ds)
      | ds => (false, ds)
    let (digits, fraction, behind) := Phrase.numberAt rest
    if digits.isEmpty || behind.any (!isSpace ·) then none
    else
      let nanos : Int := digitsValue 10 digits * nanosPerSecond + Phrase.Reading.nanosOf fraction
      some ⟨if isNegative then -nanos else nanos⟩
  | cs =>
    let ts := Phrase.tokens (cs.length + 1) cs
    (Phrase.readAll (ts.length + 1) {} ts).bind (Phrase.Reading.moment? now)

end Crond.Calendar
