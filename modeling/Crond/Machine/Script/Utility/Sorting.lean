import Crond.Machine.Script.Utility.Order

/-
  The program `sort`.

  Lines are compared by keys, which are parts of them, each in an order of its own. Lines with the
  same keys are compared as a whole, unless they are to stay as they are.
-/

namespace Crond.Script

open Text Files

namespace Utility

/-! ### Keys -/

/-- What is left out where keys are compared. -/
inductive Omission where
  | nothing
  /-- All but letters, digits and blanks. -/
  | marks
  /-- What cannot be printed. -/
  | unprintable
  deriving DecidableEq, Repr

/-- How keys are ordered. -/
structure Ordering.Style where
  skipsAtStart : Bool := false
  skipsAtEnd : Bool := false
  omission : Omission := .nothing
  foldsCase : Bool := false
  isGeneral : Bool := false
  isHuman : Bool := false
  isMonth : Bool := false
  isNumeric : Bool := false
  isRandom : Bool := false
  isReverse : Bool := false
  isVersion : Bool := false
  deriving DecidableEq, Repr

/-- Where a key begins: behind some fields, and behind some characters. Without a number of fields
  it is the whole line. It ends behind some fields, or in the next one if there is a number of
  characters. -/
structure SortKey where
  startField : Option Nat := none
  startOffset : Nat := 0
  endField : Option Nat := none
  endOffset : Nat := 0
  style : Ordering.Style := {}
  deriving DecidableEq, Repr

namespace Ordering.Style

/-- Whether an order is the usual one, if it is not reversed. -/
def isUsual (s : Style) : Bool := { s with isReverse := false } = {}

/-- What a letter changes about an order. The flags tell whether it stands at the start of a key,
  and at its end. -/
def withLetter? (s : Style) (atStart atEnd : Bool) (c : Char) : Option Style :=
  match c with
  | 'b' =>
    some { s with
      skipsAtStart := s.skipsAtStart || atStart
      skipsAtEnd := s.skipsAtEnd || atEnd }
  | 'd' => some { s with omission := .marks }
  | 'f' => some { s with foldsCase := true }
  | 'g' => some { s with isGeneral := true }
  | 'h' => some { s with isHuman := true }
  | 'i' => some (if s.omission = .nothing then { s with omission := .unprintable } else s)
  | 'M' => some { s with isMonth := true }
  | 'n' => some { s with isNumeric := true }
  | 'R' => some { s with isRandom := true }
  | 'r' => some { s with isReverse := true }
  | 'V' => some { s with isVersion := true }
  | _ => none

/-- Takes the letters at the front of a text. -/
def withLetters (s : Style) (atStart atEnd : Bool) : List Char → Style × List Char
  | [] => (s, [])
  | c :: cs =>
    match s.withLetter? atStart atEnd c with
    | some s => withLetters s atStart atEnd cs
    | none => (s, c :: cs)

/-- The letters of an order that do not go together, if there are such. -/
def clash? (s : Style) : Option String :=
  let others := s.isVersion || s.isRandom || s.omission ≠ .nothing
  let count := [s.isNumeric, s.isGeneral, s.isHuman, s.isMonth, others].count true
  let letters : List (Char × Bool) := [('d', s.omission = .marks), ('f', s.foldsCase),
    ('g', s.isGeneral), ('h', s.isHuman), ('i', s.omission = .unprintable), ('M', s.isMonth),
    ('n', s.isNumeric), ('R', s.isRandom), ('V', s.isVersion)]
  if count ≤ 1 then none
  else some (String.ofList (letters.filterMap fun (c, isOn) => if isOn then some c else none))

/-- What counts of a key. -/
def counted (s : Style) (cs : List Char) : List Char :=
  let kept := match s.omission with
    | .nothing => cs
    | .marks => cs.filter fun c => isGap c || c.isAlphanum
    | .unprintable => cs.filter isPrintable
  if s.foldsCase then kept.map Char.toUpper else kept

def order (s : Style) (a b : List Char) : Ordering :=
  let o :=
    if s.isNumeric then compareNumbers a b
    else if s.isGeneral then compareFloatings a b
    else if s.isHuman then compareSizes a b
    else if s.isMonth then compare (monthOf a) (monthOf b)
    else if s.isVersion then compareNames (s.counted a) (s.counted b)
    else compareText (s.counted a) (s.counted b)
  if s.isReverse then o.swap else o

end Ordering.Style

/-- A number of fields or characters, and the rest. -/
def fieldCount (what : String) (cs : List Char) : Except (List Char) (Nat × List Char) :=
  match cs.span Char.isDigit with
  | ([], _) => .error (bytes (what ++ ": invalid count at start of ") ++ inEscapes cs)
  | (ds, rest) => .ok (digitsValue 10 ds, rest)

/-- Reads what is said about a key. -/
def SortKey.read (cs : List Char) : Except (List Char) SortKey := do
  let bad (why : String) : List Char :=
    bytes (why ++ ": invalid field specification ") ++ inEscapes cs
  let offset (rest : List Char) : Except (List Char) (Option Nat × List Char) := do
    match rest with
    | '.' :: rest =>
      let (n, rest) ← fieldCount "invalid number after '.'" rest
      return (some n, rest)
    | rest => return (none, rest)
  let (field, rest) ← fieldCount "invalid number at field start" cs
  if field = 0 then .error (bad "field number is zero")
  let (start, rest) ← offset rest
  if start = some 0 then .error (bad "character offset is zero")
  let startOffset := start.getD 1 - 1
  let startField := if field = 1 && startOffset = 0 then none else some (field - 1)
  let (style, rest) := ({} : Ordering.Style).withLetters true false rest
  match rest with
  | ',' :: rest =>
    let (last, rest) ← fieldCount "invalid number after ','" rest
    if last = 0 then .error (bad "field number is zero")
    let (finish, rest) ← offset rest
    let (style, rest) := style.withLetters false true rest
    if !rest.isEmpty then .error (bad "stray character in field spec")
    return { startField, startOffset, endField := some (last - 1), endOffset := finish.getD 0,
             style }
  | [] => return { startField, startOffset, style }
  | _ => .error (bad "stray character in field spec")

/-- The rest of a line behind some fields, which end with a separator, or begin with blanks. -/
def afterFields (separator : Option Char) : Nat → List Char → List Char
  | 0, cs => cs
  | n + 1, cs =>
    match separator with
    | some c => afterFields separator n ((cs.dropWhile (· ≠ c)).drop 1)
    | none => afterFields separator n ((cs.dropWhile isGap).dropWhile (!isGap ·))

/-- The part of a line that is a key. -/
def SortKey.part (separator : Option Char) (k : SortKey) (l : List Char) : List Char :=
  let skip (isOn : Bool) (cs : List Char) : List Char := if isOn then cs.dropWhile isGap else cs
  let start := (skip k.style.skipsAtStart
    (afterFields separator (k.startField.getD 0) l)).drop k.startOffset
  let finish : List Char :=
    match k.endField with
    | none => []
    | some n =>
      if k.endOffset = 0 then
        match separator with
        | some c => (afterFields separator n l).dropWhile (· ≠ c)
        | none => afterFields none (n + 1) l
      else (skip k.style.skipsAtEnd (afterFields separator n l)).drop k.endOffset
  start.take (start.length - finish.length)

/-- How lines are sorted. -/
structure SortPlan where
  keys : List SortKey
  separator : Option Char
  isReverse : Bool
  isStable : Bool
  isUnique : Bool

namespace SortPlan

def keyOrder (p : SortPlan) (a b : List Char) : Ordering :=
  p.keys.foldl (fun o k => o.then (k.style.order (k.part p.separator a) (k.part p.separator b))) .eq

/-- The order of lines. Without keys they are compared as a whole. -/
def order (p : SortPlan) (a b : List Char) : Ordering :=
  let whole := if p.isReverse then (compareText a b).swap else compareText a b
  if p.keys.isEmpty then whole
  else if p.isStable || p.isUnique then p.keyOrder a b
  else (p.keyOrder a b).then whole

/-- Leaves out the lines that are the same as the one kept before them. -/
def dropRepeats (p : SortPlan) : Option (List Char) → List (List Char) → List (List Char)
  | _, [] => []
  | some kept, l :: ls =>
    if p.order kept l = .eq then dropRepeats p (some kept) ls
    else l :: dropRepeats p (some l) ls
  | none, l :: ls => l :: dropRepeats p (some l) ls

def finished (p : SortPlan) (ls : List (List Char)) : List (List Char) :=
  if p.isUnique then p.dropRepeats none ls else ls

def sorted (p : SortPlan) (ls : List (List Char)) : List (List Char) :=
  p.finished (ls.mergeSort fun a b => p.order a b ≠ .gt)

/-- Puts texts together by taking the least of their first lines again and again. -/
def merged (p : SortPlan) (texts : List (List (List Char))) : List (List Char) :=
  p.finished (texts.foldl (fun all ls => all.merge ls fun a b => p.order a b ≠ .gt) [])

/-- The first line that is out of order, with its number. -/
def disorder? (p : SortPlan) (ls : List (List Char)) : Option (List Char × Nat) :=
  (((ls.zip ls.tail).zipIdx 2).find? fun ((a, b), _) =>
    let o := p.order a b
    o = .gt || (p.isUnique && o = .eq)).map fun ((_, b), n) => (b, n)

end SortPlan

/-! ### The program -/

def sortTable : OptionTable where
  letters := "bcCdfghik:mMno:rRsS:t:T:uVy:z"
  names := [("ignore-leading-blanks", "b"), ("check", "check::"), ("compress-program", ":"),
    ("debug", ""), ("dictionary-order", "d"), ("ignore-case", "f"), ("files0-from", ":"),
    ("general-numeric-sort", "g"), ("ignore-nonprinting", "i"), ("key", "k"), ("merge", "m"),
    ("month-sort", "M"), ("numeric-sort", "n"), ("human-numeric-sort", "h"),
    ("version-sort", "V"), ("random-sort", "R"), ("random-source", ":"), ("sort", ":"),
    ("output", "o"), ("reverse", "r"), ("stable", "s"), ("batch-size", ":"), ("buffer-size", "S"),
    ("field-separator", "t"), ("temporary-directory", "T"), ("unique", "u"),
    ("zero-terminated", "z"), ("parallel", ":")]

def sortWords : List (List String) :=
  [["general-numeric"], ["human-numeric"], ["month"], ["numeric"], ["random"], ["version"]]

def checkWords : List (List String) := [["quiet", "silent"], ["diagnose-first"]]

/-- The letter that a value of the option `sort` stands for. -/
def sortLetter (word : String) : Char :=
  match word with
  | "general-numeric" => 'g'
  | "human-numeric" => 'h'
  | "month" => 'M'
  | "random" => 'R'
  | "version" => 'V'
  | _ => 'n'

/-- The separator that a value means. -/
def separatorOf (v : List Char) : Except (List Char) Char :=
  match v with
  | [] => .error (bytes "empty tab")
  | [c] => .ok c
  | ['\\', '0'] => .ok '\x00'
  | v => .error (bytes "multi-character tab " ++ inEscapes v)

/-- What is wrong with a value of an option that is one of several words. -/
def sortChoice? (sh : Shell) (o : GivenOption) : Option (List Char) :=
  match o.key, o.value with
  | "sort", some v => badChoice? sh "sort" "sort" v sortWords
  | "check", some v => badChoice? sh "sort" "check" v checkWords
  | _, _ => none

def sortFault? (_ : Shell) (o : GivenOption) : Option (List Char) :=
  match o.key, o.value with
  | "k", some v =>
    match SortKey.read v with
    | .error message => some message
    | .ok _ => none
  | "t", some v =>
    match separatorOf v with
    | .error message => some message
    | .ok _ => none
  | "S", some v =>
    let bare := if v.getLast? = some '%' then v.dropLast else v
    if (sizeOf? bare).isSome then none else some (bytes "invalid -S argument " ++ inEscapes v)
  | "parallel", some v =>
    if natural v = 0 then some (bytes "number in parallel must be nonzero") else none
  | "batch-size", some v =>
    if v.all Char.isDigit then none
    else some (bytes "invalid --batch-size argument " ++ inEscapes v)
  | _, _ => none

/-- The order that letters ask for without a key. -/
def globalStyle (os : List GivenOption) : Ordering.Style :=
  os.foldl (fun s o =>
    let letter := match o.key, o.value with
      | "sort", some v => some (sortLetter ((choice? sortWords v).getD ""))
      | key, none => if key.length = 1 then key.toList.head? else none
      | _, _ => none
    (letter.bind (s.withLetter? true true)).getD s) {}

def planOf (os : List GivenOption) : SortPlan :=
  let style := globalStyle os
  let given := os.filterMap fun o =>
    if o.key = "k" then o.value.bind fun v => (SortKey.read v).toOption else none
  let keys := given.map fun k =>
    if k.style.isUsual && !k.style.isReverse then { k with style } else k
  { keys := if keys.isEmpty && !style.isUsual then [{ style }] else keys
    separator := (lastValue? os "t").bind fun v => (separatorOf v).toOption
    isReverse := style.isReverse
    isStable := givenIn os "s"
    isUnique := givenIn os "u" }

/-- Whether an order is checked without a message about where it ends. -/
def checksQuietly (os : List GivenOption) : Bool :=
  givenIn os "C" || ((lastValue? os "check").bind (choice? checkWords)) = some "quiet"

/-- What does not go together among options. -/
def sortClash? (os : List GivenOption) (p : SortPlan) : Option (List Char) :=
  let isQuiet := checksQuietly os
  let isLoud := givenIn os "c" || os.any fun o => o.key = "check" &&
    (o.value.bind (choice? checkWords)) ≠ some "quiet"
  let checks := (if isLoud then "c" else "") ++ (if isQuiet then "C" else "")
  let separators := (os.filterMap fun o => if o.key = "t" then o.value else none).eraseDups
  let together (letters : String) : List Char :=
    bytes ("options '-" ++ letters ++ "' are incompatible")
  match p.keys.findSome? fun k => k.style.clash? with
  | some letters => some (together letters)
  | none =>
    if 1 < separators.length then some (bytes "incompatible tabs")
    else if checks.length = 2 then some (together checks)
    else none

/-- Sorts, merges or checks the lines of files. -/
def sortFiles (os : List GivenOption) : Builtin := fun sh names =>
  let p := planOf os
  let isChecked := givenIn os "c" || givenIn os "C" || givenIn os "check"
  let isQuiet := checksQuietly os
  let mark := if givenIn os "z" then '\x00' else '\n'
  let fail (sh : Shell) (message : List Char) : Shell := complain sh "sort" message 2
  match sortClash? os p with
  | some message => fail sh message
  | none =>
    if isChecked && 1 < names.length then
      fail sh (bytes "extra operand " ++ inEscapes (names[1]?.getD []) ++
        bytes (" not allowed with -" ++ (if isQuiet then "C" else "c")))
    else if isChecked && (lastValue? os "o").isSome then
      fail sh (bytes ("options '-" ++ (if isQuiet then "C" else "c") ++ "o' are incompatible"))
    else
      let (loaded, sh) := load sh names
      let isMissing (r : Except PathFault (List Char)) : Bool :=
        match r with
        | .error .isDirectory | .ok _ => false
        | .error _ => true
      let absent? := loaded.find? fun l => isMissing l.2
      match absent?.or (loaded.find? fun l => l.2.toOption.isNone) with
      | some (name, .error f) =>
        let what :=
          if f = .isDirectory then "read failed: "
          else if f = .badDescriptor then "stat failed: "
          else if isChecked then "open failed: "
          else "cannot read: "
        let begun := if f = .isDirectory then
            ((lastValue? os "o").bind fun out => (store sh out .writing []).toOption).getD sh
          else sh
        fail begun (bytes what ++ plainFault name f)
      | _ =>
        let texts := loaded.map fun l => segments mark (l.2.toOption.getD [])
        if isChecked then
          match p.disorder? texts.flatten with
          | none => sh.withStatus 0
          | some (l, n) =>
            if isQuiet then sh.withStatus 1
            else
              complain sh "sort" (names.headD ['-'] ++ ':' :: numeral n ++
                bytes ": disorder: " ++ l) 1
        else
          let out := closed mark
            (if givenIn os "m" then p.merged texts else p.sorted texts.flatten)
          match lastValue? os "o" with
          | none => (sh.print out).withStatus 0
          | some name =>
            match store sh name .writing out with
            | .ok sh => sh.withStatus 0
            | .error f => fail sh (bytes "open failed: " ++ plainFault name f)

def sort : Builtin := fun sh args =>
  let sound := (sortTable.read args).options.takeWhile fun o => (sortFault? sh o).isNone
  match sound.findSome? (sortChoice? sh) with
  | some message => complain sh "sort" message 1
  | none => withOptions "sort" 2 sortTable sortFault? sortFiles sh args

end Utility

end Crond.Script
