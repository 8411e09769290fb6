import Crond.Machine.Script.Utility.Basic

/-
  The programs `cut` and `paste`, which take lines apart into columns and put them together.
-/

namespace Crond.Script

open Text Files

namespace Utility

/-! ### Lists of columns -/

/-- Columns one after the other; without a last one they go on to the end of the line. -/
structure Stretch where
  first : Nat
  last : Option Nat
  deriving DecidableEq, Repr

/-- The number that is too large for a column, and all above it. -/
def largestColumn : Nat := 18446744073709551615

/-- Reads one part of a list, given what stands behind it. The flag tells whether fields are
  meant. -/
def Stretch.read (isFields : Bool) (part behind : List Char) : Except (List Char) Stretch :=
  let numbered : List Char :=
    bytes (if isFields then "fields are numbered from 1"
      else "byte/character positions are numbered from 1")
  let bad (rest : List Char) : Except (List Char) Stretch :=
    .error (bytes (if isFields then "invalid field value " else "invalid byte/character position ")
      ++ inEscapes (rest ++ behind))
  let large (digits : List Char) : List Char :=
    bytes (if isFields then "field number " else "byte/character offset ") ++ inEscapes digits ++
      bytes " is too large"
  let (low, rest) := part.span Char.isDigit
  let n := digitsValue 10 low
  match rest with
  | [] =>
    if largestColumn ≤ n then .error (large low)
    else if n = 0 then .error numbered
    else .ok ⟨n, some n⟩
  | '-' :: rest =>
    let (high, rest) := rest.span Char.isDigit
    let first := if low.isEmpty then 1 else n
    if largestColumn ≤ n then .error (large low)
    else if first = 0 then .error numbered
    else
      match rest with
      | '-' :: _ =>
        .error (bytes (if isFields then "invalid field range"
          else "invalid byte or character range"))
      | _ :: _ => bad rest
      | [] =>
        if high.isEmpty then
          if low.isEmpty then .error (bytes "invalid range with no endpoint: -")
          else .ok ⟨first, none⟩
        else if largestColumn ≤ digitsValue 10 high then .error (large high)
        else if digitsValue 10 high < first then .error (bytes "invalid decreasing range")
        else .ok ⟨first, some (digitsValue 10 high)⟩
  | rest => bad rest

/-- Whether a stretch begins within another one. -/
def Stretch.meets (a b : Stretch) : Bool := a.last.all fun n => b.first ≤ n

/-- The columns between stretches, from a column on. -/
def otherStretches (start : Nat) : List Stretch → List Stretch
  | [] => [⟨start, none⟩]
  | s :: rest =>
    let before := if start < s.first then [⟨start, some (s.first - 1)⟩] else []
    match s.last with
    | some n => before ++ otherStretches (n + 1) rest
    | none => before

/-- Reads the parts of a list. The number bounds them. -/
def readStretches (isFields : Bool) : Nat → List Char → Except (List Char) (List Stretch)
  | 0, _ => .ok []
  | n + 1, cs => do
    let isMark (c : Char) : Bool := c = ',' || c = ' ' || c = '\t'
    let (part, rest) := cs.span (!isMark ·)
    let s ← Stretch.read isFields part rest
    match rest with
    | [] => return [s]
    | _ :: rest => return s :: (← readStretches isFields n rest)

/-- The stretches of a list, in order. -/
def stretchesOf (isFields : Bool) (cs : List Char) : Except (List Char) (List Stretch) := do
  let all ← readStretches isFields (cs.length + 1) cs
  let sorted := all.mergeSort fun a b => a.first ≤ b.first
  return sorted.foldl (fun joined s =>
    match joined.getLast? with
    | some t =>
      if t.meets s then
        let last := match t.last, s.last with
          | some m, some n => some (max m n)
          | _, _ => none
        joined.dropLast ++ [⟨t.first, last⟩]
      else joined ++ [s]
    | none => [s]) []

/-- What stretches pick out of a list, stretch by stretch. -/
def pick {α : Type} (stretches : List Stretch) (xs : List α) : List (List α) :=
  (stretches.map fun s =>
    match s.last with
    | some n => (xs.take n).drop (s.first - 1)
    | none => xs.drop (s.first - 1)).filter (!·.isEmpty)

/-! ### Cutting -/

def cutTable : OptionTable where
  letters := "b:c:d:f:nsz"
  names := [("bytes", "b"), ("characters", "c"), ("fields", "f"), ("delimiter", "d"),
    ("only-delimited", "s"), ("output-delimiter", ":"), ("complement", ""),
    ("zero-terminated", "z")]

/-- What is wrong with options, as they stand one after the other. The flag tells whether a list is
  given before them. -/
def cutMisuse? (hasList : Bool) : List GivenOption → Option String
  | [] => none
  | o :: os =>
    if o.key = "b" || o.key = "c" || o.key = "f" then
      if hasList then some "only one list may be specified" else cutMisuse? true os
    else if o.key = "d" && 1 < (o.value.getD []).length then
      some "the delimiter must be a single character"
    else cutMisuse? hasList os

def cut : Builtin := fun sh args =>
  match cutMisuse? false (cutTable.read args).options with
  | some message => misused sh "cut" (bytes message) 1
  | none => withOptions "cut" 1 cutTable faultless (fun os sh names =>
    let misuse (message : List Char) : Shell := misused sh "cut" message 1
    match os.find? fun o => o.key = "b" || o.key = "c" || o.key = "f" with
    | none => misuse (bytes "you must specify a list of bytes, characters, or fields")
    | some o =>
      let isFields := o.key = "f"
      if !isFields && givenIn os "d" then
        misuse (bytes "an input delimiter may be specified only when operating on fields")
      else if !isFields && givenIn os "s" then
        misuse (bytes
          "suppressing non-delimited lines makes sense\n\tonly when operating on fields")
      else
        match stretchesOf isFields (o.value.getD []) with
        | .error message => misuse message
        | .ok all =>
          let chosen := if givenIn os "complement" then otherStretches 1 all else all
          let mark := if givenIn os "z" then '\x00' else '\n'
          let delimiter := match lastValue? os "d" with
            | some [] => '\x00'
            | some (c :: _) => c
            | none => '\t'
          let between := lastValue? os "output-delimiter"
          let (cs, sh) := gather sh "cut" 1 plainFault names
          let line (l : List Char) : Option (List Char) :=
            if isFields then
              if delimiter ∈ l then
                some ((between.getD [delimiter]).intercalate
                  (pick chosen (l.splitOn delimiter)).flatten)
              else if givenIn os "s" then none
              else some l
            else some ((between.getD []).intercalate (pick chosen l))
          sh.print (closed mark ((segments mark cs).filterMap line))) sh args

/-! ### Pasting -/

def pasteTable : OptionTable where
  letters := "d:sz"
  names := [("serial", "s"), ("delimiters", "d"), ("zero-terminated", "z")]

/-- The delimiters that a text stands for. One of them can be empty. -/
def delimiters : List Char → List (List Char)
  | [] => []
  | '\\' :: c :: cs =>
    (match c with
      | '0' => []
      | 'b' => ['\x08']
      | 'f' => ['\x0c']
      | 'n' => ['\n']
      | 'r' => ['\r']
      | 't' => ['\t']
      | 'v' => ['\x0b']
      | c => [c]) :: delimiters cs
  | c :: cs => [c] :: delimiters cs

/-- Puts pieces together with delimiters in turn. -/
def woven (between : List (List Char)) (ps : List (List Char)) : List Char :=
  match ps with
  | [] => []
  | p :: ps =>
    p ++ (ps.zipIdx.flatMap fun (q, n) => (between[n % max 1 between.length]?.getD []) ++ q)

/-- Rows of the first lines of texts, as long as one of them has lines. Texts with the same number
  share their lines. The first argument bounds the rows. -/
def pastedRows : Nat → List Nat → (Nat → List (List Char)) → List (List (Option (List Char)))
  | 0, _, _ => []
  | n + 1, sources, left =>
    let start : List (Option (List Char)) := []
    let (row, left) := sources.foldl (fun (row, left) s =>
      match left s with
      | [] => (row ++ [none], left)
      | l :: ls => (row ++ [some l], fun t => if t = s then ls else left t)) (start, left)
    if row.any Option.isSome then row :: pastedRows n sources left else []

def paste : Builtin := withOptions "paste" 1 pasteTable faultless fun os sh names =>
  let mark := if givenIn os "z" then '\x00' else '\n'
  let given := (lastValue? os "d").getD ['\t']
  let trailing := (given.reverse.takeWhile (· = '\\')).length
  if trailing % 2 = 1 then
    complain sh "paste" (bytes "delimiter list ends with an unescaped backslash: " ++ given) 1
  else
    let between := if given.isEmpty then [[]] else delimiters given
    let names := if names.isEmpty then [['-']] else names
    let (loaded, sh) := load sh names
    let bad := loaded.filterMap fun (name, r) =>
      match r with
      | .error f => some (name, f)
      | .ok _ => none
    let isOpened (r : Except PathFault (List Char)) : Bool :=
      match r with
      | .error .isDirectory | .ok _ => true
      | .error _ => false
    let texts := loaded.map fun (_, r) => segments mark (r.toOption.getD [])
    let fail (sh : Shell) (bad : Name × PathFault) : Shell :=
      complain sh "paste" (plainFault bad.1 bad.2) 1
    if givenIn os "s" then
      let rows := (loaded.zip texts).filterMap fun ((_, r), ls) =>
        if isOpened r then some (woven between ls) else none
      bad.foldl fail ((sh.print (closed mark rows)).withStatus 0)
    else
      match bad.find? fun b => b.2 ≠ .isDirectory with
      | some b => fail sh b
      | none =>
        let sources := names.zipIdx.map fun (name, n) =>
          if name = ['-'] then (names.findIdx? (· = ['-'])).getD n else n
        let rows := pastedRows (texts.flatten.length + 1) sources fun n => texts[n]?.getD []
        let made := rows.map fun r => woven between (r.map fun l => l.getD [])
        bad.foldl fail ((sh.print (closed mark made)).withStatus 0)

end Utility

end Crond.Script
