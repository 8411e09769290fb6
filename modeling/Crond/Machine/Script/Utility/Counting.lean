import Crond.Machine.Script.Utility.Basic

/-
  The programs `wc` and `cmp`, which count what is in texts and tell where they differ.
-/

namespace Crond.Script

open Text Files

namespace Utility

/-! ### Counts -/

/-- What is counted of a text. -/
structure Counts where
  lines : Nat := 0
  words : Nat := 0
  characters : Nat := 0
  bytes : Nat := 0
  /-- The length of the longest line, as far as it can be seen. -/
  longest : Nat := 0
  deriving DecidableEq, Repr

/-- Whatever can be seen begins a word, and only blanks end it. -/
def countWords : Bool → List Char → Nat
  | isInside, [] => if isInside then 1 else 0
  | isInside, c :: cs =>
    if isSpace c then (if isInside then 1 else 0) + countWords false cs
    else countWords (isInside || isPrintable c) cs

/-- The columns that a line takes up. Tabs go to the next multiple of eight. -/
def columns (l : List Char) : Nat :=
  let step (acc : Nat × Nat) (c : Char) : Nat × Nat :=
    let (here, most) := acc
    let next :=
      if c = '\t' then here + 8 - here % 8
      else if c = '\r' || c = '\x0c' then 0
      else if isPrintable c then here + 1
      else here
    (next, max most next)
  (l.foldl step (0, 0)).2

def Counts.ofText (cs : List Char) : Counts where
  lines := cs.count '\n'
  words := countWords false cs
  characters := cs.length
  bytes := cs.length
  longest := (linesOf cs).foldl (fun n l => max n (columns l)) 0

def Counts.add (a b : Counts) : Counts where
  lines := a.lines + b.lines
  words := a.words + b.words
  characters := a.characters + b.characters
  bytes := a.bytes + b.bytes
  longest := max a.longest b.longest

/-- The counts that options ask for, in the order in which they are printed. -/
def Counts.chosen (keys : List String) (c : Counts) : List Nat :=
  [("l", c.lines), ("w", c.words), ("m", c.characters), ("c", c.bytes), ("L", c.longest)].filterMap
    fun (key, n) => if keys.contains key then some n else none

def countTable : OptionTable where
  letters := "clLmw"
  names := [("bytes", "c"), ("chars", "m"), ("lines", "l"), ("words", "w"),
    ("max-line-length", "L"), ("files0-from", ":"), ("total", ":")]

def totalModes : List (List String) := [["auto"], ["always"], ["only"], ["never"]]

def wc : Builtin :=
  let fault? (sh : Shell) (o : GivenOption) : Option (List Char) :=
    match o.key, o.value with
    | "total", some v =>
      badChoice? sh "wc" "total" v totalModes
    | _, _ => none
  withOptions "wc" 1 countTable fault? fun os sh names =>
    let given := os.map GivenOption.key
    let keys := if ["c", "l", "L", "m", "w"].any given.contains then given else ["l", "w", "c"]
    let mode := ((lastValue? os "total").bind (choice? totalModes)).getD "auto"
    let sizes := (if names.isEmpty then [['-']] else names).map (isSized sh)
    let (loaded, sh) := load sh names
    let counted := loaded.map fun (name, r) =>
      match r with
      | .error .isDirectory => (name, some {}, some PathFault.isDirectory)
      | .error f => (name, none, some f)
      | .ok cs => (name, some (Counts.ofText cs), none)
    let all := (counted.filterMap fun c => c.2.1).foldl Counts.add {}
    let isLone := (all.chosen keys).length = 1 && names.length ≤ 1
    let known := (loaded.zip sizes).foldl (fun n ((_, r), isSized) =>
      match r with
      | .ok cs => if isSized then n + cs.length else n
      | .error _ => n) 0
    let isUnsized := (counted.zip sizes).any fun ((_, c, _), isSized) => c.isSome && !isSized
    let width :=
      if isLone || mode = "only" then 1
      else max (numeral known).length (if isUnsized then 7 else 1)
    let row (c : Counts) (name : Name) : List Char :=
      [' '].intercalate ((c.chosen keys).map (aligned width)) ++
        (if name.isEmpty then [] else ' ' :: name)
    let report (sh : Shell) (c : Name × Option Counts × Option PathFault) : Shell :=
      let (name, counts, fault) := c
      let sh := match fault with
        | some f =>
          complain sh "wc" (if name.isEmpty then bytes "invalid zero-length file name"
            else plainFault name f) 1
        | none => sh
      match counts with
      | some c =>
        if mode = "only" then sh else sh.printLine (row c (if names.isEmpty then [] else name))
      | none => sh
    let sh := counted.foldl report (sh.withStatus 0)
    if mode = "only" then sh.printLine (row all [])
    else if mode = "always" || (mode = "auto" && 1 < loaded.length) then
      sh.printLine (row all (bytes "total"))
    else sh

/-! ### Differences -/

/-- How many characters two texts have in common at the front. -/
def commonLength : List Char → List Char → Nat
  | a :: as, b :: bs => if a = b then commonLength as bs + 1 else 0
  | _, _ => 0

def compareTable : OptionTable where
  letters := "bci:ln:sv"
  names := [("print-bytes", "b"), ("print-chars", "c"), ("ignore-initial", "i"), ("verbose", "l"),
    ("bytes", "n"), ("silent", "s"), ("quiet", "s")]

/-- A byte made visible. -/
def visibleByte (c : Char) : List Char :=
  let low (n : Nat) : List Char :=
    if n = 127 then ['^', '?'] else if n < 32 then ['^', Char.ofNat (n + 64)] else [Char.ofNat n]
  if c.toNat < 128 then low c.toNat else 'M' :: '-' :: low (c.toNat - 128)

/-- A byte in octal digits, with blanks in front. -/
def octalByte (c : Char) : List Char :=
  let ds := Nat.toDigits 8 c.toNat
  List.replicate (3 - ds.length) ' ' ++ ds

/-- A number of bytes, which is not counted in blocks. -/
def byteCount? (cs : List Char) : Option Nat :=
  if cs.getLast? = some 'b' then none else (sizeOf? cs).filter (· < 9223372036854775808)

/-- The numbers of bytes to leave out at the front of two texts, or the part of a value that is
  wrong. -/
def skipsOf (cs : List Char) : Except (List Char) (Nat × Nat) :=
  match cs.span (· ≠ ':') with
  | (both, []) => (byteCount? both).elim (.error cs) fun n => .ok (n, n)
  | (first, _ :: second) =>
    match byteCount? first, byteCount? second with
    | none, _ => .error cs
    | _, none => .error second
    | some m, some n => .ok (m, n)

/-- The row of a table that tells of a difference. -/
def differenceRow (width : Nat) (isShown : Bool) (n : Nat) (a b : Char) : List Char :=
  let shownA := visibleByte a
  let shown := ' ' :: shownA ++ List.replicate (4 - shownA.length) ' '
  aligned width n ++ ' ' :: octalByte a ++ (if isShown then shown else []) ++ ' ' :: octalByte b ++
    (if isShown then ' ' :: visibleByte b else []) ++ ['\n']

/-- Tells where two texts differ, given what they are called and what options there are. -/
def reportDifference (os : List GivenOption) (known : Option Nat) (first second : Name)
    (a b : List Char) (sh : Shell) : Shell :=
  let isQuiet := givenIn os "s"
  let isShown := givenIn os "b" || givenIn os "c"
  let n := commonLength a b
  let line := (a.take n).count '\n' + 1
  let shorter := if a.length ≤ b.length then a else b
  let ending : List Char :=
    (if a.length ≤ b.length then first else second) ++
      (if shorter.isEmpty then bytes " which is empty"
        else bytes " after byte " ++ numeral shorter.length ++
          (if givenIn os "l" then []
            else if shorter.getLast? = some '\n' then
              bytes ", line " ++ numeral (shorter.count '\n')
            else bytes ", in line " ++ numeral (shorter.count '\n' + 1)))
  let tell (sh : Shell) : Shell :=
    if a.length = b.length then sh.withStatus 1
    else if isQuiet then sh.withStatus 1
    else complain sh "cmp" (bytes "EOF on " ++ ending) 1
  if a = b then sh.withStatus 0
  else if isQuiet then sh.withStatus 1
  else if givenIn os "l" then
    let width := (numeral (known.getD 9223372036854775807)).length
    let rows := ((a.zip b).zipIdx 1).flatMap fun ((x, y), n) =>
      if x = y then [] else differenceRow width isShown n x y
    tell (sh.print rows)
  else if n < shorter.length then
    let unit := if isShown then " differ: byte " else " differ: char "
    let bytesHere := match a[n]?, b[n]? with
      | some x, some y =>
        if isShown then
          bytes " is " ++ octalByte x ++ ' ' :: visibleByte x ++ ' ' :: octalByte y ++
            ' ' :: visibleByte y
        else []
      | _, _ => []
    (sh.printLine (first ++ ' ' :: second ++ bytes unit ++ numeral (n + 1) ++
      bytes ", line " ++ numeral line ++ bytesHere)).withStatus 1
  else tell sh

/-- What is said of a number of bytes that is none. -/
def badByteCount (sh : Shell) (name : String) (value : List Char) : List Char :=
  bytes ("invalid --" ++ name ++ " value '") ++ value ++ '\'' :: hint sh "cmp"

def cmp : Builtin := fun sh args =>
  let fault? (sh : Shell) (o : GivenOption) : Option (List Char) :=
    match o.key, o.value with
    | "n", some v => if (byteCount? v).isSome then none else some (badByteCount sh "bytes" v)
    | "i", some v =>
      match skipsOf v with
      | .error part => some (badByteCount sh "ignore-initial" part)
      | .ok _ => none
    | _, _ => none
  withOptions "cmp" 2 compareTable fault? (fun os sh names =>
    let compare (first second : Name) (skips : Nat × Nat) : Shell :=
      let isSame := first = second || (first ≠ ['-'] && second ≠ ['-'] &&
        (sh.files.resolve sh.directory first).toOption.isSome &&
        (sh.files.resolve sh.directory first).toOption =
          (sh.files.resolve sh.directory second).toOption)
      let sizes := [isSized sh first, isSized sh second]
      let (loaded, sh) := load sh [first, second]
      match loaded with
      | [(_, .ok a), (_, .ok b)] =>
        if isSame && skips.1 = skips.2 then sh.withStatus 0
        else
          let limit := ((lastValue? os "n").bind byteCount?).getD (a.length + b.length)
          let a := (a.drop skips.1).take limit
          let b := (b.drop skips.2).take limit
          let known := match sizes with
            | [true, true] => some (min a.length b.length)
            | [true, _] => some a.length
            | [_, true] => some b.length
            | _ => none
          reportDifference os known first second a b sh
      | loaded =>
        match loaded.find? fun l => l.2.toOption.isNone with
        | some (name, .error f) =>
          if givenIn os "s" && f = .missing then sh.withStatus 2
          else complain sh "cmp" (bareFault name f) 2
        | _ => sh
    if givenIn os "l" && givenIn os "s" then
      misused sh "cmp" (bytes "options -l and -s are incompatible") 2
    else
      let given := os.filterMap fun o =>
        if o.key = "i" then o.value.bind fun v => (skipsOf v).toOption else none
      match (names.drop 2).take 2 |>.find? fun n => (byteCount? n).isNone with
      | some n => complain sh "cmp" (badByteCount sh "ignore-initial" n) 2
      | none =>
        let skipped (own : Option Name) (of : Nat × Nat → Nat) : Nat :=
          ((given.map of) ++ ((own.bind byteCount?).toList)).foldl max 0
        let skips := (skipped names[2]? (·.1), skipped names[3]? (·.2))
        match names with
        | [] =>
          misused sh "cmp"
            (bytes "missing operand after '" ++ (args.getLastD (ownName sh "cmp")) ++ ['\'']) 2
        | [first] => compare first ['-'] skips
        | first :: second :: rest =>
          match rest[2]? with
          | some extra =>
            misused sh "cmp" (bytes "extra operand '" ++ extra ++ ['\'']) 2
          | none => compare first second skips) sh args

end Utility

end Crond.Script
