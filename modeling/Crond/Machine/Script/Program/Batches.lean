import Crond.Machine.Script.Launch

/-
  The program `xargs`: the words there are to read become further arguments of a command, so many of
  them at a time.

  A word ends at a blank. Quotes and backslashes keep blanks in it. Where every line takes the place
  of a text in the command, only the end of a line ends it; where a mark is given that separates the
  words, nothing else has a meaning.
-/

namespace Crond.Script

open Text Files

namespace Utility

/-- How words are put together. -/
structure Batching where
  /-- What separates the words if it is not blanks. -/
  mark? : Option Char := none
  /-- The text that a line takes the place of. -/
  replaced? : Option (List Char) := none
  /-- How many words a command gets. -/
  words? : Option Nat := none
  /-- How many lines of words a command gets. -/
  lines? : Option Nat := none
  /-- How many bytes a command can have. -/
  room : Nat := 131072
  /-- The word at which reading ends. -/
  ending? : Option (List Char) := none
  showsCommands : Bool := false
  asksFirst : Bool := false
  skipsNothing : Bool := false
  /-- Whether words that are to stand in one command must have room in it. -/
  isStrict : Bool := false
  source? : Option Name := none
  /-- What is said about options that contradict each other. -/
  warnings : List String := []

/-! ### Options -/

def batchesTable : OptionTable where
  letters := "0a:E:e::i::I:l::L:n:prs:txP:d:o"
  names := [("null", "0"), ("arg-file", "a"), ("delimiter", "d"), ("eof", "e"), ("replace", "i"),
    ("max-lines", "l"), ("max-args", "n"), ("interactive", "p"), ("no-run-if-empty", "r"),
    ("max-chars", "s"), ("verbose", "t"), ("exit", "x"), ("max-procs", "P"), ("open-tty", "o"),
    ("process-slot-var", ":")]
  isMixed := false

/-- A whole number, which can have a sign and blanks in front. -/
def countOf? (cs : List Char) : Option Int :=
  let bare := cs.dropWhile isSpace
  let (isNegative, digits) := match bare with
    | '-' :: ds => (true, ds)
    | '+' :: ds => (false, ds)
    | ds => (false, ds)
  if digits.isEmpty || !digits.all Char.isDigit then none
  else
    let n : Int := digitsValue 10 digits
    some (if isNegative then -n else n)

/-- The most bytes that a command can have besides the variables that it gets. -/
def mostRoom (sh : Shell) : Nat :=
  2095104 - sh.environment.foldl (fun n v => n + v.1.length + v.2.length + 2) 0

/-- The mark that a text stands for: a character, or a backslash with what follows it. -/
def markOf (text : List Char) : Except (List Char) Char :=
  let escape :=
    bytes "Invalid escape sequence " ++ text ++ bytes " in input delimiter specification"
  let coded (base most : Nat) (shown : String) (digits : List Char) : Except (List Char) Char :=
    let (front, rest) := digits.span fun c => (digitOf? base c).isSome
    let n := digitsValue base front
    if most < n then
      .error (escape ++ bytes ("; character values must not exceed " ++ shown ++ "."))
    else if rest ≠ [] then
      .error (escape ++ bytes "; trailing characters " ++ rest ++ bytes " not recognised.")
    else .ok (Char.ofNat n)
  match text with
  | [c] => .ok c
  | '\\' :: 'x' :: digits => coded 16 255 "ff" digits
  | '\\' :: c :: rest =>
    if c.isDigit then coded 8 255 "377" (c :: rest)
    else match [('a', '\x07'), ('b', '\x08'), ('f', '\x0c'), ('n', '\n'), ('r', '\r'), ('t', '\t'),
        ('v', '\x0b'), ('\\', '\\')].lookup c with
    | some mark => .ok mark
    | none => .error (escape ++ ['.'])
  | _ =>
    .error (bytes "Invalid input delimiter specification " ++ text ++
      bytes (": the delimiter must be either a single character or " ++
        "an escape sequence starting with \\."))

/-- What is wrong with the value of an option. -/
def batchesFault? (sh : Shell) (o : GivenOption) : Option (List Char) :=
  let counted (least : Int) (value : List Char) : Option (List Char) :=
    let behind := bytes (" for -" ++ o.key ++ " option")
    match countOf? value with
    | none => some (bytes "invalid number \"" ++ value ++ ['"'] ++ behind ++ hint sh "xargs")
    | some n =>
      if n < least then
        some (bytes "value " ++ value ++ behind ++ bytes (" should be >= " ++ toString least) ++
          hint sh "xargs")
      else none
  match o.key, o.value with
  | "n", some value | "L", some value | "l", some value => counted 1 value
  | "P", some value => counted 0 value
  | "s", some value => if (countOf? value).isNone then counted 1 value else none
  | "d", some value =>
    match markOf value with
    | .ok _ => none
    | .error message => some message
  | _, _ => none

namespace Batching

/-- Notes that an option takes the place of another one. -/
def against (b : Batching) (isGiven : Bool) (other this : String) : Batching :=
  if isGiven then
    { b with warnings := b.warnings ++ ["warning: options " ++ other ++ " and " ++ this ++
        " are mutually exclusive, ignoring previous " ++ other ++ " value"] }
  else b

def byLines (b : Batching) (this : String) (n : Nat) : Batching :=
  let b := b.against b.words?.isSome "--max-args" this
  let b := b.against b.replaced?.isSome "--replace" this
  { b with lines? := some n, words? := none, replaced? := none, isStrict := true }

def replacing (b : Batching) (text : List Char) : Batching :=
  let b := b.against b.words?.isSome "--max-args" "--replace/-I/-i"
  let b := b.against b.lines?.isSome "--max-lines" "--replace/-I/-i"
  { b with replaced? := some text, words? := none, lines? := none }

def byWords (b : Batching) (n : Nat) : Batching :=
  let b := { b.against b.lines?.isSome "--max-lines" "--max-args/-n" with lines? := none }
  if n = 1 && b.replaced?.isSome then b
  else
    { b.against b.replaced?.isSome "--replace" "--max-args/-n" with
      words? := some n, replaced? := none }

/-- Gives a command so much room, as far as there can be so much. -/
def roomy (b : Batching) (most : Nat) (value : List Char) : Batching :=
  let n := (countOf? value).getD 0
  let told (bound : String) : Batching :=
    { b with warnings := b.warnings ++ ["value " ++ String.ofList value ++
        " for -s option should be " ++ bound] }
  if n < 1 then { told ">= 1" with room := 1 }
  else if (most : Int) < n then { told ("<= " ++ toString most) with room := most }
  else { b with room := n.toNat }

/-- What an option asks for, where a command can have so many bytes at most. -/
def apply (most : Nat) (b : Batching) (o : GivenOption) : Batching :=
  let number : Nat := ((o.value.bind countOf?).getD 1).toNat
  match o.key, o.value with
  | "0", _ => { b with mark? := some '\x00' }
  | "d", some value => { b with mark? := (markOf value).toOption }
  | "a", some name => { b with source? := some name }
  | "E", value | "e", value => { b with ending? := value }
  | "I", some text | "i", some text => b.replacing text
  | "i", none => b.replacing (bytes "\x7b\x7d")
  | "L", _ => b.byLines "-L" number
  | "l", _ => b.byLines "--max-lines/-l" number
  | "n", _ => b.byWords number
  | "p", _ => { b with asksFirst := true }
  | "r", _ => { b with skipsNothing := true }
  | "s", some value => b.roomy most value
  | "t", _ => { b with showsCommands := true }
  | "x", _ => { b with isStrict := true }
  | _, _ => b

end Batching

/-! ### Words -/

/-- Where reading is. -/
inductive Spot where
  /-- Between words. -/
  | apart
  | inWord
  | inQuotes (mark : Char)
  | behindBackslash
  deriving DecidableEq, Repr

/-- What reading has come to. -/
inductive Found where
  | word (cs : List Char)
  /-- A line ends. The flag tells whether it counts as one: behind a blank it does not. -/
  | line (isCounted : Bool)
  | closing
  | openQuote (mark : Char)
  | tooLong
  /-- There is a character that no argument can have. -/
  | nulled
  deriving DecidableEq, Repr

/-- How far words have been read. -/
structure WordReader where
  spot : Spot := .apart
  /-- The word so far, its last character first. -/
  word : List Char := []
  size : Nat := 0
  last : Char := '\n'
  hasNull : Bool := false

/-- A word that is given, as far as it can be an argument. -/
def WordReader.text (r : WordReader) : List Char := r.word.reverse.takeWhile (· ≠ '\x00')

/-- Goes on by one character, where a word has room for so many. -/
def WordReader.step (b : Batching) (room : Nat) (r : WordReader) (c : Char) :
    WordReader × List Found :=
  let isBlank (c : Char) : Bool := c = ' ' || c = '\t'
  let moved := { r with last := c }
  let stored : WordReader × List Found :=
    if room ≤ r.size then (moved, [.tooLong])
    else
      let added := { moved with word := c :: r.word, size := r.size + 1, spot := .inWord }
      if c = '\x00' && b.mark?.isNone && !r.hasNull then ({ added with hasNull := true }, [.nulled])
      else (added, [])
  let emptied : WordReader := { hasNull := r.hasNull, last := c }
  match b.mark? with
  | some mark => if c = mark then (emptied, [.word r.text, .line true]) else stored
  | none =>
    match r.spot with
    | .behindBackslash => stored
    | .inQuotes mark =>
      if c = '\n' then (moved, [.openQuote mark])
      else if c = mark then ({ moved with spot := .inWord }, [])
      else
        let (after, found) := stored
        ({ after with spot := .inQuotes mark }, found)
    | spot =>
      if spot = .apart && isSpace c then (moved, [])
      else if c = '\n' then
        if b.ending? = some r.text then (emptied, [.closing])
        else (emptied, [.word r.text, .line (!isBlank r.last)])
      else if isBlank c && b.replaced?.isNone then
        if b.ending? = some r.text then (emptied, [.closing]) else (emptied, [.word r.text])
      else if c = '\\' then ({ moved with spot := .behindBackslash }, [])
      else if c = '\'' || c = '"' then
        ({ moved with spot := .inQuotes c }, [])
      else stored

/-- What comes at the end of all there is to read. -/
def WordReader.finish (b : Batching) (r : WordReader) : List Found :=
  match r.word, r.spot with
  | [], _ => []
  | _, .inQuotes mark => [.openQuote mark]
  | _, _ =>
    if b.mark?.isNone && b.ending? = some r.text then []
    else [.word r.text, .line false]

/-! ### Commands -/

/-- The words for the next command. -/
structure Batch where
  reader : WordReader := {}
  /-- The words so far, the last one first. -/
  given : List (List Char) := []
  count : Nat := 0
  size : Nat := 0
  lines : Nat := 0
  hasRun : Bool := false
  isOver : Bool := false

/-- How many bytes words take in a command. -/
def commandSize (words : List (List Char)) : Nat := words.foldl (fun n w => n + w.length + 1) 0

/-- Gives up. -/
def abandon (sh : Shell) (message : String) (status : Nat) : Shell :=
  (complain sh "xargs" (bytes message) status).exiting (.code status)

/-- Runs a command, and looks at how it ends. -/
def runBatch (run : Interpreter) (b : Batching) (words : List (List Char)) (sh : Shell) : Shell :=
  let shown := [' '].intercalate (words.map shownName)
  let name := words.headD []
  if b.asksFirst then
    (sh.write 2 (shown ++ bytes
      "xargs: failed to open /dev/tty for reading: No such device or address\n")).exiting (.code 1)
  else
    let sh := if b.showsCommands then sh.write 2 (shown ++ ['\n']) else sh
    match sh.replacement name with
    | .error f => (complain sh "xargs" (bareFault name f) 0).exiting (.code (faultOf f).2)
    | .ok _ =>
      let begun := if b.source?.isNone then sh.forked.attach 0 .null else sh.forked
      let child := runInstead run bareFault words begun
      let joined := sh.rejoin child
      match child.exit with
      | .code 0 => joined
      | .code 255 =>
        (complain joined "xargs" (name ++ bytes ": exited with status 255; aborting") 124).exiting
          (.code 124)
      | .code _ => joined.withStatus 123
      | .signal n =>
        (complain joined "xargs" (name ++ bytes ": terminated by signal " ++ numeral n)
          125).exiting (.code 125)

/-- Runs the command with the words so far. -/
def Batch.runs (run : Interpreter) (b : Batching) (command : List (List Char))
    (sh : Shell) (t : Batch) : Shell × Batch :=
  (runBatch run b (command ++ t.given.reverse) sh,
    { reader := t.reader, hasRun := true, isOver := t.isOver })

/-- Takes in what reading has come to. -/
def Batch.take (run : Interpreter) (b : Batching) (command : List (List Char))
    (acc : Shell × Batch) (f : Found) : Shell × Batch :=
  let (sh, t) := acc
  let runs := Batch.runs run b command
  /- What is left runs while the fault is told. -/
  let failing (message : String) : Shell × Batch :=
    let told := complain sh "xargs" (bytes message) 1
    let isPending := b.replaced?.isNone && !b.isStrict && t.count ≠ 0
    let (after, t) := if isPending then runs told t else (told, t)
    (after.exiting (.code 1), t)
  if !sh.goesOn || t.isOver then acc
  else
    match f, b.replaced? with
    | .closing, _ => (sh, { t with isOver := true })
    | .nulled, _ =>
      (sh.write 2 (bytes ("xargs: WARNING: a NUL character occurred in the input.  It cannot be " ++
        "passed through in the argument list.  Did you mean to use the --null option?\n")), t)
    | .tooLong, _ => failing "argument line too long"
    | .openQuote mark, _ =>
      failing ("unmatched " ++ (if mark = '"' then "double" else "single") ++
        " quote; by default quotes are special to xargs unless you use the -0 option")
    | .word w, some old =>
      let words := command.take 1 ++
        (command.drop 1).map fun c => replacedIn old w (c.length + 1) c
      if old.isEmpty then (abandon sh "command too long" 1, t)
      else if b.room < commandSize words then (abandon sh "argument list too long" 1, t)
      else (runBatch run b words sh, { t with hasRun := true })
    | .line _, some _ => acc
    | .word w, none =>
      let size := w.length + 1
      let isFull := b.room < commandSize command + t.size + size
      if isFull && t.count = 0 then
        (abandon sh "cannot fit single argument within argument list size limit" 1, t)
      else if isFull && b.isStrict && (b.words?.isSome || b.lines?.isSome) then
        (abandon sh "argument list too long" 1, t)
      else
        let (sh, t) := if isFull then runs sh t else (sh, t)
        let t := { t with given := w :: t.given, count := t.count + 1, size := t.size + size }
        if b.words? = some t.count then runs sh t else (sh, t)
    | .line isCounted, none =>
      let t := { t with lines := if isCounted then t.lines + 1 else t.lines }
      match b.lines? with
      | some n => if n ≤ t.lines then runs sh t else (sh, t)
      | none => (sh, t)

/-- Takes in a piece of what there is to read. -/
def Batch.feed (run : Interpreter) (b : Batching) (command : List (List Char)) (sh : Shell)
    (t : Batch) (piece : List Char) : Shell × Batch :=
  let own := if b.replaced?.isSome then 0 else commandSize command
  piece.foldl (fun (sh, t) c =>
    if !sh.goesOn || t.isOver then (sh, t)
    else
      let (reader, found) := t.reader.step b (b.room - own - 1) c
      found.foldl (Batch.take run b command) (sh, { t with reader })) (sh, t)

/-- The program `xargs`. -/
def batches (run : Interpreter) : Builtin :=
    withOptions "xargs" 1 batchesTable batchesFault? fun os sh words =>
  let b := os.foldl (Batching.apply (mostRoom sh)) {}
  let warnings := b.warnings ++
    if b.mark?.isSome && b.ending?.isSome then
      ["warning: the -E option has no effect if -0 or -d is used.\n"]
    else []
  let command := if words.isEmpty then [bytes "echo"] else words
  let sh := warnings.foldl (fun (sh : Shell) w => complain sh "xargs" (bytes w) 0) sh
  let source := match b.source?.filter (· ≠ ['-']) with
    | none => Except.ok (sh, 0)
    | some name => (sh.openInput ownDescriptor name .reading).map fun sh => (sh, ownDescriptor)
  match source with
  | .error f =>
    complain sh "xargs" (quotedFault "Cannot open input file" (b.source?.getD []) f) 1
  | .ok (sh, descriptor) =>
    let sh := if b.room < commandSize command then
        abandon sh "cannot fit single argument within argument list size limit" 1
      else sh.withStatus 0
    let (sh, t) :=
      Shell.drain (Batch.feed run b command) descriptor Shell.waits sh {}
    let (sh, t) := (t.reader.finish b).foldl (Batch.take run b command) (sh, t)
    let isLeft := b.replaced?.isNone && (t.count ≠ 0 || (!t.hasRun && !b.skipsNothing))
    if sh.goesOn && isLeft then (Batch.runs run b command sh t).1 else sh

end Utility

end Crond.Script
