import Crond.Machine.Script.Launch

/-
  The program `env`, which runs a command under a changed environment, or prints it.

  An argument can hold several others. It is taken apart much as a shell does it, and what it holds
  stands in its place.
-/

namespace Crond.Script

open Text Files

namespace Environment

/-! ### Arguments in one -/

/-- A text that is taken apart, as far as that has come. -/
structure Division where
  /-- The words so far, the latest first, each with its last character first. -/
  words : List (List Char) := []
  /-- Whether the next character begins a word. -/
  isBetween : Bool := true
  /-- The quotation mark that is open. -/
  mark : Option Char := none

namespace Division

/-- Begins a word where none is at work. -/
def begin (d : Division) : Division :=
  if d.isBetween then { d with words := [] :: d.words, isBetween := false } else d

def add (d : Division) (c : Char) : Division :=
  let d := d.begin
  match d.words with
  | w :: ws => { d with words := (c :: w) :: ws }
  | [] => { d with words := [[c]] }

def addAll (d : Division) (cs : List Char) : Division := cs.foldl add d

def result (d : Division) : List (List Char) := (d.words.map List.reverse).reverse

/-- A quotation mark, which opens or closes a quotation. -/
def quote (d : Division) (c : Char) : Division :=
  { d.begin with mark := if d.mark = some c then none else some c }

end Division

/-- The character that a letter behind a backslash stands for. -/
def escape? (c : Char) : Option Char :=
  [('"', '"'), ('#', '#'), ('$', '$'), ('\'', '\''), ('\\', '\\'), ('_', ' '), ('f', '\x0c'),
    ('n', '\n'), ('r', '\r'), ('t', '\t'), ('v', '\x0b')].lookup c

/-- The name in braces that a text begins with, and what stands behind it. -/
def bracedName? (cs : List Char) : Option (List Char × List Char) :=
  match cs with
  | '\x7b' :: rest =>
    match rest.span (· ≠ '\x7d') with
    | (name, _ :: behind) => if isName name then some (name, behind) else none
    | (_, []) => none
  | _ => none

/-- Takes a text apart. Variables have their values in an environment, and the number bounds the
  steps. -/
def divide (environment : List (List Char × List Char)) :
    Nat → Division → List Char → Except (List Char) Division
  | 0, d, _ => .ok d
  | _, d, [] =>
    if d.mark.isSome then .error (bytes "no terminating quote in -S string") else .ok d
  | n + 1, d, c :: cs =>
    let isIn (mark : Char) : Bool := d.mark = some mark
    if c = '\'' && !isIn '"' || c = '"' && !isIn '\'' then divide environment n (d.quote c) cs
    else if isSpace c && d.mark.isNone then divide environment n { d with isBetween := true } cs
    else if c = '#' && d.isBetween then .ok { d with mark := none }
    else if c = '$' && !isIn '\'' then
      match bracedName? cs with
      | some (name, behind) =>
        divide environment n (((environment.lookup name).map d.addAll).getD d) behind
      | none =>
        .error (bytes "only $\x7bVARNAME\x7d expansion is supported, error at: " ++ c :: cs)
    else if c ≠ '\\' then divide environment n (d.add c) cs
    else
      match cs with
      | e :: rest =>
        if isIn '\'' && e ≠ '\\' && e ≠ '\'' then divide environment n (d.add c) cs
        else if e = 'c' then
          if d.mark.isSome then
            .error (bytes "'\\c' must not appear in double-quoted -S string")
          else .ok d
        else if e = '_' && d.mark.isNone then
          divide environment n { d with isBetween := true } rest
        else
          match escape? e with
          | some e => divide environment n (d.add e) rest
          | none => .error (bytes "invalid sequence '\\" ++ [e] ++ bytes "' in -S")
      | [] =>
        if isIn '\'' then .error (bytes "no terminating quote in -S string")
        else .error (bytes "invalid backslash at end of string in -S")

/-- The words of a text. -/
def wordsOf (environment : List (List Char × List Char)) (cs : List Char) :
    Except (List Char) (List (List Char)) :=
  (divide environment (cs.length + 1) {} cs).map Division.result

/-! ### Options -/

def table : OptionTable where
  letters := "C:iS:u:v0"
  names := [("block-signal", "block-signal::"), ("chdir", "C"), ("debug", "v"),
    ("default-signal", "default-signal::"), ("ignore-environment", "i"),
    ("ignore-signal", "ignore-signal::"), ("list-signal-handling", ""), ("null", "0"),
    ("split-string", "S"), ("unset", "u")]
  isMixed := false

/-- The text to take apart in an argument, with the letters in front of it. Without a text it is the
  next argument. -/
def divided? (arg : List Char) : Option (List Char × Option (List Char)) :=
  let named := bytes "--split-string"
  if arg = named then some ([], none)
  else if (named ++ ['=']).isPrefixOf arg then some ([], some (arg.drop (named.length + 1)))
  else
    match arg with
    | '-' :: cs =>
      let (letters, rest) := cs.span fun c => c = 'i' || c = 'v' || c = '0'
      match rest with
      | ['S'] => some (letters, none)
      | 'S' :: text => some (letters, some text)
      | _ => none
    | _ => none

/-- Arguments as they are when those that hold others are taken apart. Behind them stands what is
  told of that if the flag says so. The number bounds the arguments. -/
def whole (environment : List (List Char × List Char)) :
    Nat → Bool → List (List Char) → Except (List Char) (List (List Char) × List (List Char))
  | 0, _, args => .ok (args, [])
  | _, _, [] => .ok ([], [])
  | n + 1, isTold, arg :: args =>
    let through (count : Nat) : Except (List Char) (List (List Char) × List (List Char)) := do
      let isTold := isTold || (arg.head? = some '-' && arg.contains 'v' && arg[1]? ≠ some '-')
      let (others, told) ← whole environment n isTold (args.drop count)
      return (arg :: args.take count ++ others, told)
    match divided? arg, args with
    | none, _ =>
      if arg = ['-', 'u'] || arg = ['-', 'C'] then through 1
      else if arg.head? = some '-' && arg ≠ ['-'] && arg ≠ ['-', '-'] then through 0
      else .ok (arg :: args, [])
    | some (_, none), [] => .ok (arg :: args, [])
    | some (letters, text?), _ => do
      let text := text?.getD (args.headD [])
      let rest := if text?.isSome then args else args.tail
      let ws ← wordsOf environment text
      let isTold := isTold || letters.contains 'v'
      let marks := bytes " into:    " :: List.replicate ws.length (bytes "     &    ")
      let lines := if isTold then
          (bytes "split -S:  " ++ Utility.inQuotes text) ::
            (marks.zip ws).map fun (m, w) => m ++ Utility.inQuotes w
        else []
      let (others, told) ← whole environment n isTold (ws ++ rest)
      return ((if letters.isEmpty then [] else ['-' :: letters]) ++ others, lines ++ told)

/-- Changes what becomes of signals. Without names that is all of them. -/
def handling (sh : Shell) (isIgnored : Bool) (names : Option (List Char)) :
    Except (List Char) Shell := do
  let signals ← match names with
    | none => pure ((List.range lastSignal).map (· + 1))
    | some names => (names.splitOn ',').mapM fun n =>
      (namedSignal? n).elim (.error (Utility.inEscapes n ++ bytes ": invalid signal")) .ok
  let others := (sh.ignored).filter fun n => !signals.contains n
  return { sh with traps := [], deaf := if isIgnored then signals ++ others else others }

/-- Puts a variable among those that a program sees: in the place of the one it replaces, or behind
  all others. -/
def lend (sh : Shell) (name value : List Char) : Shell :=
  let v : Variable := { name, value := some value, isExported := true }
  if sh.bindings.any fun u => u.name = name then sh.put v
  else { sh with bindings := sh.bindings ++ [v] }

/-- Assigns to the variables that words in front say, and goes on with the other words. -/
def assigning (tell : List Char → Shell → Shell) (k : List (List Char) → Shell → Shell) :
    List (List Char) → Shell → Shell
  | [], sh => k [] sh
  | w :: ws, sh =>
    match Builtin.assignmentOf w with
    | (_, none) => k (w :: ws) sh
    | (name, some value) =>
      assigning tell k ws (lend (tell (bytes "setenv:   " ++ w) sh) name value)

end Environment

open Environment in
/-- The program `env`. -/
def environmentProgram (run : Interpreter) (args : List (List Char)) (sh : Shell) : Shell :=
  let fail (message : List Char) (sh : Shell) : Shell :=
    (Utility.complain sh "env" message 125).exiting (.code 125)
  let misuse (message : List Char) (sh : Shell) : Shell :=
    (Utility.misused sh "env" message 125).exiting (.code 125)
  let length := args.foldl (fun n a => n + a.length + 1) 1
  match whole sh.environment (length * length) false args with
  | .error message => fail message sh
  | .ok (args, divisions) =>
    let sh := divisions.foldl (fun (sh : Shell) l => sh.write 2 (l ++ ['\n'])) sh
    Utility.withOptions "env" 125 table Utility.faultless (fun os sh words =>
      let isTold := givenIn os "v"
      let tell (line : List Char) (sh : Shell) : Shell :=
        if isTold then sh.write 2 (line ++ ['\n']) else sh
      let isBare := givenIn os "i" || words.head? = some ['-']
      let words := if words.head? = some ['-'] then words.tail else words
      let dropped := os.filterMap fun o => if o.key = "u" then o.value else none
      let isUnfit (name : List Char) : Bool := name.isEmpty || name.contains '='
      let signals := os.filter fun o => o.key = "ignore-signal" || o.key = "default-signal"
      let runWords (words : List (List Char)) (sh : Shell) : Shell :=
        match words, lastValue? os "C" with
        | [], some _ => misuse (bytes "must specify command with --chdir (-C)") sh
        | [], none =>
          let mark := if givenIn os "0" then '\x00' else '\n'
          (sh.print (Utility.closed mark (Utility.assignments sh))).exiting (.code 0)
        | _ :: _, _ =>
          if givenIn os "0" then misuse (bytes "cannot specify --null (-0) with command") sh
          else
            let message (name : Name) (f : PathFault) : List Char :=
              bytes "env: " ++ Utility.inEscapes name ++ bytes (": " ++ f.text ++
                if name.any isSpace && f = .missing then
                  "\nenv: use -[v]S to pass options in shebang lines"
                else "")
            let begin (sh : Shell) : Shell :=
              let told := (tell (bytes "executing: " ++ words.headD []) sh)
              let told := words.zipIdx.foldl (fun sh (w, n) =>
                tell (bytes "   arg[" ++ numeral n ++ bytes "]= " ++ Utility.inEscapes w) sh) told
              runInstead run message words told
            let handled := signals.foldlM (fun sh o =>
              handling sh (o.key = "ignore-signal") o.value) sh
            match handled, lastValue? os "C" with
            | .error message, _ => misuse message sh
            | .ok sh, none => begin sh
            | .ok sh, some path =>
              let sh := tell (bytes "chdir:    " ++ Utility.inQuotes path) sh
              let fault (f : PathFault) : Shell :=
                fail (Utility.quotedFault "cannot change directory to" path f) sh
              match sh.files.resolve sh.directory path with
              | .error f => fault f
              | .ok p =>
                match sh.files.node? p with
                | some .directory => begin { sh with directory := p }
                | some _ => fault .notDirectory
                | none => fault .missing
      if isBare then
        assigning tell runWords words
          { tell (bytes "cleaning environ") sh with bindings := [] }
      else
        match dropped.find? isUnfit with
        | some name =>
          fail (bytes "cannot unset " ++ Utility.inEscapes name ++ bytes ": Invalid argument") sh
        | none =>
          assigning tell runWords words (dropped.foldl (fun sh name =>
            (tell (bytes "unset:    " ++ name) sh).unset name) sh)) sh args

end Crond.Script
