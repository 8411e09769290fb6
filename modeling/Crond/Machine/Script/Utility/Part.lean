import Crond.Machine.Script.Utility.Basic

/-
  The programs `head` and `tail`, which print the beginning or the end of texts.

  From a pipe they take whole blocks; in a file they leave what is behind the part that they have
  printed.
-/

namespace Crond.Script

open Text Files

namespace Utility

/-- How much of a text is printed. -/
structure Portion where
  count : Nat := 10
  /-- Whether bytes are counted, and not lines. -/
  isBytes : Bool := false
  /-- Whether the count is one of what is left out. -/
  isRest : Bool := false
  /-- What a line ends with. -/
  mark : Char := '\n'
  deriving DecidableEq, Repr

/-- The pieces that are counted. Lines keep their ends. -/
def Portion.pieces (p : Portion) (cs : List Char) : List (List Char) :=
  if p.isBytes then cs.map ([·])
  else
    let ls := segments p.mark cs
    if isClosed p.mark cs then ls.map (· ++ [p.mark])
    else ls.dropLast.map (· ++ [p.mark]) ++ ls.getLast?.toList

def Portion.front (p : Portion) (cs : List Char) : List Char :=
  let ps := p.pieces cs
  (ps.take (if p.isRest then ps.length - p.count else p.count)).flatten

def Portion.back (p : Portion) (cs : List Char) : List Char :=
  let ps := p.pieces cs
  (ps.drop (if p.isRest then p.count - 1 else ps.length - p.count)).flatten

/-- Whether no more need be read to know the front. -/
def Portion.isKnown (p : Portion) (cs : List Char) : Bool :=
  !p.isRest && (if p.isBytes then p.count ≤ cs.length else p.count ≤ cs.count p.mark)

/-- Whether nothing is printed of any text. -/
def Portion.isNothing (p : Portion) : Bool := p.count = 0 && !p.isRest

/-- Takes off what has been used. A pipe is read by blocks. -/
def takeUsed (sh : Shell) (descriptor used block : Nat) : Shell :=
  match sh.channel? descriptor with
  | some (_, .file _ _ _) => sh.consume descriptor used
  | _ => sh.consume descriptor (block * ((used + block - 1) / block))

/-- The front of what a name stands for. -/
def frontOf (sh : Shell) (p : Portion) (name : Name) : Except PathFault (List Char) × Shell :=
  let d := if name = ['-'] then some 0 else deviceDescriptor? name
  match d with
  | some d =>
    if p.isRest || !sh.isReadable d then
      let (r, sh) := textOf sh name
      (r.map p.front, sh)
    else if p.isNothing then (.ok [], sh)
    else
      let sh := Shell.fetch p.isKnown d Shell.waits sh
      let shown := p.front (sh.unread d)
      (.ok shown, takeUsed sh d shown.length 8192)
  | none =>
    let (r, sh) := textOf sh name
    (match r with
      | .error .isDirectory => if p.isNothing then .ok [] else .error .isDirectory
      | r => r.map p.front, sh)

/-- What stands above the part of a text where there are several. -/
def title (isFirst : Bool) (name : Name) : List Char :=
  let shown := if name = ['-'] then bytes "standard input" else name
  (if isFirst then [] else ['\n']) ++ bytes "==> " ++ shown ++ bytes " <==\n"

/-- Prints parts of texts, with titles if that is said. What is told of an input that is closed
  depends on the program. -/
def printParts (program closedFault : String) (isTitled : Bool)
    (partOf : Shell → Name → Except PathFault (List Char) × Shell) (names : List Name)
    (sh : Shell) : Shell :=
  let names := if names.isEmpty then [['-']] else names
  let step (acc : Shell × Bool) (name : Name) : Shell × Bool :=
    let (sh, isFirst) := acc
    let (r, sh) := partOf sh name
    let source := if name = ['-'] then bytes "standard input" else name
    let top := if isTitled then title isFirst name else []
    match r with
    | .ok cs => (sh.print (top ++ cs), false)
    | .error .isDirectory =>
      (complain (sh.print top) program (quotedFault "error reading" name .isDirectory) 1, false)
    | .error .badDescriptor =>
      (complain (sh.print top) program (quotedFault closedFault source .badDescriptor) 1, false)
    | .error f =>
      (complain sh program (bytes "cannot open " ++ inQuotes source ++
        bytes (" for reading: " ++ f.text)) 1, isFirst)
  let after := (names.foldl step (sh.withStatus 0, true)).1
  if names.contains ['-'] && !sh.isReadable 0 then
    complain after program (bareFault ['-'] .badDescriptor) 1
  else after

/-- Whether titles are printed: as the last option says that speaks of it, or if there are several
  texts. -/
def asksForTitles (os : List GivenOption) (names : List Name) : Bool :=
  match (os.filter fun o => o.key = "q" || o.key = "v").getLast? with
  | some o => o.key = "v"
  | none => 1 < names.length

def partNames : List (String × String) :=
  [("bytes", "c"), ("lines", "n"), ("quiet", "q"), ("silent", "q"), ("verbose", "v"),
   ("zero-terminated", "z")]

/-- What is wrong with a count, given the number in it. -/
def badCount? (key : String) (value number : List Char) : Option (List Char) :=
  let message (behind : String) : List Char :=
    bytes (if key = "c" then "invalid number of bytes: " else "invalid number of lines: ") ++
      inEscapes value ++ bytes behind
  match sizeOf? number with
  | none => some (message "")
  | some n =>
    if n < 18446744073709551616 then none
    else some (message ": Value too large for defined data type")

/-! ### Fronts -/

def headTable : OptionTable where
  letters := "c:n:qvz0123456789"
  names := partNames

/-- The options that letters behind a number at the front mean, or the letter that means none. -/
def trailing (digits : List Char) (sofar : List GivenOption) :
    List Char → Except Char (List GivenOption)
  | [] => .ok sofar
  | c :: cs =>
    let counted (key : String) (suffix : List Char) : List GivenOption :=
      [⟨key, some (digits ++ suffix)⟩]
    match c with
    | 'c' => trailing digits (sofar ++ counted "c" []) cs
    | 'b' => trailing digits (sofar ++ counted "c" ['b']) cs
    | 'k' => trailing digits (sofar ++ counted "c" ['k']) cs
    | 'm' => trailing digits (sofar ++ counted "c" ['m']) cs
    | 'l' => trailing digits (sofar ++ counted "n" []) cs
    | 'q' | 'v' | 'z' => trailing digits (sofar ++ [⟨String.ofList [c], none⟩]) cs
    | c => .error c

/-- The portion that options of `head` ask for. -/
def frontPortion (os : List GivenOption) : Portion :=
  os.foldl (fun p o =>
    match o.key, o.value with
    | "z", _ => { p with mark := '\x00' }
    | "q", _ | "v", _ => p
    | key, some ('-' :: v) =>
      { p with isBytes := key = "c", isRest := true, count := (sizeOf? v).getD 0 }
    | key, some v => { p with isBytes := key = "c", isRest := false, count := (sizeOf? v).getD 0 }
    | _, none => p) {}

def head : Builtin := fun sh args =>
  let fault? (sh : Shell) (o : GivenOption) : Option (List Char) :=
    match o.value with
    | some v =>
      let bare := if v.head? = some '-' then v.tail else v
      badCount? o.key bare bare
    | none =>
      if o.key.toList.all Char.isDigit then
        some (bytes ("invalid trailing option -- " ++ o.key) ++ hint sh "head")
      else none
  let go (front : List GivenOption) : Builtin :=
    withOptions "head" 1 headTable fault? fun os sh names =>
      let os := front ++ os
      let p := frontPortion os
      printParts "head" (if p.isRest then "cannot fstat" else "error reading")
        (asksForTitles os names) (fun sh => frontOf sh p) names sh
  match args with
  | ('-' :: d :: cs) :: rest =>
    if !d.isDigit then go [] sh args
    else
      let (ds, letters) := (d :: cs).span Char.isDigit
      match trailing ds [⟨"n", some ds⟩] letters with
      | .ok front => go front sh rest
      | .error c =>
        complain sh "head" (bytes "invalid trailing option -- " ++ [c] ++ hint sh "head") 1
  | args => go [] sh args

/-! ### Ends -/

def tailTable : OptionTable where
  letters := "c:n:fFqs:vz0123456789"
  names := partNames ++ [("follow", "f::"), ("pid", ":"), ("retry", ""),
    ("sleep-interval", "s"), ("max-unchanged-stats", ":")]

/-- The portion that options of `tail` ask for. -/
def backPortion (os : List GivenOption) : Portion :=
  os.foldl (fun p o =>
    match o.key, o.value with
    | "z", _ => { p with mark := '\x00' }
    | "c", some v | "n", some v =>
      let bare := if v.head? = some '-' || v.head? = some '+' then v.tail else v
      { p with
        isBytes := o.key = "c"
        isRest := p.isRest || v.head? = some '+'
        count := (sizeOf? bare).getD 0 }
    | _, _ => p) {}

/-- The options that a first argument such as `-5` or `+3c` stands for, where it is the only one or
  one other follows. -/
def shortTail? (args : List (List Char)) : Option (List GivenOption × List (List Char)) :=
  let isAlone (rest : List (List Char)) : Bool :=
    match rest with
    | [] => true
    | [a] => a = ['-'] || a.head? ≠ some '-'
    | [['-', '-'], _] => true
    | _ => false
  match args with
  | (sign :: cs) :: rest =>
    let (ds, letters) := cs.span Char.isDigit
    let letters := if letters.getLast? = some 'f' then letters.dropLast else letters
    let isFit := (sign = '+' || sign = '-') && (sign = '+' || !ds.isEmpty) && isAlone rest
    let count := if sign = '+' then '+' :: (if ds.isEmpty then ['1', '0'] else ds) else ds
    let rest := match rest with
      | ['-', '-'] :: rest => rest
      | rest => rest
    if !isFit then none
    else
      match letters with
      | [] | ['l'] => some ([⟨"n", some count⟩], rest)
      | ['c'] => some ([⟨"c", some count⟩], rest)
      | ['b'] => some ([⟨"c", some (count ++ ['b'])⟩], rest)
      | _ => none
  | _ => none

def tail : Builtin := fun sh args =>
  let fault? (_ : Shell) (o : GivenOption) : Option (List Char) :=
    match o.key, o.value with
    | "c", some v | "n", some v =>
      let bare := if v.head? = some '-' || v.head? = some '+' then v.tail else v
      badCount? o.key (if v.head? = some '-' then bare else v) bare
    | key, none =>
      if key.toList.all Char.isDigit then
        some (bytes ("option used in invalid context -- " ++ key))
      else none
    | _, _ => none
  let go (os : List GivenOption) (names : List Name) (sh : Shell) : Shell :=
    let partOf (sh : Shell) (name : Name) : Except PathFault (List Char) × Shell :=
      let (r, sh) := textOf sh name
      (r.map (backPortion os).back, sh)
    if (backPortion os).isNothing then sh.withStatus 0
    else printParts "tail" "cannot fstat" (asksForTitles os names) partOf names sh
  match shortTail? args with
  | some (os, names) => go os names sh
  | none => withOptions "tail" 1 tailTable fault? (fun os sh names => go os names sh) sh args

end Utility

end Crond.Script
