import Crond.Machine.Script.Format
import Crond.Machine.Script.Utility.Basic

/-
  The program `tr`, which replaces, deletes or squeezes characters.
-/

namespace Crond.Script

open Text

namespace Utility

/-! ### Sets -/

/-- A part of the description of a set. -/
inductive SetPart where
  | char (c : Char)
  | range (low high : Char)
  | named (name : List Char)
  | equal (c : Char)
  /-- A character several times, or as often as it takes. -/
  | again (c : Char) (count : Option Nat)
  deriving DecidableEq, Repr

def allBytes : List Char := (List.range 256).map Char.ofNat

def SetPart.chars : SetPart → List Char
  | char c | equal c => [c]
  | range low high =>
    (List.range (high.toNat + 1 - low.toNat)).map fun n => Char.ofNat (low.toNat + n)
  | named name => allBytes.filter (Glob.inClass name)
  | again c n => List.replicate (n.getD 0) c

/-- The glyphs of a description, with its escapes replaced. -/
def setGlyphs : Nat → List Char → List Glyph
  | 0, _ => []
  | _, [] => []
  | n + 1, '\\' :: c :: cs =>
    if '0' ≤ c && c ≤ '7' then
      let (value, rest) := Format.octal 3 0 (c :: cs)
      if value < 256 then ⟨Char.ofNat value, true⟩ :: setGlyphs n rest
      else
        let (value, rest) := Format.octal 2 0 (c :: cs)
        ⟨Char.ofNat value, true⟩ :: setGlyphs n rest
    else
      let e := if c = 'e' then 'e' else (Format.escaped? c).getD c
      ⟨e, true⟩ :: setGlyphs n cs
  | n + 1, c :: cs => ⟨c, false⟩ :: setGlyphs n cs

/-- The glyphs up to a mark and a closing bracket, and what follows them. -/
def upToClosing (mark : Char) : List Glyph → Option (List Char × List Glyph)
  | ⟨c, false⟩ :: ⟨']', false⟩ :: rest =>
    if c = mark then some ([], rest)
    else (upToClosing mark (⟨']', false⟩ :: rest)).map fun (cs, r) => (c :: cs, r)
  | g :: rest => (upToClosing mark rest).map fun (cs, r) => (g.char :: cs, r)
  | [] => none

/-- A repetition at the front of glyphs behind an opening bracket, and what follows it. -/
def repetition? (gs : List Glyph) : Option (Except (List Char) SetPart × List Glyph) :=
  match gs with
  | g :: ⟨'*', false⟩ :: rest =>
    match rest.span fun g => g ≠ ⟨']', false⟩ with
    | (count, _ :: rest) =>
      let ds := count.map Glyph.char
      let base := if ds.head? = some '0' then 8 else 10
      if ds.isEmpty then some (.ok (.again g.char none), rest)
      else if ds.all fun d => (digitOf? base d).isSome then
        let n := digitsValue base ds
        some (.ok (.again g.char (if n = 0 then none else some n)), rest)
      else
        some (.error (bytes "invalid repeat count " ++ inEscapes ds ++ bytes " in [c*n] construct"),
          rest)
    | (_, []) => none
  | _ => none

/-- Whether a star, digits and a closing bracket are at the front. -/
def isStarred (gs : List Glyph) : Bool :=
  match gs with
  | ⟨'*', false⟩ :: rest =>
    ((rest.dropWhile fun g => g.char.isDigit).head?) = some ⟨']', false⟩
  | _ => false

/-- The parts of a description. The number bounds them. -/
def setParts : Nat → List Glyph → Except (List Char) (List SetPart)
  | 0, _ => .ok []
  | _, [] => .ok []
  | n + 1, g :: gs => do
    let plain : Except (List Char) (List SetPart) := do
      match gs with
      | ⟨'-', false⟩ :: h :: rest =>
        if h.char < g.char then
          .error (bytes "range-endpoints of '" ++ shown g.char ++ '-' :: shown h.char ++
            bytes "' are in reverse collating sequence order")
        else return .range g.char h.char :: (← setParts n rest)
      | rest => return .char g.char :: (← setParts n rest)
    let repeated : Except (List Char) (List SetPart) := do
      match repetition? gs with
      | some (.ok p, rest) => return p :: (← setParts n rest)
      | some (.error message, _) => .error message
      | none => plain
    match g, gs with
    | ⟨'[', false⟩, ⟨':', false⟩ :: rest =>
      match upToClosing ':' rest with
      | some (name, after) =>
        if name.isEmpty then .error (bytes "missing character class name '[::]'")
        else if String.ofList name ∈ Glob.classNames then
          return .named name :: (← setParts n after)
        else if isStarred rest then repeated
        else .error (bytes "invalid character class " ++ inEscapes name)
      | none => repeated
    | ⟨'[', false⟩, ⟨'=', false⟩ :: rest =>
      match upToClosing '=' rest with
      | some ([c], after) => return .equal c :: (← setParts n after)
      | some (name, _) =>
        if name.isEmpty then .error (bytes "missing equivalence class character '[==]'")
        else if isStarred rest then repeated
        else .error (name ++ bytes ": equivalence class operand must be a single character")
      | none => repeated
    | ⟨'[', false⟩, _ => repeated
    | _, _ => plain
where
  /-- A character in a message. -/
  shown (c : Char) : List Char := if isPrintable c then [c] else escapedByte c

def readSet (cs : List Char) : Except (List Char) (List SetPart) :=
  setParts (cs.length + 1) (setGlyphs (cs.length + 1) cs)

/-! ### Changes -/

/-- Whether a part is a class of letters of one case. -/
def SetPart.isCased (p : SetPart) : Bool :=
  p = .named (bytes "upper") || p = .named (bytes "lower")

def SetPart.isNamed : SetPart → Bool
  | .named _ => true
  | _ => false

/-- Fills the repetition that takes as much as is needed. -/
def filled (length : Nat) (ps : List SetPart) : List Char :=
  let rest := length - (ps.flatMap SetPart.chars).length
  ps.flatMap fun p =>
    match p with
    | .again c none => List.replicate rest c
    | p => p.chars

/-- What is wrong with two sets where one is to replace the other. -/
def replacementFault? (isNegated isCut : Bool) (first second : List SetPart) : Option String :=
  let length := (if isNegated then
      allBytes.filter fun c => !(first.flatMap SetPart.chars).contains c
    else first.flatMap SetPart.chars).length
  let made := filled length second
  let starts (ps : List SetPart) : List (Nat × SetPart) :=
    (ps.zipIdx.filter fun p => p.1.isCased).map fun (p, n) =>
      (((ps.take n).flatMap SetPart.chars).length, p)
  let isAligned := (starts second).all fun s => (starts first).any fun f => f.1 = s.1
  if second.any fun p => match p with | .equal _ => true | _ => false then
    some "[=c=] expressions may not appear in string2 when translating"
  else if second.any fun p => p.isNamed && !p.isCased then
    some ("when translating, the only character classes that may appear in\n" ++
      "string2 are 'upper' and 'lower'")
  else if !isNegated && !isAligned then
    some "misaligned [:upper:] and/or [:lower:] construct"
  else if made.length < length && !isCut && made.isEmpty then
    some "when not truncating set1, string2 must be non-empty"
  else if made.length < length && !isCut &&
      (second.getLast?.map SetPart.isNamed).getD false then
    some ("when translating with string1 longer than string2,\n" ++
      "the latter string must not end with a character class")
  else if isNegated && first.any SetPart.isNamed && 1 < made.eraseDups.length then
    some ("when translating with complemented character classes,\n" ++
      "string2 must map all characters in the domain to one")
  else none

/-- The pairs of characters and what replaces them; the last one counts. Classes of letters replace
  each other letter by letter. -/
def replacements (isNegated isCut : Bool) (first second : List SetPart) : List (Char × Char) :=
  let given := first.flatMap SetPart.chars
  let old := if isNegated then allBytes.filter fun c => !given.contains c else given
  let made := filled old.length second
  let new := if isCut then made
    else made ++ List.replicate (old.length - made.length) (made.getLastD '\x00')
  (old.zip new).reverse

/-- Runs of a character in a set, as one character. -/
def squeeze (inSet : Char → Bool) : List Char → List Char
  | [] => []
  | [c] => [c]
  | a :: b :: cs =>
    if a = b && inSet a then squeeze inSet (b :: cs) else a :: squeeze inSet (b :: cs)

def trTable : OptionTable where
  letters := "cCdst"
  names := [("complement", "c"), ("delete", "d"), ("squeeze-repeats", "s"), ("truncate-set1", "t")]
  isMixed := false

def tr : Builtin := withOptions "tr" 1 trTable faultless fun os sh sets =>
  let deletes := givenIn os "d"
  let squeezes := givenIn os "s"
  let isNegated := givenIn os "c" || givenIn os "C"
  let isCut := givenIn os "t"
  let least := if deletes = squeezes then 2 else 1
  let most := if deletes && !squeezes then 1 else 2
  let isReplacing := sets.length = 2 && !deletes
  if sets.isEmpty then missingOperand sh "tr" (bytes "operand")
  else if sets.length < least then
    missingOperand sh "tr" (bytes "operand after " ++ inEscapes (sets.getLastD []) ++
      bytes (if squeezes then
        "\nTwo strings must be given when both deleting and squeezing repeats."
        else "\nTwo strings must be given when translating."))
  else if most < sets.length then
    misused sh "tr" (bytes "extra operand " ++ inEscapes (sets[most]?.getD []) ++
      bytes (if sets.length = 2 then
        "\nOnly one string may be given when deleting without squeezing repeats." else "")) 1
  else
    let read := do
      let first ← readSet (sets.headD [])
      let second ← readSet (sets[1]?.getD [])
      let isOpen (p : SetPart) : Bool := match p with
        | .again _ none => true
        | _ => false
      if first.any isOpen then
        .error (bytes "the [c*] repeat construct may not appear in string1")
      if 1 < (second.filter isOpen).length then
        .error (bytes "only one [c*] repeat construct may appear in string2")
      if isReplacing then
        match replacementFault? isNegated isCut first second with
        | some why => .error (bytes why)
        | none => pure ()
      else if second.any isOpen then
        .error (bytes "the [c*] construct may appear in string2 only when translating")
      return (first, second)
    match read with
    | .error message => complain sh "tr" message 1
    | .ok (first, second) =>
      if !sh.isReadable 0 then
        complain sh "tr" (bytes "read error: Bad file descriptor") 1
      else
        let (cs, sh) := sh.readAll 0
        let given := first.flatMap SetPart.chars
        let others := second.flatMap SetPart.chars
        let inFirst (c : Char) : Bool := given.contains c != isNegated
        let out :=
          if deletes then
            let kept := cs.filter (!inFirst ·)
            if squeezes then squeeze others.contains kept else kept
          else if isReplacing then
            let pairs := replacements isNegated isCut first second
            let table := allBytes.map fun c => (pairs.lookup c).getD c
            let made := cs.map fun c => table[c.toNat]?.getD c
            if squeezes then squeeze (filled given.length second).contains made else made
          else squeeze inFirst cs
        (sh.print out).withStatus 0

end Utility

end Crond.Script
