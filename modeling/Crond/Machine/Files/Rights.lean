import Crond.Machine.Floating

/-
  The rights of files, and changes of them.

  Rights are twelve bits: what the owner, the group and others may do, and three bits in front of
  those. A change is a number in octal digits, or clauses such as `go-w` that name those whose
  rights they change. A clause that names nobody changes the rights of all, as far as a mask leaves
  them.
-/

namespace Crond.Files

namespace Rights

/-- All bits. -/
def all : Nat := 4095

/-- The bits that are not in a set. -/
def without (bits set : Nat) : Nat := bits - (bits &&& set)

/-- The bit with which a file runs as its owner, and that with which it runs as its group. -/
def changingUser : Nat := 3072

def ofUser : Nat := 448
def ofGroup : Nat := 56
def ofOthers : Nat := 7
def reading : Nat := 292
def writing : Nat := 146
def executing : Nat := 73

/-- Where the bits of a change come from. -/
inductive Origin where
  | plain
  /-- They are what somebody has already. -/
  | copied
  /-- Somebody may execute the file already, or it is a directory. -/
  | searching
  deriving DecidableEq, Repr

inductive Operation where
  | set
  | add
  | remove
  deriving DecidableEq, Repr

/-- A change of some bits. -/
structure Change where
  operation : Operation
  origin : Origin := .plain
  /-- The bits of those whose rights change, or zero if nobody is named. -/
  affected : Nat
  bits : Nat
  /-- The bits that are spoken of. A directory keeps two others. -/
  mentioned : Nat
  deriving DecidableEq, Repr

/-- The rights after a change, under a mask. -/
def Change.apply (isDirectory : Bool) (mask rights : Nat) (c : Change) : Nat :=
  let kept := if isDirectory then without changingUser c.mentioned else 0
  let spread (bits kind : Nat) : Nat := if bits &&& kind ≠ 0 then kind else 0
  let bits := match c.origin with
    | .plain => c.bits
    | .copied =>
      let had := c.bits &&& rights
      had ||| spread had reading ||| spread had writing ||| spread had executing
    | .searching =>
      if rights &&& executing ≠ 0 || isDirectory then c.bits ||| executing else c.bits
  let scope := if c.affected ≠ 0 then c.affected else without all mask
  let bits := without (bits &&& scope) kept
  match c.operation with
  | .set =>
    let preserved := (if c.affected ≠ 0 then without all c.affected else 0) ||| kept
    (rights &&& preserved) ||| bits
  | .add => rights ||| bits
  | .remove => without rights bits

/-- The rights after changes in order. -/
def changed (isDirectory : Bool) (mask : Nat) (cs : List Change) (rights : Nat) : Nat :=
  cs.foldl (Change.apply isDirectory mask) (rights &&& all)

/-- The change that gives all the rights of another file. -/
def exactly (rights : Nat) : List Change := [⟨.set, .plain, all, rights &&& all, all⟩]

/-! ### Reading changes -/

def isOctal (c : Char) : Bool := '0' ≤ c && c ≤ '7'

def operation? (c : Char) : Option Operation :=
  [('=', .set), ('+', .add), ('-', .remove)].lookup c

/-- The bits that a letter for somebody stands for. -/
def holder? (c : Char) : Option Nat :=
  [('u', 2048 + ofUser), ('g', 1024 + ofGroup), ('o', 512 + ofOthers), ('a', all)].lookup c

/-- The bits that a letter for a right stands for. One of them depends on the file. -/
def right? (c : Char) : Option Nat :=
  [('r', reading), ('w', writing), ('x', executing), ('X', 0), ('s', changingUser),
    ('t', 512)].lookup c

/-- The bits of those who have already what is given. -/
def giver? (c : Char) : Option Nat :=
  [('u', ofUser), ('g', ofGroup), ('o', ofOthers)].lookup c

/-- Reads the changes of a clause, all for the same holders. The number bounds the text. -/
def changesOf? (affected : Nat) : Nat → List Char → Option (List Change)
  | 0, _ => none
  | n + 1, cs =>
    match cs with
    | [] => none
    | c :: rest =>
      match operation? c with
      | none => none
      | some operation =>
        let further (change : Change) (rest : List Char) : Option (List Change) :=
          if rest.isEmpty then some [change]
          else (changesOf? affected n rest).map (change :: ·)
        let noted (bits : Nat) : Nat :=
          if affected ≠ 0 then affected &&& bits else bits
        let (digits, behind) := rest.span isOctal
        if !digits.isEmpty then
          let bits := Text.digitsValue 8 digits
          if affected ≠ 0 || !behind.isEmpty || all < bits then none
          else some [⟨operation, .plain, all, bits, all⟩]
        else
          match rest.head?.bind giver? with
          | some bits => further ⟨operation, .copied, affected, bits, noted bits⟩ rest.tail
          | none =>
            let (letters, behind) := rest.span fun c => (right? c).isSome
            let bits := (letters.filterMap right?).foldl (· ||| ·) 0
            let origin := if 'X' ∈ letters then Origin.searching else .plain
            further ⟨operation, origin, affected, bits, noted bits⟩ behind

/-- Reads a clause. -/
def clauseOf? (cs : List Char) : Option (List Change) :=
  let (letters, rest) := cs.span fun c => (holder? c).isSome
  changesOf? ((letters.filterMap holder?).foldl (· ||| ·) 0) (rest.length + 1) rest

/-- Reads what a file's rights are to become. -/
def ofText? (cs : List Char) : Option (List Change) :=
  if cs.head?.any isOctal then
    let bits := Text.digitsValue 8 cs
    if !cs.all isOctal || all < bits then none
    else
      let mentioned := if cs.length < 5 then (bits &&& changingUser) ||| 1023 else all
      some [⟨.set, .plain, all, bits, mentioned⟩]
  else ((cs.splitOn ',').mapM clauseOf?).map List.flatten

/-! ### Showing rights -/

/-- The letters for what one class may do, where a further bit is shown in place of the last. -/
def letters (bits : Nat) (isSpecial : Bool) (special : Char) : List Char :=
  [if bits / 4 % 2 = 1 then 'r' else '-', if bits / 2 % 2 = 1 then 'w' else '-',
    if bits % 2 = 1 then (if isSpecial then special else 'x')
    else if isSpecial then special.toUpper else '-']

/-- Rights as nine letters. -/
def text (rights : Nat) : List Char :=
  letters (rights / 64) (rights / 2048 % 2 = 1) 's' ++
    letters (rights / 8) (rights / 1024 % 2 = 1) 's' ++
    letters rights (rights / 512 % 2 = 1) 't'

/-- Rights as octal digits, at least four. -/
def digits (rights : Nat) : List Char :=
  let ds := Nat.toDigits 8 rights
  List.replicate (4 - ds.length) '0' ++ ds

end Rights

end Crond.Files
