import Crond.Machine.Script.Builtin.Basic

/-
  The rights of new files, and the command `umask`, which shows and changes them.
-/

namespace Crond.Script

open Text

namespace Builtin

/-- The number of a letter that stands for the owner of a file, its group, or others. -/
def holder? (c : Char) : Option Nat :=
  [('u', 0), ('g', 1), ('o', 2)].lookup c

/-- The rights that letters give; a single letter can give those that someone has. -/
def rightsOf? (rights : List Nat) (letters : List Char) : Option Nat :=
  match letters with
  | [c] =>
    match holder? c with
    | some n => rights[n]?
    | none => lettered [c]
  | cs => lettered cs
where
  lettered (cs : List Char) : Option Nat :=
    (cs.mapM fun c => [('r', 4), ('w', 2), ('x', 1), ('X', 1), ('s', 0)].lookup c).map fun ns =>
      ns.foldl (· ||| ·) 0

/-- The rights that are left after changes such as `+x-w` for some of those who have them. -/
def changedRights? (holders : List Nat) : Nat → List Nat → List Char → Option (List Nat)
  | 0, _, _ => none
  | _, rights, [] => some rights
  | fuel + 1, rights, change :: cs =>
    let isChange (c : Char) : Bool := c = '+' || c = '-' || c = '='
    let (letters, rest) := cs.span fun c => !isChange c
    if !isChange change then none
    else
      match rightsOf? rights letters with
      | none => none
      | some given =>
        let changed := rights.zipIdx.map fun (r, n) =>
          if n ∉ holders then r
          else if change = '+' then r ||| given
          else if change = '-' then r &&& (7 - given)
          else given
        changedRights? holders fuel changed rest

/-- The rights that are left after a clause such as `go-w`. -/
def rightsAfter? (rights : List Nat) (clause : List Char) : Option (List Nat) :=
  let (letters, changes) := clause.span fun c => (holder? c).isSome || c = 'a'
  let holders :=
    if letters.isEmpty || 'a' ∈ letters then [0, 1, 2] else letters.filterMap holder?
  changedRights? holders (changes.length + 1) rights changes

/-- The rights of the owner, the group and others that a mask leaves. -/
def rightsUnder (mask : Nat) : List Nat := [7 - mask / 64 % 8, 7 - mask / 8 % 8, 7 - mask % 8]

def maskOf (rights : List Nat) : Nat := rights.foldl (fun mask r => 8 * mask + (7 - r)) 0

def rightsText (rights : List Nat) : List Char :=
  let letters (r : Nat) : List Char :=
    (if r / 4 % 2 = 1 then ['r'] else []) ++ (if r / 2 % 2 = 1 then ['w'] else []) ++
      (if r % 2 = 1 then ['x'] else [])
  [','].intercalate (List.zipWith (fun h r => h :: '=' :: letters r) ['u', 'g', 'o'] rights)

def umask : Builtin := withOptions "S" "" fun options sh args =>
  match args with
  | [] =>
    let digits := Nat.toDigits 8 sh.mask
    let shown := if !options.isEmpty then rightsText (rightsUnder sh.mask)
      else List.replicate (4 - digits.length) '0' ++ digits
    (sh.printLine shown).withStatus 0
  | mode :: _ =>
    if (mode.head?.any Char.isDigit) then
      if mode.all fun c => '0' ≤ c && c ≤ '7' then
        { sh with mask := digitsValue 8 mode % 512, status := 0 }
      else sh.fail (bytes "Illegal number: " ++ mode)
    else
      match (mode.splitOn ',').foldlM rightsAfter? (rightsUnder sh.mask) with
      | some rights => { sh with mask := maskOf rights, status := 0 }
      | none => sh.fail (bytes "Illegal mode: " ++ mode)

end Builtin

end Crond.Script
