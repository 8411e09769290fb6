import Crond.Text.Bytes

/-
  A tree of files, as programs see it: directories, files and devices, found by their paths.

  Names lead to items, and several names can lead to one item; an item stays as it is when its name
  is taken away. A path is followed part by part from the working directory, or from the root if it
  begins with a slash; whatever a part is looked up in must be a directory.
-/

namespace Crond.Files

/-- The name of a file, in bytes. -/
abbrev Name := List Char

/-- Where something lies: the names on the way to it from the root. -/
abbrev Place := List Name

inductive Device where
  /-- It has nothing to read, and what is written to it is lost. -/
  | null
  /-- It has zeros to read without end, and what is written to it is lost. -/
  | zero
  /-- It has zeros to read, and there is no room to write anything. -/
  | full
  /-- It cannot be used where nobody sits in front of it. -/
  | terminal
  deriving DecidableEq, Repr

inductive Node where
  | directory
  | file (contents : List Char)
  /-- A program of the system, which goes by its own name. -/
  | program
  | device (d : Device)
  /-- It stands for a path, which begins where it lies. -/
  | link (target : Name)
  /-- A pipe with a name, and the channel that it led to when it was last opened. -/
  | pipe (channel : Option Nat)
  deriving DecidableEq, Repr

/-- Why a path leads nowhere. -/
inductive PathFault where
  | missing
  | notDirectory
  | isDirectory
  | denied
  | present
  | notEmpty
  | noDevice
  | noSpace
  | badDescriptor
  | brokenPipe
  | tooManyLinks
  | nameTooLong
  | notPermitted
  | invalid
  deriving DecidableEq, Repr

/-- Something that names lead to. -/
structure Item where
  node : Node
  /-- What the owner, the group and others may do: three bits for each, behind three more. -/
  rights : Nat
  /-- When it was changed last, in nanoseconds. -/
  modified : Int
  deriving DecidableEq, Repr

/-- The items, and the places at which they are. The root is the item with the number zero. -/
structure Tree where
  entries : List (Place × Nat)
  items : List (Nat × Item)
  /-- The number of the next item. -/
  fresh : Nat := 1
  /-- How often something has been changed. Time goes on with every change. -/
  changes : Nat := 0
  deriving DecidableEq, Repr

/-- As many bytes of those without end as anyone takes at a time. -/
def endless : List Char := List.replicate 65536 '\x00'

/-- What there is to read of a node. -/
def Node.contents : Node → Except PathFault (List Char)
  | .file cs => .ok cs
  | .directory => .error .isDirectory
  | .device .terminal => .error .noDevice
  | .device .zero | .device .full => .ok endless
  | .device .null | .program | .link _ | .pipe _ => .ok []

namespace Tree

/-- The time of the first change, in nanoseconds. -/
def firstMoment : Int := 1780000000000000000

def now (t : Tree) : Int := firstMoment + t.changes

/-! ### Items -/

def root : Item := ⟨.directory, 493, firstMoment⟩

def number? (t : Tree) (p : Place) : Option Nat := if p = [] then some 0 else t.entries.lookup p

def itemOf? (t : Tree) (n : Nat) : Option Item :=
  match t.items.lookup n with
  | some i => some i
  | none => if n = 0 then some root else none

def item? (t : Tree) (p : Place) : Option Item := (t.number? p).bind t.itemOf?

def node? (t : Tree) (p : Place) : Option Node := (t.item? p).map Item.node

/-- Changes an item as it is said, at the present moment. -/
def change (t : Tree) (n : Nat) (f : Item → Item) : Tree :=
  match t.itemOf? n with
  | none => t
  | some i =>
    { t with
      items := (n, f { i with modified := t.now }) :: t.items.filter fun j => j.1 ≠ n
      changes := t.changes + 1 }

/-- Changes something about an item without its being noted. -/
def adjust (t : Tree) (p : Place) (f : Item → Item) : Tree :=
  match t.number? p with
  | none => t
  | some n =>
    match t.itemOf? n with
    | none => t
    | some i => { t with items := (n, f i) :: t.items.filter fun j => j.1 ≠ n }

/-- Notes that what is at a place has been changed now. -/
def renew (t : Tree) (p : Place) : Tree :=
  match t.number? p with
  | some n => t.change n id
  | none => t

/-- Notes that something has been put into a directory, or taken out of it. -/
def noteAt (t : Tree) (p : Place) : Tree := t.renew p.dropLast

/-- Puts a new item at a place, instead of what is there. -/
def put (t : Tree) (p : Place) (node : Node) (rights : Nat) : Tree :=
  let added := { t with
    entries := (p, t.fresh) :: t.entries.filter fun e => e.1 ≠ p
    items := (t.fresh, ⟨node, rights, t.now⟩) :: t.items
    fresh := t.fresh + 1
    changes := t.changes + 1 }
  added.noteAt p

/-- Takes away what is at a place and below it. -/
def erase (t : Tree) (p : Place) : Tree :=
  { t with entries := t.entries.filter fun e => !p.isPrefixOf e.1 }.noteAt p

/-- Lets another place lead to what is at one. -/
def join (t : Tree) (p q : Place) : Tree :=
  match t.number? p with
  | some n => { t with entries := (q, n) :: t.entries.filter fun e => e.1 ≠ q }.noteAt q
  | none => t

/-- Moves what is at a place, and below it, to another place, instead of what is there. -/
def move (t : Tree) (p q : Place) : Tree :=
  let cleared := t.entries.filter fun e => !q.isPrefixOf e.1 || p.isPrefixOf e.1
  let moved := cleared.map fun e =>
    match p.isPrefixOf? e.1 with
    | some way => (q ++ way, e.2)
    | none => e
  ({ t with entries := moved }.noteAt p).noteAt q

/-- Whether something was changed after what is at another place. -/
def isLater (t : Tree) (p q : Place) : Bool :=
  match t.item? p, t.item? q with
  | some i, some j => j.modified < i.modified
  | _, _ => false

/-- What is at a place and below it, with the names on the way from there, in the order of their
  bytes. What is in a directory comes right behind it. -/
def below (t : Tree) (p : Place) : List (Place × Item) :=
  let found := t.entries.filterMap fun e =>
    (p.isPrefixOf? e.1).bind fun way => (t.itemOf? e.2).map (way, ·)
  let key (way : Place) : List Char := ['\x00'].intercalate way
  found.mergeSort fun a b => Text.inOrder (key a.1) (key b.1)

/-- The names in a directory, in the order of their bytes. -/
def names (t : Tree) (p : Place) : List Name :=
  let found := t.entries.filterMap fun e =>
    match p.isPrefixOf? e.1 with
    | some [n] => some n
    | _ => none
  found.mergeSort Text.inOrder

/-! ### Paths -/

/-- As many links as are followed for one path. -/
def linkBound : Nat := 40

/-- Follows the parts of a path. Nothing need be at the last one. If that is a link, it is followed
  only if that is said. The number bounds the links. -/
def walk (t : Tree) (followsLast : Bool) (links : Nat) (p : Place) :
    List Name → Except PathFault Place
  | [] => .ok p
  | part :: rest =>
    match t.node? p with
    | none => .error .missing
    | some .directory =>
      if part = [] || part = ['.'] then walk t followsLast links p rest
      else if part = ['.', '.'] then walk t followsLast links p.dropLast rest
      else if 255 < part.length then .error .nameTooLong
      else
        match t.node? (p ++ [part]) with
        | some (.link target) =>
          if rest.isEmpty && !followsLast then .ok (p ++ [part])
          else
            match links with
            | 0 => .error .tooManyLinks
            | n + 1 =>
              walk t followsLast n (if target.head? = some '/' then [] else p)
                (target.splitOn '/' ++ rest)
        | _ => walk t followsLast links (p ++ [part]) rest
    | some _ => .error .notDirectory
termination_by parts => (links, parts.length)

def resolveAs (t : Tree) (followsLast : Bool) (base : Place) (path : Name) :
    Except PathFault Place :=
  if path = [] then .error .missing
  else t.walk followsLast linkBound (if path.head? = some '/' then [] else base) (path.splitOn '/')

/-- The place that a path means. Nothing need be there, but the way to it must exist. -/
def resolve (t : Tree) (base : Place) (path : Name) : Except PathFault Place :=
  t.resolveAs true base path

/-- The place that a path means if it means a link itself and not what that stands for. -/
def resolveLink (t : Tree) (base : Place) (path : Name) : Except PathFault Place :=
  t.resolveAs false base path

/-- A path without the slashes at its end. -/
def trimmed (path : Name) : Name :=
  let front := (path.reverse.dropWhile (· = '/')).reverse
  if front = [] then path.take 1 else front

/-- The place of a new file. A path that ends in a slash can only mean a directory. -/
def placeOfNew (t : Tree) (base : Place) (path : Name) : Except PathFault Place := do
  let p ← t.resolve base (trimmed path)
  if path.getLast? = some '/' then .error .isDirectory else return p

/-- The item that a path leads to. -/
def findItem (t : Tree) (base : Place) (path : Name) : Except PathFault Item := do
  match t.item? (← t.resolve base path) with
  | some i => .ok i
  | none => .error .missing

/-- The node that a path leads to. -/
def find (t : Tree) (base : Place) (path : Name) : Except PathFault Node :=
  (t.findItem base path).map Item.node

/-! ### Contents -/

/-- What there is to read at a place. -/
def contents (t : Tree) (p : Place) : Except PathFault (List Char) :=
  match t.node? p with
  | some n => n.contents
  | none => .error .missing

/-- What there is to read of an item. -/
def textOf (t : Tree) (n : Nat) : List Char :=
  match t.itemOf? n with
  | some ⟨.file cs, _, _⟩ => cs
  | _ => []

/-- What there is to read where a path leads. -/
def read (t : Tree) (base : Place) (path : Name) : Except PathFault (List Char) := do
  t.contents (← t.resolve base path)

/-- Replaces the contents of an item if it is a file. -/
def refill (t : Tree) (n : Nat) (cs : List Char) : Tree :=
  match t.itemOf? n with
  | some ⟨.file _, _, _⟩ => t.change n fun i => { i with node := .file cs }
  | _ => t

/-- Replaces the contents of a file, or begins one with some rights. -/
def write (t : Tree) (p : Place) (cs : List Char) (rights : Nat) : Tree :=
  match t.number? p with
  | some n => t.refill n cs
  | none => t.put p (.file cs) rights

/-! ### Setting up -/

/-- The rights of files that nothing special is said about. -/
def plainRights : Nat := 420

/-- The rights of directories and programs that nothing special is said about. -/
def fullRights : Nat := 493

/-- Follows one part of a path, and makes a directory where there is nothing. -/
def enter (t : Tree) (p : Place) (part : Name) : Tree × Place :=
  if part = ['.', '.'] then (t, p.dropLast)
  else
    let q := p ++ [part]
    (if (t.node? q).isSome then t else t.put q .directory fullRights, q)

/-- Follows the parts of a path, and makes directories where there is nothing. -/
def enterAll (t : Tree) (p : Place) : List Name → Tree × Place
  | [] => (t, p)
  | part :: parts =>
    let (t, p) := t.enter p part
    t.enterAll p parts

/-- Puts a file at a place, and directories on the way to it where there are none. -/
def plant (t : Tree) (p : Place) (cs : List Char) : Tree :=
  (t.enterAll [] p.dropLast).1.put p (.file cs) plainRights

/-- A tree of nodes with their places and rights. -/
def ofList (nodes : List (Place × Node × Nat)) : Tree :=
  let numbered := nodes.zipIdx 1
  { entries := numbered.map fun ((p, _, _), n) => (p, n)
    items := numbered.map fun ((_, node, rights), n) => (n, ⟨node, rights, firstMoment⟩)
    fresh := nodes.length + 1 }

end Tree

end Crond.Files
