import Crond.Json.Scalar

/-
  Reading a JSON text into a tree of nodes.

  Reading goes on until the text or the trust in it ends: a value with a flaw of form is the last
  one of the arrays and objects around it. Depth is not limited.
-/

namespace Crond.Json

/-- A node and the bytes behind it, if they can be read. -/
abbrev NodeStep := Node × Option Bytes

def scalarStep {α : Type} (node : α → Node) : Except (Flaw × Flaw) (α × Bytes) → NodeStep
  | .ok (a, rest) => (node a, some rest)
  | .error (used, skipped) => (.unreadable used skipped, none)

def wordStep (node : Node) (word : List Char) (bs : Bytes) : NodeStep :=
  match readWord word bs with
  | .ok rest => (node, some rest)
  | .error flaw => (.unreadable flaw flaw, none)

/-- A value that is neither array nor object. -/
def readScalar (b : UInt8) (bs : Bytes) : NodeStep :=
  if b = ascii '"' then scalarStep .string (readString bs)
  else if b = ascii '-' then scalarStep (fun d => .number d.isUsable) (readNumber bs)
  else if isDigit b then scalarStep (fun d => .number d.isUsable) (readNumber (b :: bs))
  else if b = ascii 'n' then wordStep .null ['u', 'l', 'l'] bs
  else if b = ascii 't' then wordStep (.bool true) ['r', 'u', 'e'] bs
  else if b = ascii 'f' then wordStep (.bool false) ['a', 'l', 's', 'e'] bs
  else (.unreadable .malformed .malformed, none)

/-- Nothing more than a flaw. -/
def stopped (flaw : Flaw) : Node := .unreadable flaw flaw

/-- How far the separators between the elements of an array or an object lead. -/
inductive Separator where
  | element (rest : Bytes)
  | closed (rest : Bytes)
  | broken (flaw : Flaw) (afterComma : Bool)

/-- Where the next element begins, `close` being the bracket that ends them all. -/
def nextElement (close : Char) (first : Bool) (bs : Bytes) : Separator :=
  match skipSpace bs with
  | [] => .broken .truncated false
  | b :: bs =>
    if b = ascii close then .closed bs
    else if first then .element (b :: bs)
    else if b = ascii ',' then
      match skipSpace bs with
      | [] => .broken .truncated true
      | b :: bs => if b = ascii close then .broken .malformed true else .element (b :: bs)
    else .broken .malformed false

mutual

/-- Reads a value. The fuel bounds the nesting and the number of elements. -/
def readNode : Nat → Bytes → NodeStep
  | 0, _ => (stopped .truncated, none)
  | fuel + 1, bs =>
    match skipSpace bs with
    | [] => (stopped .truncated, none)
    | b :: bs =>
      if b = ascii '[' then
        let (elements, tail, rest) := readElements fuel true bs
        (.array elements tail, rest)
      else if b = ascii '\x7b' then
        let (members, tail, rest) := readMembers fuel true bs
        (.object members tail, rest)
      else readScalar b bs

/-- Reads the elements of an array from the first one on, or behind the one before. -/
def readElements : Nat → Bool → Bytes → List Node × Tail × Option Bytes
  | 0, _, _ => ([], .broken .truncated .truncated false, none)
  | fuel + 1, first, bs =>
    match nextElement ']' first bs with
    | .closed rest => ([], .closed, some rest)
    | .broken flaw afterComma => ([], .broken flaw flaw afterComma, none)
    | .element bs =>
      match readNode fuel bs with
      | (node, none) => ([node], .closed, none)
      | (node, some bs) =>
        let (nodes, tail, rest) := readElements fuel false bs
        (node :: nodes, tail, rest)

/-- Reads the members of an object. A member that lacks its colon has no value. -/
def readMembers : Nat → Bool → Bytes → List (Quoted × Node) × Tail × Option Bytes
  | 0, _, _ => ([], .broken .truncated .truncated false, none)
  | fuel + 1, first, bs =>
    match nextElement '\x7d' first bs with
    | .closed rest => ([], .closed, some rest)
    | .broken flaw afterComma => ([], .broken flaw flaw afterComma, none)
    | .element [] => ([], .broken .truncated .truncated false, none)
    | .element (b :: bs) =>
      if b = ascii '"' then
        match readString bs with
        | .error (used, skipped) => ([], .broken used skipped true, none)
        | .ok (key, bs) =>
          match skipSpace bs with
          | [] => ([(key, stopped .truncated)], .closed, none)
          | c :: bs =>
            if c = ascii ':' then
              match readNode fuel bs with
              | (node, none) => ([(key, node)], .closed, none)
              | (node, some bs) =>
                let (members, tail, rest) := readMembers fuel false bs
                ((key, node) :: members, tail, rest)
            else ([(key, stopped .malformed)], .closed, none)
      else ([], .broken .malformed .malformed true, none)

end

/-- A whole text: its value, and whether nothing but space follows it. -/
structure Document where
  root : Node
  isComplete : Bool
  deriving Repr

/-- Each byte of a text is passed by at most two calls, so the fuel is never used up. -/
def Document.ofBytes (bs : Bytes) : Document :=
  match readNode (2 * bs.length + 2) bs with
  | (root, none) => ⟨root, false⟩
  | (root, some rest) => ⟨root, skipSpace rest = []⟩

end Crond.Json
