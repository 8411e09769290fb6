/-
  JSON documents, read as far as they can be.

  A document is read from left to right and the first flaw counts, so what is wrong with its form
  and what is wrong with its contents have to be met in one order. A `Node` is a value of the
  document that keeps the flaws of its form where they are: whoever walks the tree in order meets
  every flaw at its place. A value that nobody asked for is skipped; skipping looks less closely
  than using, so a flaw can have one kind for a value in use and another, or none, for a skipped
  one.
-/

namespace Crond.Json

/-- What can be wrong with a document. -/
inductive Flaw where
  /-- The text is not JSON. -/
  | malformed
  /-- The text ends early. -/
  | truncated
  /-- The text is JSON, but not what is asked for. -/
  | unsuitable
  deriving DecidableEq, Repr

/-- How the elements of an array or the members of an object end. -/
inductive Tail where
  | closed
  /-- Reading stopped here. -/
  | broken (used skipped : Flaw) (afterComma : Bool)
  deriving DecidableEq, Repr

/-- A string between its quotes, `none` for one that stands for no text. -/
abbrev Quoted := Option String

inductive Node where
  /-- No value could be read. -/
  | unreadable (used skipped : Flaw)
  | null
  | bool (b : Bool)
  /-- A number, which may be too large to be used. -/
  | number (isUsable : Bool)
  | string (s : Quoted)
  | array (elements : List Node) (tail : Tail)
  | object (members : List (Quoted × Node)) (tail : Tail)
  deriving Repr

def Tail.skip : Tail → Except Flaw Unit
  | closed => .ok ()
  | broken _ skipped _ => .error skipped

mutual

/-- Skips a value: its form counts, its contents do not. -/
def Node.skip : Node → Except Flaw Unit
  | .unreadable _ skipped => .error skipped
  | .null | .bool _ | .number _ | .string _ => .ok ()
  | .array elements tail =>
    match skipElements elements with
    | .error f => .error f
    | .ok _ => tail.skip
  | .object members tail =>
    match skipMembers members with
    | .error f => .error f
    | .ok _ => tail.skip

def skipElements : List Node → Except Flaw Unit
  | [] => .ok ()
  | n :: ns =>
    match n.skip with
    | .error f => .error f
    | .ok _ => skipElements ns

def skipMembers : List (Quoted × Node) → Except Flaw Unit
  | [] => .ok ()
  | (_, n) :: ms =>
    match n.skip with
    | .error f => .error f
    | .ok _ => skipMembers ms

end

namespace Node

/-- The flaw met where a value of some other kind is asked for. -/
def mismatch : Node → Flaw
  | unreadable used _ => used
  | number isUsable => if isUsable then .unsuitable else .malformed
  | string none => .malformed
  | null | bool _ | string (some _) | array _ _ | object _ _ => .unsuitable

def asBool : Node → Except Flaw Bool
  | bool b => .ok b
  | n => .error n.mismatch

def asText : Node → Except Flaw String
  | string (some s) => .ok s
  | n => .error n.mismatch

/-- A value for which `null` may stand as none. -/
def asOptional {α : Type} (read : Node → Except Flaw α) : Node → Except Flaw (Option α)
  | null => .ok none
  | n =>
    match read n with
    | .ok a => .ok (some a)
    | .error f => .error f

end Node

end Crond.Json
