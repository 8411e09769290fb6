import Crond.Machine.Files.Tree

/-
  Channels: where descriptors lead.
-/

namespace Crond.Script

/-- What a file was opened for. -/
inductive Access where
  | reading
  | writing
  | appending
  | updating
  deriving DecidableEq, Repr

/-- What is in a pipe: first the front, then the pieces behind it, the latest of which comes
  first. -/
structure Stock where
  front : List Char := []
  back : List (List Char) := []
  size : Nat := 0
  /-- The size from which on writers wait. -/
  room : Nat := 65536
  deriving DecidableEq, Repr

namespace Stock

def text (s : Stock) : List Char := s.front ++ s.back.reverse.flatten

def add (s : Stock) (cs : List Char) : Stock :=
  { s with back := cs :: s.back, size := s.size + cs.length }

def drop (s : Stock) (count : Nat) : Stock :=
  { s with front := s.text.drop count, back := [], size := s.size - count }

end Stock

/-- Where a descriptor leads. -/
inductive Channel where
  /-- What has been written to it is kept, the latest first. -/
  | gathered (writes : List (List Char))
  /-- What is left to read from it. -/
  | supply (text : List Char)
  /-- The end of a pipe that is read from. -/
  | source (stock : Stock)
  /-- The end of a pipe that is written to. The other end is the channel before it. -/
  | sink
  /-- The item of a file, and how far it has been read or written. -/
  | file (item : Nat) (position : Nat) (access : Access)
  | null
  /-- There is no room to write anything. -/
  | full
  deriving DecidableEq, Repr

end Crond.Script
