/-
  White space: the characters that trimming removes, and trimming itself.

  `isBlank` is the Unicode property White_Space (25 characters in ten ranges). `trim` removes the
  longest blank stretch at either end and leaves the middle alone.
-/

namespace Crond.Text

/-- The ranges of the Unicode property White_Space, in ascending order. -/
def blankRanges : List (Nat × Nat) :=
  [(0x09, 0x0D), (0x20, 0x20), (0x85, 0x85), (0xA0, 0xA0), (0x1680, 0x1680), (0x2000, 0x200A),
   (0x2028, 0x2029), (0x202F, 0x202F), (0x205F, 0x205F), (0x3000, 0x3000)]

def isBlank (c : Char) : Bool :=
  blankRanges.any fun r => r.1 ≤ c.toNat && c.toNat ≤ r.2

def trimStart (cs : List Char) : List Char := cs.dropWhile isBlank

def trimEnd (cs : List Char) : List Char := (cs.reverse.dropWhile isBlank).reverse

def trim (cs : List Char) : List Char := trimEnd (trimStart cs)

/-- A text of white space only, the empty text included. -/
def allBlank (cs : List Char) : Bool := cs.all isBlank

theorem trimEnd_nil : trimEnd [] = [] := rfl

theorem trimEnd_append_solid (cs : List Char) {c : Char} (h : isBlank c = false) :
    trimEnd (cs ++ [c]) = cs ++ [c] := by
  simp [trimEnd, h]

end Crond.Text
