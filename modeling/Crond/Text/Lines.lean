/-
  Lines of a text. A line ends at a line feed, and a carriage return directly before that line
  feed belongs to the ending; the last line may go without an ending.

  `pieces` cuts a text after every line feed, so that the pieces joined are the text again;
  `lines` is the pieces without their endings.
-/

namespace Crond.Text

/-- Puts a character in front of the first piece. -/
def extend (c : Char) : List (List Char) → List (List Char)
  | [] => [[c]]
  | p :: ps => (c :: p) :: ps

/-- The text cut after every line feed. Only the last piece can lack its line feed. -/
def pieces (cs : List Char) : List (List Char) :=
  cs.foldr (fun c ps => if c = '\n' then ['\n'] :: ps else extend c ps) []

/-- A piece without its ending. A carriage return that no line feed follows stays. -/
def withoutEnding : List Char → List Char
  | [] => []
  | ['\n'] => []
  | ['\r', '\n'] => []
  | c :: cs => c :: withoutEnding cs

def lines (cs : List Char) : List (List Char) := (pieces cs).map withoutEnding

theorem pieces_newline (cs : List Char) : pieces ('\n' :: cs) = ['\n'] :: pieces cs := rfl

theorem pieces_cons {c : Char} (h : c ≠ '\n') (cs : List Char) :
    pieces (c :: cs) = extend c (pieces cs) := by
  simp [pieces, h]

theorem flatten_extend (c : Char) (ps : List (List Char)) :
    (extend c ps).flatten = c :: ps.flatten := by
  cases ps <;> simp [extend]

theorem flatten_pieces (cs : List Char) : (pieces cs).flatten = cs := by
  induction cs with
  | nil => rfl
  | cons c cs ih =>
    by_cases h : c = '\n'
    · subst h; simp [pieces_newline, ih]
    · rw [pieces_cons h, flatten_extend, ih]

end Crond.Text
