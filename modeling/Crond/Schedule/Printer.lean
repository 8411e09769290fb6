import Crond.Schedule.Basic
import Crond.Text.Numeral

/-
  The canonical text of a schedule, as an expression would write it: values as numerals, the terms
  of a union with commas between them, and the fields with single spaces between them.
-/

namespace Crond

open Text

namespace Pattern

mutual

def render : Pattern → List Char
  | any => ['*']
  | value c => signedNumeral c
  | span first last => signedNumeral first ++ '-' :: signedNumeral last
  | every base step => base.render ++ '/' :: signedNumeral step
  | union members => [','].intercalate (renderAll members)

def renderAll : List Pattern → List (List Char)
  | [] => []
  | p :: ps => p.render :: renderAll ps

end

theorem renderAll_eq_map (ps : List Pattern) : renderAll ps = ps.map render := by
  induction ps with
  | nil => rfl
  | cons p ps ih => simp [renderAll, ih]

end Pattern

/-- The text of a schedule. -/
def Schedule.render (s : Schedule) : List Char :=
  [' '].intercalate (Field.all.map fun f => (s.pattern f).render)

end Crond
