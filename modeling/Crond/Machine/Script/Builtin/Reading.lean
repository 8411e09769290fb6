import Crond.Machine.Script.Builtin.Basic

/-
  The command `read`, which takes a line apart.
-/

namespace Crond.Script

open Text

namespace Builtin

/-- Puts a character in front of what is to be split. -/
def prepend (c : Char) : List Atom → List Atom
  | .value cs :: as => .value (c :: cs) :: as
  | as => .value [c] :: as

/-- A line, apart from its protected characters to be split, and how much of the text it takes up.
  The last flag tells whether the line has ended. -/
def readLine (isRaw isProtected : Bool) : List Char → List Atom × Nat × Bool
  | [] => ([.value []], 0, false)
  | c :: cs =>
    let next (isProtected : Bool) (place : List Atom → List Atom) : List Atom × Nat × Bool :=
      let (as, n, hasEnded) := readLine isRaw isProtected cs
      (place as, n + 1, hasEnded)
    if c = '\x00' then next isProtected id
    else if isProtected then
      next false fun as => .value [] :: if c = '\n' then as else .glyph ⟨c, true⟩ :: as
    else if c = '\\' && !isRaw then next true id
    else if c = '\n' then ([.value []], 1, true)
    else next false (prepend c)

/-- Assigns fields to names. Names without a field get an empty one. -/
def assignFields (sh : Shell) (fields : List (List Char)) : List (List Char) → Shell
  | [] => sh
  | word :: words =>
    let (name, _) := assignmentOf word
    if !sh.goesOn then sh
    else if !isName name then sh.fail (name ++ bytes ": bad variable name")
    else assignFields (sh.assign name (fields.headD [])) fields.tail words

def read : Builtin := withOptions "r" "p" fun options sh args =>
  let isRaw := (options.lookup 'r').isSome
  if args.isEmpty then sh.fail (bytes "arg count")
  else
    let isEnough (text : List Char) : Bool := (readLine isRaw false text).2.2
    let sh := Shell.fetch isEnough 0 Shell.waits sh
    let (as, count, hasEnded) := readLine isRaw false (sh.unread 0)
    let fields := fieldsOf sh.separators (some args.length) as
    let sh := assignFields (sh.consume 0 count) (fields.map (·.map Glyph.char)) args
    if sh.goesOn then sh.withStatus (if hasEnded then 0 else 1) else sh

end Builtin

end Crond.Script
