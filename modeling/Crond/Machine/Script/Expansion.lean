import Crond.Machine.Files.System
import Crond.Machine.Script.Arithmetic
import Crond.Machine.Script.Glob
import Crond.Machine.Script.Process

/-
  From words to fields.

  First everything in a word is replaced by what it stands for. Then what came of unquoted parts is
  split at separators, and fields with wildcards become the paths that fit, if there are any.
-/

namespace Crond.Script

open Text

/-- Runs commands that begin in a line to the end of the shell they run in. -/
abbrev Runner := Nat → List Char → Shell → Shell

/-- What a word is made of when everything in it has been replaced. -/
inductive Atom where
  /-- A character that stays in its field. -/
  | glyph (g : Glyph)
  /-- The beginning of something quoted, which makes a field even if it is empty. -/
  | quote
  /-- What came of something unquoted. It is split at separators. -/
  | value (chars : List Char)
  /-- All parameters, of which each is to be a field; `gap` stands between them. -/
  | all (chars : List Char)
  deriving DecidableEq, Repr

/-- Stands between parameters that are put in one place. No value holds it. -/
def gap : Char := '\x00'

namespace Shell

/-! ### Values -/

/-- The value of a parameter that has at most one. -/
def value? (sh : Shell) (name : List Char) : Option (List Char) :=
  match name with
  | ['$'] => some (numeral sh.process)
  | ['?'] => some (numeral sh.status)
  | ['#'] => some (numeral sh.parameters.length)
  | ['!'] => sh.lastJob.map numeral
  | ['-'] => some (Switch.letters sh.switches)
  | _ =>
    match readNumeral 99999 name with
    | .value 0 => some sh.name
    | .value (n + 1) => sh.parameters[n]?
    | .tooLarge => none
    | .malformed => sh.get? name

/-- What is put between the parameters where all of them are meant: something to split at, if that
  comes next and the parameters are not to be one field. -/
def junction (sh : Shell) (isSplit isQuoted : Bool) (name : List Char) : List Char :=
  if isSplit && isQuoted && name = ['@'] then [gap]
  else if isSplit && !isQuoted then
    if (sh.get? (bytes "IFS")).isSome then [gap] else [' ']
  else sh.separators.take 1

/-- The value of a parameter. All parameters together always have one. -/
def valueOf? (sh : Shell) (isSplit isQuoted : Bool) (name : List Char) : Option (List Char) :=
  if name = ['@'] || name = ['*'] then
    some ((sh.junction isSplit isQuoted name).intercalate sh.parameters)
  else sh.value? name

/-- Notes how a command in a process of its own ended. -/
def reap (sh : Shell) (e : Exit) : Shell :=
  let sh := sh.withStatus e.status
  match e with
  | .code _ => sh
  | .signal n =>
    match endNotice? n with
    | some notice => sh.write 2 (bytes notice ++ ['\n'])
    | none => sh

/-- What commands print, without the line ends behind it. -/
def substitute (run : Runner) (sh : Shell) (line : Nat) (commands : List Char) :
    List Char × Shell :=
  let output := sh.channels.length
  let parent := { sh.makePlace with channels := sh.channels ++ [Channel.gathered []] }
  let child := run line commands ((parent.fork.lead 1 output).spend timeToBegin)
  let joined := (parent.rejoin child).await (.closing output) false
  let text := joined.gathered output
  let ended := ((joined.dropChannels output).reap child.exit).withStatus sh.status
  let kept := (text.filter (· ≠ '\x00')).reverse.dropWhile (· = '\n')
  (kept.reverse, { ended with substituted := some child.exit.status })

/-- Assigns to a variable, unless it is fixed. -/
def assign (sh : Shell) (name value : List Char) : Shell :=
  match sh.find? name with
  | some { isFixed := true, .. } => sh.fail (name ++ bytes ": is read only")
  | _ =>
    let sh := if name = bytes "PATH" then { sh with tracked := [] } else sh
    if name ≠ bytes "OPTIND" then sh.set name value
    else
      match Arithmetic.integer? (Arithmetic.digits 10) value with
      | some (.ofNat n) =>
        { sh.set name value with optionIndex := max 1 n, optionOffset := none }
      | _ => sh.fail (bytes "Illegal number: " ++ value)

/-- Notes what a variable is, so that it is put back at the end of the scope at work. -/
def hide (sh : Shell) (name : List Char) : Shell :=
  { sh with hidden := .variable name (sh.find? name) :: sh.hidden }

/-- Puts back what has been hidden. What a variable is in itself does not matter any more, but its
  name may turn out to be none. -/
def uncover (sh : Shell) : Hidden → Shell
  | .switches on => { sh with switches := on }
  | .variable name none =>
    if isName name then sh.unset name else sh.fail (name ++ bytes ": bad variable name")
  | .variable name (some v) =>
    let sh := if name = bytes "PATH" then { sh with tracked := [] } else sh
    let index := (v.value.bind (Arithmetic.integer? (Arithmetic.digits 10))).map Int.toNat
    let sh := if name = bytes "OPTIND" then
        { sh with optionIndex := max 1 (index.getD 0), optionOffset := none }
      else sh
    (sh.unset name).put v

def arithmeticMessage (expression : List Char) : Arithmetic.Fault → List Char
  | .expected what =>
    bytes ("arithmetic expression: expecting " ++ what ++ ": \"") ++ expression ++ ['"']
  | .divisionByZero | .overflow =>
    bytes "arithmetic expression: division by zero: \"" ++ expression ++ ['"']
  | .illegalNumber text => bytes "Illegal number: " ++ text
  | .fixedName name => name ++ bytes ": is read only"

/-- The value of an expression. -/
def calculate (sh : Shell) (expression : List Char) : List Char × Shell :=
  let isFixed (name : List Char) : Bool := (sh.find? name).any Variable.isFixed
  match Arithmetic.run ⟨sh.value?, isFixed⟩ expression with
  | .error .overflow => ([], sh.exiting (.signal 8))
  | .ok (n, assigned) =>
    (signedNumeral n, assigned.foldl (fun sh a => sh.assign a.1 (signedNumeral a.2)) sh)
  | .error f => ([], sh.fail (arithmeticMessage expression f))

/-- The part of a value that is left when what fits a pattern is taken off one end. A pattern sees
  nothing behind a gap, and a search from the front goes only as far as the first one. -/
def trimmed (ps : List Glob.Part) (atFront isLongest : Bool) (value : List Char) : List Char :=
  let visible (cs : List Char) : List Char := cs.takeWhile (· ≠ gap)
  let piece (n : Nat) : List Char := visible (if atFront then value.take n else value.drop n)
  let places :=
    if atFront = isLongest then (List.range (value.length + 1)).reverse
    else List.range ((visible value).length + 1)
  match places.find? fun n => Glob.fits ps (piece n) with
  | none => value
  | some n => if atFront then value.drop n else value.take n

end Shell

/-! ### Atoms -/

/-- The characters of an atom that are not split. -/
def Atom.glyphs : Atom → List Glyph
  | .glyph g => [g]
  | .quote => []
  | .value cs => cs.map fun c => ⟨c, false⟩
  | .all cs => cs.map fun c => ⟨c, true⟩

/-- The text of atoms that are not split. -/
def Atom.text (as : List Atom) : List Char := (as.flatMap Atom.glyphs).map Glyph.char

/-- Text that stays in its field. -/
def fixedAtoms (isQuoted : Bool) (cs : List Char) : List Atom :=
  cs.map fun c => .glyph ⟨c, isQuoted⟩

/-- What a value becomes in a word. -/
def valueAtoms (isQuoted : Bool) (value : List Char) : List Atom :=
  if isQuoted then fixedAtoms true value else [.value value]

/-- What a value becomes that stands in the place of a parameter. -/
def Shell.parameterAtoms (sh : Shell) (isQuoted : Bool) (name value : List Char) : List Atom :=
  if isQuoted && name = ['@'] && !sh.parameters.isEmpty then [.all value]
  else valueAtoms isQuoted value

/-- Complains about a parameter without a value where that is refused. -/
def Shell.missing (sh : Shell) (name : List Char) : Shell :=
  if sh.has .refusesUnset then sh.fail (name ++ bytes ": parameter not set") else sh

/-! ### Homes -/

/-- The home that a name behind a tilde means. -/
def Shell.home? (sh : Shell) (user : List Char) : Option (List Char) :=
  if user.isEmpty then sh.get? (bytes "HOME")
  else (Files.users.find? fun u => bytes u.name = user).map fun u => bytes u.home

/-- Where in a word a tilde means a home: at the front, or also behind colons, as in values. -/
inductive Homes where
  | nowhere
  | atFront
  | inValue (isFront : Bool)
  deriving DecidableEq, Repr

/-- Where homes are when the front has gone by. -/
def Homes.behind : Homes → Homes
  | .inValue _ => .inValue false
  | _ => .nowhere

/-- Where homes are in an operand. -/
def Homes.inside : Homes → Homes
  | .inValue _ => .inValue true
  | _ => .atFront

/-- How a word is expanded. -/
structure Manner where
  homes : Homes := .atFront
  /-- Whether the word is split into fields. -/
  isSplit : Bool := false
  /-- Whether its text is split too, as it is in what stands for a parameter. -/
  splitsText : Bool := false
  deriving DecidableEq, Repr

namespace Manner

/-- How what follows the front is expanded. -/
def behind (m : Manner) : Manner := { m with homes := m.homes.behind }

/-- How an operand is expanded that stands for its parameter. -/
def inside (m : Manner) (isQuoted : Bool) : Manner :=
  { m with homes := m.homes.inside, splitsText := m.isSplit && !isQuoted }

/-- Text as it stands. -/
def textAtoms (m : Manner) (cs : List Char) : List Atom :=
  if m.splitsText && !cs.isEmpty then [.value cs] else fixedAtoms false cs

end Manner

/-- The atoms of text that may begin with a tilde; the flag tells whether something follows that
  belongs to it too. -/
def Shell.homeAtoms (sh : Shell) (m : Manner) (isFollowed : Bool) (cs : List Char) : List Atom :=
  match cs with
  | '~' :: rest =>
    let (user, path) := rest.span (· ≠ '/')
    match sh.home? user with
    | some h =>
      if path.isEmpty && isFollowed then m.textAtoms cs else fixedAtoms true h ++ m.textAtoms path
    | none => m.textAtoms cs
  | cs => m.textAtoms cs

/-- The atoms of unquoted text. -/
def Shell.plainAtoms (sh : Shell) (m : Manner) (isFollowed : Bool) (cs : List Char) : List Atom :=
  match m.homes with
  | .nowhere => m.textAtoms cs
  | .atFront => sh.homeAtoms m isFollowed cs
  | .inValue isFront =>
    let segments := cs.splitOn ':'
    let last := segments.length - 1
    let atoms := segments.zipIdx.map fun (segment, n) =>
      if n = 0 && !isFront then m.textAtoms segment
      else sh.homeAtoms m (n = last && isFollowed) segment
    (m.textAtoms [':']).intercalate atoms

mutual

/-- The atoms of a piece. An operand is expanded only if it is needed. -/
def Piece.atoms (run : Runner) (m : Manner) (sh : Shell) : Piece → List Atom × Shell
  | .text true cs => (.quote :: fixedAtoms true cs, sh)
  | .text false cs => (m.textAtoms cs, sh)
  | .substitution q line commands =>
    let (text, sh) := sh.substitute run line commands
    (valueAtoms q text, sh)
  | .arithmetic q expression =>
    let (as, sh) := wordAtoms run { homes := .nowhere } sh expression
    let (text, sh) := if sh.goesOn then sh.calculate (Atom.text as) else ([], sh)
    (valueAtoms q text, sh)
  | .parameter q name use operand =>
    let isSplit := match use with
      | .length | .replace _ => false
      | _ => m.isSplit
    let value? := sh.valueOf? isSplit q name
    let known (countsEmpty : Bool) : Option (List Char) :=
      value?.filter fun v => !(countsEmpty && v.isEmpty)
    match use with
    | .value =>
      match value? with
      | some v => (sh.parameterAtoms q name v, sh)
      | none => ([], sh.missing name)
    | .length =>
      match value? with
      | some v => (sh.parameterAtoms q name (numeral v.length), sh)
      | none => (fixedAtoms q ['0'], sh.missing name)
    | .fallback countsEmpty =>
      match known countsEmpty with
      | some v => (sh.parameterAtoms q name v, sh)
      | none => wordAtoms run (m.inside q) sh operand
    | .replace countsEmpty =>
      match known countsEmpty with
      | some _ => wordAtoms run (m.inside q) sh operand
      | none => (sh.parameterAtoms q name [], sh)
    | .assign countsEmpty =>
      match known countsEmpty with
      | some v => (sh.parameterAtoms q name v, sh)
      | none =>
        let (as, sh) := wordAtoms run {} sh operand
        if !sh.goesOn then ([], sh)
        else if isName name then (valueAtoms q (Atom.text as), sh.assign name (Atom.text as))
        else ([], sh.fail (name ++ bytes ": bad variable name"))
    | .demand countsEmpty =>
      match known countsEmpty with
      | some v => (sh.parameterAtoms q name v, sh)
      | none =>
        let (as, sh) := wordAtoms run {} sh operand
        let standard := if countsEmpty then "parameter not set or null" else "parameter not set"
        let message := if operand.isEmpty then bytes standard else Atom.text as
        ([], if sh.goesOn then sh.fail (name ++ [':', ' '] ++ message) else sh)
    | .trim atFront isLongest =>
      match value? with
      | none => ([], sh.missing name)
      | some v =>
        let (as, sh) := wordAtoms run {} sh operand
        let ps := Glob.ofGlyphs (as.flatMap Atom.glyphs)
        (sh.parameterAtoms q name (Shell.trimmed ps atFront isLongest v), sh)
    | .malformed => ([], sh.fail (bytes "Bad substitution"))

/-- The atoms of a word. An error ends the expansion. -/
def wordAtoms (run : Runner) (m : Manner) (sh : Shell) : List Piece → List Atom × Shell
  | [] => ([], sh)
  | .text false cs :: w =>
    let (as, sh') := wordAtoms run m.behind sh w
    (sh.plainAtoms m (!w.isEmpty) cs ++ as, sh')
  | p :: w =>
    let (as, sh) := p.atoms run m sh
    if sh.goesOn then
      let (bs, sh) := wordAtoms run m.behind sh w
      (as ++ bs, sh)
    else (as, sh)

end

/-! ### Fields -/

/-- The fields that have ended, reversed, and the one that has begun, reversed too. -/
structure Splitting where
  fields : List (List Glyph) := []
  current : Option (List Glyph) := none
  /-- Whether the last field ended at a blank, to which another separator can still belong. -/
  endedBlank : Bool := false
  /-- Whether the last value that was split was that of all parameters. -/
  wasAll : Bool := false
  /-- How many fields can still end at a separator, if there is a limit. -/
  room : Option Nat := none
  /-- In the last field for which there was room: what is left of it if nothing comes any more but
    what can end a field. -/
  kept : Option (List Glyph) := none

namespace Splitting

/-- Goes on in a field. -/
def add (s : Splitting) (g : Glyph) : Splitting :=
  { s with current := some (g :: s.current.getD []), endedBlank := false }

/-- Ends a field at a separator. One that is no blank ends a field even where none has begun. -/
def separate (s : Splitting) (c : Char) (isBlank : Bool) : Splitting :=
  let field := s.current.getD []
  if s.endedBlank then { s with endedBlank := isBlank }
  else if isBlank && s.current.isNone then s
  else if s.room = some 1 then
    { s.add ⟨c, false⟩ with endedBlank := isBlank, room := some 0, kept := some field }
  else
    { s with
      fields := field.reverse :: s.fields, current := none, endedBlank := isBlank,
      room := s.room.map (· - 1) }

/-- Goes on in the last field for which there is room: it takes separators too. -/
def addLast (s : Splitting) (c : Char) (isSeparator isBlank : Bool) : Splitting :=
  let kept :=
    if isBlank then some (s.kept.getD (s.current.getD []))
    else if isSeparator && s.endedBlank then s.kept
    else none
  { s.add ⟨c, false⟩ with kept, endedBlank := isBlank && s.endedBlank }

/-- Splits a value. Right behind all parameters no separator counts as a blank. -/
def split (separators : List Char) (s : Splitting) (cs : List Char) : Splitting :=
  let isSeparator (c : Char) : Bool := c = gap || separators.contains c
  let isBlank (c : Char) : Bool :=
    isSeparator c && !s.wasAll && (c = ' ' || c = '\t' || c = '\n' || c = gap)
  cs.foldl (fun s c =>
    if s.room = some 0 then s.addLast c (isSeparator c) (isBlank c)
    else if isSeparator c then s.separate c (isBlank c)
    else s.add ⟨c, false⟩)
    { s with endedBlank := false, wasAll := false }

/-- Splits all parameters. -/
def splitAll (s : Splitting) (cs : List Char) : Splitting :=
  cs.foldl (fun s c => if c = gap then s.separate c false else s.add ⟨c, true⟩)
    { s with endedBlank := false, wasAll := true }

def step (separators : List Char) (s : Splitting) : Atom → Splitting
  | .glyph g => s.add g
  | .quote => { s with current := some (s.current.getD []), endedBlank := false }
  | .value cs => s.split separators cs
  | .all cs => s.splitAll cs

/-- The fields when there is nothing more to come. The last parameter is one even if empty. -/
def finish (s : Splitting) : List (List Glyph) :=
  let last := (s.kept.getD (s.current.getD [])).reverse
  (if s.current.isSome || s.wasAll then last :: s.fields else s.fields).reverse

end Splitting

/-- The fields of a word in which everything has been replaced, at most so many if that is said. -/
def fieldsOf (separators : List Char) (room : Option Nat) (as : List Atom) : List (List Glyph) :=
  (as.foldl (Splitting.step separators) { room }).finish

/-- The paths that a field stands for, or the field as it is. -/
def Shell.pathsOf (sh : Shell) (gs : List Glyph) : List (List Char) :=
  let literally := [gs.map Glyph.char]
  if sh.has .expandsNoPaths || !Glob.hasWildcard gs then literally
  else
    match Glob.paths sh.files sh.directory gs with
    | [] => literally
    | ps => ps

/-- The fields of a word. -/
def Shell.expand (run : Runner) (sh : Shell) (w : Word) : List (List Char) × Shell :=
  let (as, sh) := wordAtoms run { isSplit := true } sh w
  ((fieldsOf sh.separators none as).flatMap sh.pathsOf, sh)

/-- The fields of words, one after the other. -/
def Shell.expandAll (run : Runner) (sh : Shell) : List Word → List (List Char) × Shell
  | [] => ([], sh)
  | w :: ws =>
    let (fs, sh) := sh.expand run w
    if sh.goesOn then
      let (gs, sh) := sh.expandAll run ws
      (fs ++ gs, sh)
    else (fs, sh)

/-- The text of a word where it is not split. -/
def Shell.expandWhole (run : Runner) (sh : Shell) (w : Word) : List Char × Shell :=
  let (as, sh) := wordAtoms run {} sh w
  (Atom.text as, sh)

/-- The text of the value of an assignment. -/
def Shell.expandValue (run : Runner) (sh : Shell) (w : Word) : List Char × Shell :=
  let (as, sh) := wordAtoms run { homes := .inValue true } sh w
  (Atom.text as, sh)

/-- The pattern that a word is. -/
def Shell.expandPattern (run : Runner) (sh : Shell) (w : Word) : List Glob.Part × Shell :=
  let (as, sh) := wordAtoms run {} sh w
  (Glob.ofGlyphs (as.flatMap Atom.glyphs), sh)

end Crond.Script
