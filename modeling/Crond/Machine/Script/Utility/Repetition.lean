import Crond.Machine.Script.Utility.Basic

/-
  The program `uniq`, which leaves out lines that are the same as the one before them, or counts
  them.
-/

namespace Crond.Script

open Text

namespace Utility

/-- What is left out of lines before they are compared. -/
structure Comparison where
  fields : Nat := 0
  skipped : Nat := 0
  width : Option Nat := none
  foldsCase : Bool := false
  deriving DecidableEq, Repr

/-- Leaves out fields, which begin with blanks. -/
def withoutFields : Nat → List Char → List Char
  | 0, cs => cs
  | n + 1, cs =>
    let isBlank (c : Char) : Bool := c = ' ' || c = '\t'
    withoutFields n ((cs.dropWhile isBlank).dropWhile (!isBlank ·))

/-- The part of a line that counts. -/
def Comparison.part (c : Comparison) (l : List Char) : List Char :=
  let rest := (withoutFields c.fields l).drop c.skipped
  let cut := match c.width with
    | some n => rest.take n
    | none => rest
  if c.foldsCase then cut.map Char.toLower else cut

/-- Lines that stand one after the other and are the same, in groups. -/
def Comparison.groups (c : Comparison) (ls : List (List Char)) : List (List (List Char)) :=
  ls.splitBy fun a b => c.part a = c.part b

def uniqTable : OptionTable where
  letters := "cdDf:is:uw:z0123456789"
  names := [("count", "c"), ("repeated", "d"), ("all-repeated", "all-repeated::"),
    ("group", "group::"), ("ignore-case", "i"), ("unique", "u"), ("skip-fields", "f"),
    ("skip-chars", "s"), ("check-chars", "w"), ("zero-terminated", "z")]

def repeatWords : List (List String) := [["none"], ["prepend"], ["separate"]]

def groupWords : List (List String) := [["prepend"], ["append"], ["separate"], ["both"]]

/-- The number that a text stands for, which blanks and a sign can stand before. -/
def skipOf? (v : List Char) : Option Nat :=
  let bare := v.dropWhile isSpace
  let digits := if bare.head? = some '+' then bare.tail else bare
  if !digits.isEmpty && digits.all Char.isDigit then some (natural digits) else none

def uniqFault? (sh : Shell) (o : GivenOption) : Option (List Char) :=
  let number (what : String) (v : List Char) : Option (List Char) :=
    if (skipOf? v).isSome then none else some (v ++ bytes (": invalid number of " ++ what))
  match o.key, o.value with
  | "f", some v => number "fields to skip" v
  | "s", some v => number "bytes to skip" v
  | "w", some v => number "bytes to compare" v
  | "all-repeated", some v => badChoice? sh "uniq" "all-repeated" v repeatWords
  | "group", some v => badChoice? sh "uniq" "group" v groupWords
  | _, _ => none

/-- Groups with empty lines around them or between them. -/
def spaced (before between behind : Bool) (groups : List (List (List Char))) :
    List (List Char) :=
  if groups.isEmpty then []
  else
    (if before then [[]] else []) ++ (if between then [[]] else []).intercalate groups ++
      (if behind then [[]] else [])

/-- The lines that are printed of groups. -/
def uniqLines (os : List GivenOption) (groups : List (List (List Char))) : List (List Char) :=
  let repeats := if givenIn os "D" then some "none"
    else if givenIn os "all-repeated" then
      some (((lastValue? os "all-repeated").bind (choice? repeatWords)).getD "none")
    else none
  let numbered (g : List (List Char)) : List Char :=
    if givenIn os "c" then aligned 7 g.length ++ ' ' :: g.headD [] else g.headD []
  if givenIn os "group" then
    match ((lastValue? os "group").bind (choice? groupWords)).getD "separate" with
    | "prepend" => spaced true true false groups
    | "append" => spaced false true true groups
    | "both" => spaced true true true groups
    | _ => spaced false true false groups
  else
    match repeats with
    | some method =>
      let repeated := groups.filter fun g => 1 < g.length
      if givenIn os "u" then []
      else spaced (method = "prepend") (method ≠ "none") false repeated
    | none =>
      (groups.filter fun g =>
        (!givenIn os "d" || 1 < g.length) && (!givenIn os "u" || g.length = 1)).map numbered

/-- The number of fields that digits given as options stand for. -/
def fieldsOf (os : List GivenOption) : Nat :=
  let digits := os.flatMap fun o => if o.key.toList.all Char.isDigit then o.key.toList else []
  match lastValue? os "f" with
  | some v => (skipOf? v).getD 0
  | none => natural digits

def uniq : Builtin := withOptions "uniq" 1 uniqTable uniqFault? fun os sh names =>
  let c : Comparison :=
    { fields := fieldsOf os
      skipped := ((lastValue? os "s").bind skipOf?).getD 0
      width := (lastValue? os "w").bind skipOf?
      foldsCase := givenIn os "i" }
  let mark := if givenIn os "z" then '\x00' else '\n'
  let (c, names) := match names with
    | ('+' :: ds) :: rest =>
      if !ds.isEmpty && ds.all Char.isDigit then ({ c with skipped := natural ds }, rest)
      else (c, names)
    | names => (c, names)
  match names with
  | _ :: _ :: extra :: _ => extraOperand sh "uniq" extra 1
  | names =>
    if givenIn os "c" && (givenIn os "D" || givenIn os "all-repeated") then
      misused sh "uniq"
        (bytes "printing all duplicated lines and repeat counts is meaningless") 1
    else if givenIn os "group" && ["c", "d", "D", "u", "all-repeated"].any (givenIn os) then
      misused sh "uniq" (bytes "--group is mutually exclusive with -c/-d/-D/-u") 1
    else
      let name := names.headD ['-']
      let (r, sh) := textOf sh name
      match r with
      | .error f =>
        if f = .isDirectory || f = .badDescriptor then
          complain sh "uniq" (quotedFault "error reading" name f) 1
        else complain sh "uniq" (plainFault name f) 1
      | .ok cs =>
        let out := closed mark (uniqLines os (c.groups (segments mark cs)))
        match names[1]? with
        | none | some ['-'] => (sh.print out).withStatus 0
        | some goal =>
          match store sh goal .writing out with
          | .ok sh => sh.withStatus 0
          | .error f => complain sh "uniq" (plainFault goal f) 1

end Utility

end Crond.Script
