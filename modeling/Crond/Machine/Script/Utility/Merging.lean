import Crond.Machine.Script.Utility.Order

/-
  The program `comm`, which sorts the lines of two sorted texts into those that only one of them has
  and those that both have.
-/

namespace Crond.Script

open Text

namespace Utility

/-- Where a line is found. -/
inductive Side where
  | first
  | second
  | both
  deriving DecidableEq, Repr

/-- Puts two sorted lists of lines together. The number bounds the lines. -/
def mergedSides : Nat → List (List Char) → List (List Char) → List (Side × List Char)
  | 0, _, _ => []
  | _, [], ys => ys.map (Side.second, ·)
  | _, xs, [] => xs.map (Side.first, ·)
  | n + 1, x :: xs, y :: ys =>
    match compareText x y with
    | .lt => (.first, x) :: mergedSides n xs (y :: ys)
    | .gt => (.second, y) :: mergedSides n (x :: xs) ys
    | .eq => (.both, x) :: mergedSides n xs ys

/-- How many lines of a text there are as far as the first one that is out of order. -/
def sortedFront (ls : List (List Char)) : Nat :=
  ((ls.zip ls.tail).takeWhile fun (a, b) => compareText a b ≠ .gt).length + 1

/-- The lines as far as so many of either text have been used up. -/
def usedUp : Nat → Nat → List (Side × List Char) → List (Side × List Char)
  | 0, _, _ | _, 0, _ | _, _, [] => []
  | m + 1, n + 1, l :: ls =>
    match l.1 with
    | .first => l :: usedUp m (n + 1) ls
    | .second => l :: usedUp (m + 1) n ls
    | .both => l :: usedUp m n ls

def commTable : OptionTable where
  letters := "123z"
  names := [("check-order", ""), ("nocheck-order", ""), ("output-delimiter", ":"), ("total", ""),
    ("zero-terminated", "z")]

/-- The options whose first column, second column or third column is left out. -/
def Side.letter : Side → String
  | .first => "1"
  | .second => "2"
  | .both => "3"

/-- What stands in front of a line: a delimiter for each column before its own. -/
def Side.front (os : List GivenOption) (between : List Char) (s : Side) : List Char :=
  let columns : List Side := match s with
    | .first => []
    | .second => [.first]
    | .both => [.first, .second]
  (columns.filter fun c => !givenIn os c.letter).flatMap fun _ => between

def comm : Builtin := withOptions "comm" 1 commTable faultless fun os sh names =>
  match names with
  | [] => missingOperand sh "comm" (bytes "operand")
  | [a] => missingOperand sh "comm" (bytes "operand after " ++ inEscapes a)
  | [a, b] =>
    let mark := if givenIn os "z" then '\x00' else '\n'
    let between := match lastValue? os "output-delimiter" with
      | some [] => ['\x00']
      | some d => d
      | none => ['\t']
    match load sh [a, b] with
    | ([(_, .ok xs), (_, .ok ys)], sh) =>
      let xs := segments mark xs
      let ys := segments mark ys
      let whole := mergedSides (xs.length + ys.length) xs ys
      let limit (ls : List (List Char)) : Nat :=
        if sortedFront ls < ls.length then sortedFront ls else ls.length + 1
      let all := if givenIn os "check-order" then usedUp (limit xs) (limit ys) whole else whole
      let line (s : Side) (l : List Char) : List Char :=
        if givenIn os s.letter then [] else s.front os between ++ l ++ [mark]
      let isUnpaired := all.any fun l => l.1 ≠ .both
      let disorder : List String :=
        (if sortedFront xs < xs.length then ["1"] else []) ++
          (if sortedFront ys < ys.length then ["2"] else [])
      let told := if givenIn os "nocheck-order" then []
        else if givenIn os "check-order" then disorder.take 1
        else if isUnpaired then disorder else []
      let sh := (sh.print (all.flatMap fun l => line l.1 l.2)).withStatus 0
      let sh := told.foldl (fun (sh : Shell) n =>
        complain sh "comm" (bytes ("file " ++ n ++ " is not in sorted order")) 1) sh
      let count (s : Side) : List Char := numeral (all.filter fun l => l.1 = s).length
      let sh := if givenIn os "total" && !(givenIn os "check-order" && !told.isEmpty) then
          sh.print (between.intercalate [count .first, count .second, count .both, bytes "total"] ++
            [mark])
        else sh
      if told.isEmpty || givenIn os "check-order" then sh
      else complain sh "comm" (bytes "input is not in sorted order") 1
    | (loaded, sh) =>
      match loaded.find? fun l => l.2.toOption.isNone with
      | some (name, .error f) => complain sh "comm" (plainFault name f) 1
      | _ => sh
  | _ :: _ :: extra :: _ => extraOperand sh "comm" extra 1

end Utility

end Crond.Script
