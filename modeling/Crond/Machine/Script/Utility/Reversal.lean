import Crond.Machine.Script.Utility.Basic

/-
  The programs `tac` and `rev`, which turn the order of lines around, and that of the characters in
  them.
-/

namespace Crond.Script

open Text

namespace Utility

def tacTable : OptionTable where
  letters := "brs:"
  names := [("before", "b"), ("regex", "r"), ("separator", "s")]

/-- The records of a text, each with the separator behind it. -/
def recordsOf (separator : List Char) : Nat → List Char → List Char → List (List Char)
  | 0, sofar, _ => [sofar.reverse]
  | _, sofar, [] => if sofar.isEmpty then [] else [sofar.reverse]
  | n + 1, sofar, c :: cs =>
    if separator.isPrefixOf (c :: cs) then
      (sofar.reverse ++ separator) ::
        recordsOf separator n [] ((c :: cs).drop separator.length)
    else recordsOf separator n (c :: sofar) cs

/-- The records of a text, each with the separator in front of it. -/
def recordsBefore (separator : List Char) (cs : List Char) : List (List Char) :=
  ((recordsOf separator.reverse (cs.length + 1) [] cs.reverse).map List.reverse).reverse

def tac : Builtin :=
  withOptions "tac" 1 tacTable faultless fun os sh names =>
    let given := (lastValue? os "s").getD ['\n']
    let separator := if given.isEmpty then ['\x00'] else given
    let turned (cs : List Char) : List Char :=
      if givenIn os "b" then (recordsBefore separator cs).reverse.flatten
      else (recordsOf separator (cs.length + 1) [] cs).reverse.flatten
    let (loaded, sh) := load sh names
    loaded.foldl (fun (sh : Shell) (name, r) =>
      match r with
      | .ok cs => sh.print (turned cs)
      | .error .isDirectory =>
        complain sh "tac" (shownName name ++ bytes ": read error: Invalid argument") 1
      | .error .badDescriptor =>
        let sh := complain sh "tac" (bytes "'standard input': read error: Bad file descriptor") 1
        complain sh "tac" (bytes "-: Bad file descriptor") 1
      | .error f =>
        complain sh "tac" (bytes "failed to open " ++ inQuotes name ++
          bytes (" for reading: " ++ f.text)) 1) (sh.withStatus 0)

def revTable : OptionTable where
  letters := ""
  names := []

def rev : Builtin := withOptions "rev" 1 revTable faultless fun _ sh names =>
  let (loaded, sh) := load sh names
  loaded.foldl (fun (sh : Shell) (name, r) =>
    match r with
    | .ok cs =>
      let ls := (linesOf cs).map List.reverse
      sh.print (if isClosed '\n' cs then unlines ls else ['\n'].intercalate ls)
    | .error f => complain sh "rev" (bytes "cannot open " ++ bareFault name f) 1) (sh.withStatus 0)

end Utility

end Crond.Script
