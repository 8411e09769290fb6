import Crond.Machine.Script.Builtin.Basic

/-
  The command `getopts`: the options among some words, one letter at a time.

  The shell keeps the number of the next word, and how far it has come in the one before.
-/

namespace Crond.Script

open Text

namespace Builtin

/-- What is known about a letter: whether it needs a value. -/
def lettersLookup (c : Char) : List Char → Option Bool
  | [] => none
  | d :: rest =>
    if c = d then some (rest.head? = some ':')
    else
      match rest with
      | ':' :: rest => lettersLookup c rest
      | rest => lettersLookup c rest

/-- What is left of the word at work, and how many words have gone by. At the end of a word the next
  one comes, if it has letters. -/
def lettersAt? (words : List (List Char)) (index : Nat) (offset : Option Nat) :
    Option (List Char) × Nat :=
  let current := match offset with
    | some n => if 2 ≤ index then ((words[index - 2]?).getD []).drop n else []
    | none => []
  if !current.isEmpty then (some current, index - 1)
  else
    match words[index - 1]? with
    | some ['-', '-'] => (none, index)
    | some ('-' :: c :: cs) => (some (c :: cs), index)
    | _ => (none, index - 1)

/-- Notes how far the words have been gone through, and what has been found. -/
def noteLetter (sh : Shell) (name : List Char) (letter : Char) (passed : Nat)
    (offset : Option Nat) : Shell :=
  let sh := sh.set (bytes "OPTIND") (numeral (passed + 1))
  let sh := if isName name then sh.assign name [letter]
    else sh.fail (name ++ bytes ": bad variable name")
  { sh with optionIndex := passed + 1, optionOffset := offset }

/-- The options of a command, one at a time. -/
def nextOption : Builtin := withOptions "" "" fun _ sh args =>
  match args with
  | letters :: name :: rest =>
    let words := if rest.isEmpty then sh.parameters else rest
    let isWithin := sh.optionIndex ≤ words.length + 1
    let index := if isWithin then sh.optionIndex else 1
    let offset := if isWithin then sh.optionOffset else none
    let isQuiet := letters.head? = some ':'
    let argument (sh : Shell) (value : List Char) : Shell := sh.assign (bytes "OPTARG") value
    match lettersAt? words index offset with
    | (some (c :: left), passed) =>
      let behind := some (((words[passed - 1]?).getD []).length - left.length)
      match lettersLookup c letters with
      | none =>
        let sh := if isQuiet then argument sh [c]
          else (sh.write 2 (bytes "Illegal option -" ++ [c, '\n'])).unset (bytes "OPTARG")
        (noteLetter (sh.withStatus 0) name '?' passed behind)
      | some false => noteLetter ((argument sh []).withStatus 0) name c passed behind
      | some true =>
        let (value, passed) : Option (List Char) × Nat :=
          if left.isEmpty then (words[passed]?, passed + 1) else (some left, passed)
        match value with
        | some v => noteLetter ((argument sh v).withStatus 0) name c passed none
        | none =>
          let passed := words.length
          if isQuiet then noteLetter ((argument sh [c]).withStatus 0) name ':' passed none
          else
            let sh := (sh.write 2 (bytes "No arg for -" ++ c :: bytes " option\n")).unset
              (bytes "OPTARG")
            noteLetter (sh.withStatus 0) name '?' passed none
    | (_, passed) => noteLetter (sh.withStatus 1) name '?' passed none
  | _ => sh.fail (bytes "Usage: getopts optstring var [arg...]")

end Builtin

end Crond.Script
