import Crond.Text.Bytes

/-
  The options of programs.

  An option is a letter behind a dash, which further letters can follow, or a name behind two
  dashes, of which the front is enough if no other name begins so. Its value stands in the same
  argument, or in the next one if it must have a value. Two dashes alone end the options.
-/

namespace Crond.Script

open Text

/-- Whether an option has a value. -/
inductive Arity where
  | without
  | required
  | optional
  deriving DecidableEq, Repr

/-- The options that a program knows. -/
structure OptionTable where
  /-- The letters, each followed by a colon if it must have a value, and by two if it can. -/
  letters : String
  /-- The names, each with the letter that means the same. Without a letter the name stands for
    itself. Colons tell of values as they do behind letters, and for a letter they can be left
    out. -/
  names : List (String × String) := []
  /-- Whether options can stand behind other arguments. -/
  isMixed : Bool := true
  /-- Whether a negative number is no option, and ends them. -/
  hasNumbers : Bool := false

/-- An option that is given: its letter, or its name if it has no letter. -/
structure GivenOption where
  key : String
  value : Option (List Char) := none
  deriving DecidableEq, Repr

/-- Arguments, sorted into options and others, as far as the first option that is wrong. -/
structure SortedArguments where
  options : List GivenOption := []
  operands : List (List Char) := []
  /-- What is wrong with the next option. -/
  fault? : Option (List Char) := none
  deriving DecidableEq, Repr

namespace OptionTable

def arityOf (colons : List Char) : Arity :=
  match colons with
  | ':' :: ':' :: _ => .optional
  | ':' :: _ => .required
  | _ => .without

/-- Whether a letter has a value, if there is such an option. -/
def letter? (t : OptionTable) (c : Char) : Option Arity :=
  match t.letters.toList.dropWhile (· ≠ c) with
  | _ :: rest => if c = ':' then none else some (arityOf rest)
  | [] => none

/-- An option that a name can mean. -/
structure Candidate where
  name : String
  key : String
  arity : Arity
  deriving DecidableEq, Repr

def candidates (t : OptionTable) : List Candidate :=
  t.names.map fun (name, spelling) =>
    let (letters, colons) := spelling.toList.span (· ≠ ':')
    let arity := if colons.isEmpty then (letters.head?.bind t.letter?).getD .without
      else arityOf colons
    { name, key := if letters.isEmpty then name else String.ofList letters, arity }

/-- The option that a name means, or why there is none. -/
def named (t : OptionTable) (name : List Char) : Except (List Char) Candidate :=
  let all := t.candidates
  match all.find? fun c => bytes c.name = name with
  | some c => .ok c
  | none =>
    let quoted := bytes "option '--" ++ name ++ ['\'']
    match all.filter fun c => name.isPrefixOf (bytes c.name) with
    | [] => .error (bytes "unrecognized " ++ quoted)
    | c :: cs =>
      if cs.all fun d => d.key = c.key && d.arity = c.arity then .ok c
      else
        .error (quoted ++ bytes " is ambiguous; possibilities:" ++
          (c :: cs).flatMap fun d => bytes (" '--" ++ d.name ++ "'"))

/-- The options among arguments, and the other arguments. The number bounds the letters and the
  arguments to go. -/
def sortOut (t : OptionTable) : Nat → List (List Char) → SortedArguments
  | 0, operands => { operands }
  | _, [] => {}
  | n + 1, arg :: rest =>
    let further (key : String) (value : Option (List Char)) (args : List (List Char)) :
        SortedArguments :=
      let s := sortOut t n args
      { s with options := ⟨key, value⟩ :: s.options }
    match arg with
    | ['-', '-'] => { operands := rest }
    | '-' :: '-' :: long =>
      let (name, assigned) := long.span (· ≠ '=')
      match t.named name with
      | .error message => { fault? := some message }
      | .ok c =>
        match assigned, c.arity, rest with
        | _ :: _, .without, _ =>
          { fault? := some (bytes ("option '--" ++ c.name ++ "' doesn't allow an argument")) }
        | _ :: value, _, rest => further c.key (some value) rest
        | [], .required, value :: rest => further c.key (some value) rest
        | [], .required, [] =>
          { fault? := some (bytes ("option '--" ++ c.name ++ "' requires an argument")) }
        | [], _, rest => further c.key none rest
    | '-' :: c :: cs =>
      let key := String.ofList [c]
      match (if t.hasNumbers && (c.isDigit || c = '.') then none else some (t.letter? c)), cs, rest
        with
      | none, _, _ => { operands := arg :: rest }
      | some none, _, _ => { fault? := some (bytes "invalid option -- '" ++ [c, '\'']) }
      | some (some .without), [], rest => further key none rest
      | some (some .without), cs, rest => further key none (('-' :: cs) :: rest)
      | some (some .optional), [], rest => further key none rest
      | some (some .optional), cs, rest => further key (some cs) rest
      | some (some .required), [], [] =>
        { fault? := some (bytes "option requires an argument -- '" ++ [c, '\'']) }
      | some (some .required), [], value :: rest => further key (some value) rest
      | some (some .required), cs, rest => further key (some cs) rest
    | _ =>
      if t.isMixed then
        let s := sortOut t n rest
        { s with operands := arg :: s.operands }
      else { operands := arg :: rest }

/-- The options among arguments, and the other arguments. -/
def read (t : OptionTable) (args : List (List Char)) : SortedArguments :=
  t.sortOut (args.foldl (fun n a => n + a.length + 1) 1) args

end OptionTable

/-- Whether an option is given. -/
def givenIn (os : List GivenOption) (key : String) : Bool := os.any fun o => o.key = key

/-- The value that an option is given last. -/
def lastValue? (os : List GivenOption) (key : String) : Option (List Char) :=
  (os.reverse.find? fun o => o.key = key).bind GivenOption.value

end Crond.Script
