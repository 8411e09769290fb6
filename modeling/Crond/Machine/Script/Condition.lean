import Crond.Machine.Files.System
import Crond.Machine.Script.Arithmetic
import Crond.Machine.Script.Shell

/-
  Conditions, as `test` evaluates them.

  Whether a word is an operator depends on the words around it: one that looks like an operator is
  an ordinary text where an operator would have nothing to work on.
-/

namespace Crond.Script.Condition

open Text Files

inductive Operator where
  | unary (name : String)
  | binary (name : String)
  | negation
  | both
  | either
  | opening
  | closing
  deriving DecidableEq, Repr

def unaryNames : List String :=
  ["-r", "-w", "-x", "-e", "-f", "-d", "-c", "-b", "-p", "-u", "-g", "-k", "-s", "-t", "-z", "-n",
   "-h", "-O", "-G", "-L", "-S"]

def binaryNames : List String :=
  ["=", "!=", "<", ">", "-eq", "-ne", "-ge", "-gt", "-le", "-lt", "-nt", "-ot", "-ef"]

def operator? (word : List Char) : Option Operator :=
  match String.ofList word with
  | "!" => some .negation
  | "-a" => some .both
  | "-o" => some .either
  | "(" => some .opening
  | ")" => some .closing
  | name =>
    if name ∈ unaryNames then some (.unary name)
    else if name ∈ binaryNames then some (.binary name)
    else none

def isBinary (word : List Char) : Bool :=
  match operator? word with
  | some (.binary _) => true
  | _ => false

/-- What a word is where it stands. -/
inductive Sign where
  | finish
  | operator (o : Operator)
  | operand
  deriving DecidableEq, Repr

/-- Whether an operator with one operand stands where it has none. -/
def isOperand (following : List (List Char)) : Bool :=
  match following with
  | [] => true
  | [_] => false
  | w :: _ => isBinary w

/-- What the first of some words is. -/
def sign (words : List (List Char)) : Sign :=
  match words with
  | [] => .finish
  | w :: following =>
    match operator? w with
    | some (.unary name) => if isOperand following then .operand else .operator (.unary name)
    | some .opening => if following.isEmpty then .operand else .operator .opening
    | some o => .operator o
    | none => .operand

/-- A message, which may name a word. -/
abbrev Complaint := List Char

def complaint (word : List Char) (message : String) : Complaint :=
  if word.isEmpty then bytes message else word ++ [':', ' '] ++ bytes message

/-- A value, and the words from the last one that was used. -/
abbrev Outcome := Except Complaint (Bool × List (List Char))

/-- The number that a word is. -/
def number (word : List Char) : Except Complaint Int :=
  match Arithmetic.integer? (Arithmetic.digits 10) word with
  | some n => .ok n
  | none => .error (bytes "Illegal number: " ++ word)

/-- Whether two paths lead to one file, or to files of which one has been written later. -/
def compareFiles (sh : Shell) (name : String) (a b : List Char) : Bool :=
  let place? (path : List Char) : Option Place :=
    (sh.files.resolve sh.directory path).toOption.filter fun p => (sh.files.node? p).isSome
  match place? a, place? b with
  | some p, some q =>
    match name with
    | "-ef" => sh.files.number? p = sh.files.number? q
    | "-nt" => sh.files.isLater p q
    | _ => sh.files.isLater q p
  | _, _ => false

def compare (sh : Shell) (name : String) (a b : List Char) : Except Complaint Bool := do
  match name with
  | "-nt" | "-ot" | "-ef" => return compareFiles sh name a b
  | "=" => return a = b
  | "!=" => return a ≠ b
  | "<" => return a < b
  | ">" => return b < a
  | _ =>
    let m ← number a
    let n ← number b
    return match name with
      | "-eq" => m = n
      | "-ne" => m ≠ n
      | "-ge" => n ≤ m
      | "-gt" => n < m
      | "-le" => m ≤ n
      | _ => m < n

/-- Whether a file has a property. -/
def holdsOf (sh : Shell) (name : String) (path : List Char) : Bool :=
  if name = "-h" || name = "-L" then
    match (sh.files.resolveLink sh.directory path).toOption.bind sh.files.node? with
    | some (.link _) => true
    | _ => false
  else
    match sh.files.findItem sh.directory path with
    | .error _ => false
    | .ok i =>
      match name, i.node with
      | "-e", _ | "-r", _ | "-w", _ | "-O", _ | "-G", _ => true
      | "-f", .file _ | "-f", .program => true
      | "-d", .directory => true
      | "-c", .device _ => true
      | "-p", .pipe _ => true
      | "-u", _ => i.rights &&& 2048 ≠ 0
      | "-g", _ => i.rights &&& 1024 ≠ 0
      | "-k", _ => i.rights &&& 512 ≠ 0
      | "-x", .directory => true
      | "-x", _ => i.isExecutable
      | "-s", .file cs => !cs.isEmpty
      | "-s", .device _ | "-s", .pipe _ => false
      | "-s", _ => true
      | _, _ => false

def unary (sh : Shell) (name : String) (word : List Char) : Except Complaint Bool :=
  match name with
  | "-z" => .ok word.isEmpty
  | "-n" => .ok !word.isEmpty
  | "-t" => (number word).map fun _ => false
  | name => .ok (holdsOf sh name word)

/-- A condition without negation: an operand, or one in parentheses. -/
def primary (sh : Shell) (whole : Sign → List (List Char) → Outcome) (s : Sign)
    (words : List (List Char)) : Outcome :=
  match s with
  | .finish => .ok (false, words)
  | .operator .opening =>
    let inside := words.tail
    if sign inside = .operator .closing then .ok (false, inside)
    else do
      let (b, words) ← whole (sign inside) inside
      let rest := words.tail
      if sign rest = .operator .closing then return (b, rest)
      else .error (bytes "closing paren expected")
  | .operator (.unary name) =>
    match words.tail with
    | [] => .error (complaint (bytes name) "argument expected")
    | w :: rest => do return (← unary sh name w, w :: rest)
  | _ =>
    match words with
    | [] => .ok (false, [])
    | a :: rest =>
      match sign rest, rest with
      | .operator (.binary name), _ :: [] => .error (complaint (bytes name) "argument expected")
      | .operator (.binary name), _ :: b :: rest => do return (← compare sh name a b, b :: rest)
      | _, _ => .ok (!a.isEmpty, a :: rest)

def negation (sh : Shell) (whole : Sign → List (List Char) → Outcome) :
    Nat → Sign → List (List Char) → Outcome
  | 0, _, words => .ok (false, words)
  | n + 1, s, words =>
    if s = .operator .negation then do
      let rest := if sign words.tail = .finish then words else words.tail
      let (b, rest) ← negation sh whole n (sign words.tail) rest
      return (!b, rest)
    else primary sh whole s words

def conjunction (sh : Shell) (whole : Sign → List (List Char) → Outcome) :
    Nat → Bool → Sign → List (List Char) → Outcome
  | 0, sofar, _, words => .ok (sofar, words)
  | n + 1, sofar, s, words => do
    let (b, words) ← negation sh whole words.length.succ s words
    if sign words.tail = .operator .both then
      let rest := words.tail.tail
      conjunction sh whole n (sofar && b) (sign rest) rest
    else return (sofar && b, words)

def disjunction (sh : Shell) (whole : Sign → List (List Char) → Outcome) :
    Nat → Bool → Sign → List (List Char) → Outcome
  | 0, sofar, _, words => .ok (sofar, words)
  | n + 1, sofar, s, words => do
    let (b, words) ← conjunction sh whole words.length.succ true s words
    if sign words.tail = .operator .either then
      let rest := words.tail.tail
      disjunction sh whole n (sofar || b) (sign rest) rest
    else return (sofar || b, words)

/-- A condition. The number bounds how deeply parentheses are nested. -/
def whole (sh : Shell) : Nat → Sign → List (List Char) → Outcome
  | 0, _, words => .ok (false, words)
  | n + 1, s, words => disjunction sh (whole sh n) words.length.succ false s words

/-- Evaluates words as a condition that begins as a sign says. -/
def conclude (sh : Shell) (s : Sign) (words : List (List Char)) : Except Complaint Bool := do
  let (b, rest) ← whole sh words.length.succ s words
  match rest with
  | w :: _ :: _ => .error (complaint w "unexpected operator")
  | _ => return b

/-- Evaluates words as a condition. With three words or four, their number decides what they are. -/
def evaluate (sh : Shell) : List (List Char) → Except Complaint Bool
  | [] => .ok false
  | a :: rest =>
    let words := a :: rest
    let isSettled := rest.length = 2 || rest.length = 3
    if rest.length = 2 && isBinary (rest.headD []) then conclude sh .operand words
    else if isSettled && a = ['('] && rest.getLast? = some [')'] then
      conclude sh (sign rest.dropLast) rest.dropLast
    else if isSettled && a = ['!'] then (evaluate sh rest).map (! ·)
    else conclude sh (sign words) words

end Crond.Script.Condition
