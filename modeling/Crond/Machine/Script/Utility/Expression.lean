import Crond.Machine.Script.Regex
import Crond.Machine.Script.Utility.Order

/-
  The program `expr`, which works out an expression that is given word by word.

  Operators bind in the order `|`, `&`, comparisons, `+` and `-`, `*`, `/` and `%`, `:`, and words
  such as `length`, the last of them closest. Of two operands of which one settles the result the
  other is read, but not worked out.
-/

namespace Crond.Script

open Text

namespace Utility

/-- What is wrong with an expression. -/
inductive ExpressionFault where
  | unexpected (word : List Char)
  | missingAfter (word : List Char)
  | missingClosing (word : List Char)
  | unexpectedClosing
  | notInteger
  | divisionByZero
  | badPattern (f : Regex.Fault)
  deriving DecidableEq, Repr

def ExpressionFault.message : ExpressionFault → List Char
  | unexpected word => bytes "syntax error: unexpected argument " ++ inEscapes word
  | missingAfter word => bytes "syntax error: missing argument after " ++ inEscapes word
  | missingClosing word => bytes "syntax error: expecting ')' after " ++ inEscapes word
  | unexpectedClosing => bytes "syntax error: unexpected ')'"
  | notInteger => bytes "non-integer argument"
  | divisionByZero => bytes "division by zero"
  | badPattern f => bytes f.text

/-- A value and the words behind it. -/
abbrev Valued := Except ExpressionFault (List Char × List (List Char))

/-- The number that a word is. -/
def integer? (cs : List Char) : Option Int :=
  match cs with
  | '-' :: d :: ds =>
    if (d :: ds).all Char.isDigit then some (-(digitsValue 10 (d :: ds) : Int)) else none
  | d :: ds => if (d :: ds).all Char.isDigit then some (digitsValue 10 (d :: ds)) else none
  | [] => none

/-- Whether a value counts as nothing: it is empty, or a zero of any length. -/
def isNothing (v : List Char) : Bool :=
  v.isEmpty || v = ['-', '0'] ||
    (match v with
      | '-' :: d :: ds => (d :: ds).all (· = '0')
      | ds => ds.all (· = '0'))

def truth (b : Bool) : List Char := if b then ['1'] else ['0']

/-- What a text has in common with a pattern: the first group, or how much it matches. -/
def matched (text pattern : List Char) : Except ExpressionFault (List Char) :=
  match Regex.read { isStrict := true } pattern with
  | .error f => .error (.badPattern f)
  | .ok r =>
    let hasGroup := 0 < r.groupCount
    match r.matchAt? none [] text with
    | some m => .ok (if hasGroup then (m.groups.lookup 1).getD [] else numeral m.matched.length)
    | none => .ok (if hasGroup then [] else ['0'])

/-- A comparison of two values, as numbers if both are. -/
def compared (operator a b : List Char) : List Char :=
  let o := match integer? a, integer? b with
    | some m, some n => compare m n
    | _, _ => compareText a b
  truth (match String.ofList operator with
    | "=" | "==" => o = .eq
    | "!=" => o ≠ .eq
    | "<" => o = .lt
    | "<=" => o ≠ .gt
    | ">" => o = .gt
    | _ => o ≠ .lt)

/-- What an operator makes of two numbers. -/
def calculated (operator a b : List Char) : Except ExpressionFault (List Char) :=
  match integer? a, integer? b with
  | some m, some n =>
    match operator with
    | ['+'] => .ok (signedNumeral (m + n))
    | ['-'] => .ok (signedNumeral (m - n))
    | ['*'] => .ok (signedNumeral (m * n))
    | _ =>
      if n = 0 then .error .divisionByZero
      else .ok (signedNumeral (if operator = ['/'] then m.tdiv n else m.tmod n))
  | _, _ => .error .notInteger

/-- Operators that bind alike, and what they make of two values. -/
structure OperatorLevel where
  operators : List String
  /-- Whether the first value settles the result. -/
  settles : List Char → Bool := fun _ => false
  apply : List Char → List Char → List Char → Except ExpressionFault (List Char)

def operatorLevels : List OperatorLevel :=
  [{ operators := ["|"]
     settles := fun a => !isNothing a
     apply := fun _ a b =>
      .ok (if !isNothing a then a else if isNothing b then ['0'] else b) },
   { operators := ["&"]
     settles := isNothing
     apply := fun _ a b => .ok (if isNothing a || isNothing b then ['0'] else a) },
   { operators := ["<", "<=", "=", "==", "!=", ">=", ">"]
     apply := fun o a b => .ok (compared o a b) },
   { operators := ["+", "-"], apply := calculated },
   { operators := ["*", "/", "%"], apply := calculated },
   { operators := [":"], apply := fun _ a b => matched a b }]

/-- Goes on with operators behind a value, given how an operand behind one is worked out. The number
  bounds the operators. -/
def OperatorLevel.chain (level : OperatorLevel) (isLive : Bool)
    (operand : Bool → List Char → List (List Char) → Valued) :
    Nat → List Char → List (List Char) → Valued
  | 0, v, left => .ok (v, left)
  | n + 1, v, left =>
    match left with
    | [] => .ok (v, left)
    | o :: right =>
      if level.operators.contains (String.ofList o) then do
        let (w, left) ← operand (isLive && !level.settles v) o right
        let result ← if !isLive then .ok v
          else level.apply o v (if level.settles v then [] else w)
        chain level isLive operand n result left
      else .ok (v, left)

/-- The part of a text from a place on, of a length. -/
def substringOf (text start length : List Char) : List Char :=
  match integer? start, integer? length with
  | some m, some n =>
    if m ≤ 0 || n ≤ 0 then [] else (text.drop (m.toNat - 1)).take n.toNat
  | _, _ => []

/-- The word before what is left of words. -/
def beforeOf (words left : List (List Char)) : List Char :=
  (words.take (words.length - left.length)).getLastD []

/-- Works out an expression with the operators of some levels, at the front of words. The flag tells
  whether anything is worked out at all, and the word is the one before. The number bounds the
  steps. -/
def evaluateWords : Nat → Bool → List Char → List OperatorLevel → List (List Char) → Valued
  | 0, _, _, _, _ => .error .unexpectedClosing
  | fuel + 1, isLive, before, [], words =>
    let operand (before : List Char) (words : List (List Char)) : Valued :=
      evaluateWords fuel isLive before [] words
    match words with
    | [] => .error (.missingAfter before)
    | ['('] :: rest => do
      let (v, left) ← evaluateWords fuel isLive ['('] operatorLevels rest
      match left with
      | [')'] :: left => return (v, left)
      | [] => .error (.missingClosing (rest.getLastD ['(']))
      | w :: _ =>
        .error (.missingClosing (((['('] :: rest).take (rest.length + 1 - left.length)).getLastD w))
    | [')'] :: _ => .error .unexpectedClosing
    | ['+'] :: w :: rest => .ok (w, rest)
    | ['+'] :: [] => .error (.missingAfter ['+'])
    | w :: rest =>
      match String.ofList w with
      | "length" => do
        let (v, left) ← operand w rest
        return (numeral v.length, left)
      | "match" => do
        let (a, left) ← operand w rest
        let (b, left) ← operand (beforeOf rest left) left
        let v ← if isLive then matched a b else .ok []
        return (v, left)
      | "index" => do
        let (a, left) ← operand w rest
        let (b, left) ← operand (beforeOf rest left) left
        return (numeral (((a.findIdx? b.contains).map (· + 1)).getD 0), left)
      | "substr" => do
        let (a, left) ← operand w rest
        let (m, left) ← operand (beforeOf rest left) left
        let (n, left) ← operand (beforeOf rest left) left
        return (substringOf a m n, left)
      | _ => .ok (w, rest)
  | fuel + 1, isLive, before, level :: levels, words => do
    let (v, left) ← evaluateWords fuel isLive before levels words
    level.chain isLive (fun isLive o right => evaluateWords fuel isLive o levels right)
      left.length v left

/-- The value of all words. -/
def valueOf (words : List (List Char)) : Except ExpressionFault (List Char) := do
  let (v, left) ← evaluateWords (8 * words.length + 16) true (bytes "expr") operatorLevels words
  match left with
  | [] => return v
  | w :: _ => .error (.unexpected w)

def expr : Builtin := fun sh args =>
  let args := if args.head? = some ['-', '-'] then args.tail else args
  match args with
  | [] => misused sh "expr" (bytes "missing operand") 2
  | args =>
    match valueOf args with
    | .ok v => (sh.printLine v).withStatus (if isNothing v then 1 else 0)
    | .error f => complain sh "expr" f.message 2

end Utility

end Crond.Script
