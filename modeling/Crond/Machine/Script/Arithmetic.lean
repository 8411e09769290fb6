import Crond.Machine.Script.Word
import Crond.Machine.Floating

/-
  Integer expressions: the operators of a shell on signed numbers of 64 bits, which wrap around.

  A name that is not set counts as zero, one whose value is no number is an error, and an
  assignment has the assigned value. Expressions are read from the left as far as they are sound;
  where one is not, its value is worked out up to there, so that of two errors the first one shows.
-/

namespace Crond.Script.Arithmetic

open Text

/-- A number as 64 bits hold it. -/
def wrap (n : Int) : Int := n.bmod 18446744073709551616

inductive Fault where
  | expected (what : String)
  | divisionByZero
  /-- The quotient of the least number and minus one, on which the processor gives up. -/
  | overflow
  | illegalNumber (text : List Char)
  | fixedName (name : List Char)
  deriving DecidableEq, Repr

inductive Token where
  | number (n : Int)
  | name (cs : List Char)
  | operator (text : String)
  /-- A character that begins no token. -/
  | stray (c : Char)
  deriving DecidableEq, Repr

/-- Reads digits of a base. -/
def digits (base : Nat) (cs : List Char) : Nat × List Char :=
  let (ds, rest) := cs.span fun c => (digitOf? base c).isSome
  (digitsValue base ds, rest)

/-- Reads a numeral: hexadecimal behind `0x`, octal behind `0`, or else decimal. -/
def numeralAt (cs : List Char) : Nat × List Char :=
  match cs with
  | '0' :: x :: d :: rest =>
    if (x = 'x' || x = 'X') && (digitOf? 16 d).isSome then digits 16 (d :: rest)
    else digits 8 (x :: d :: rest)
  | '0' :: rest => digits 8 rest
  | cs => digits 10 cs

/-- The number at the front of a text, with a sign or without, and the rest. -/
def integerAt? (read : List Char → Nat × List Char) (cs : List Char) : Option (Int × List Char) :=
  let (isNegative, body) := match cs.dropWhile isSpace with
    | '-' :: body => (true, body)
    | '+' :: body => (false, body)
    | body => (false, body)
  if (body.head?.map Char.isDigit).getD false then
    let (n, rest) := read body
    some (if isNegative then -n else n, rest)
  else none

def least : Int := -9223372036854775808

def most : Int := 9223372036854775807

/-- The number nearest to one among those that there are. -/
def clamped (n : Int) : Int := max least (min n most)

/-- The number that a whole text is, with white space around it. -/
def integer? (read : List Char → Nat × List Char) (cs : List Char) : Option Int :=
  match integerAt? read cs with
  | some (n, rest) => if rest.all isSpace && clamped n = n then some n else none
  | none => none

/-- The operators, longer ones before those they begin with. -/
def operators : List String :=
  ["<<=", ">>=", "<<", ">>", "<=", ">=", "==", "!=", "&&", "||", "*=", "/=", "%=", "+=", "-=",
   "&=", "^=", "|=", "+", "-", "*", "/", "%", "<", ">", "=", "&", "^", "|", "!", "~", "?", ":",
   "(", ")"]

/-- The tokens of an expression. -/
def tokens : Nat → List Char → List Token
  | 0, _ => []
  | _, [] => []
  | fuel + 1, c :: cs =>
    if c = ' ' || c = '\t' || c = '\n' then tokens fuel cs
    else if c.isDigit then
      let (n, rest) := numeralAt (c :: cs)
      .number (clamped n) :: tokens fuel rest
    else if isNameStart c then
      let (name, rest) := (c :: cs).span isNameChar
      .name name :: tokens fuel rest
    else
      match operators.find? fun o => o.toList.isPrefixOf (c :: cs) with
      | some o => .operator o :: tokens fuel ((c :: cs).drop o.length)
      | none => .stray c :: tokens fuel cs

inductive Expression where
  | number (n : Int)
  | name (cs : List Char)
  | unary (operator : String) (e : Expression)
  | binary (operator : String) (a b : Expression)
  | both (a b : Expression)
  | either (a b : Expression)
  | choose (test yes no : Expression)
  /-- Assigns what an operator, if there is one, makes of the old value and another. -/
  | assign (name : List Char) (operator : Option String) (e : Expression)
  /-- Nothing that could be read, or an expression behind which something is wrong. -/
  | unsound (e : Option Expression) (f : Fault)
  deriving Repr

/-- What is in place of an operand that is missing. -/
def Expression.missing (what : String) : Expression := .unsound none (.expected what)

/-- An expression behind which something is missing. -/
def Expression.without (e : Expression) (what : String) : Expression :=
  .unsound (some e) (.expected what)

/-- The operators of each strength, the strongest first. -/
def strengths : List (List String) :=
  [["*", "/", "%"], ["+", "-"], ["<<", ">>"], ["<", "<=", ">", ">="], ["==", "!="], ["&"], ["^"],
   ["|"]]

/-- The operators that assign, with what they make of the old value and another. -/
def assignments : List (String × Option String) :=
  ("=", none) :: (["*", "/", "%", "+", "-", "<<", ">>", "&", "^", "|"].map fun o =>
    (o ++ "=", some o))

/-- What has been read, and the tokens behind it. -/
abbrev Parsed := Expression × List Token

/-- What an expression is made of, from an operand up to a whole. -/
inductive Level where
  | operand
  | binary (strengths : List (List String))
  | conjunction
  | disjunction
  | choice
  | whole

/-- Reads on behind a left operand of operators of one strength. -/
def chain (operand : List Token → Parsed) (isOperator : String → Bool)
    (make : String → Expression → Expression → Expression) :
    Nat → Expression → List Token → Parsed
  | 0, e, ts => (e, ts)
  | fuel + 1, e, ts =>
    match ts with
    | .operator o :: rest =>
      if isOperator o then
        let (f, rest) := operand rest
        chain operand isOperator make fuel (make o e f) rest
      else (e, ts)
    | _ => (e, ts)

/-- Reads an expression of a level. The number bounds how deeply expressions are nested. Behind what
  is unsound there is nothing left to read. -/
def parse : Nat → Level → List Token → Parsed
  | 0, _, _ => (.missing "primary", [])
  | fuel + 1, level, ts =>
    match level with
    | .operand =>
      match ts with
      | .number n :: rest => (.number n, rest)
      | .name cs :: rest => (.name cs, rest)
      | .operator "(" :: rest =>
        match parse fuel .whole rest with
        | (e, .operator ")" :: rest) => (e, rest)
        | (e, _) => (e.without "')'", [])
      | .operator o :: rest =>
        if o ∈ ["+", "-", "!", "~"] then
          let (e, rest) := parse fuel .operand rest
          (.unary o e, rest)
        else (.missing "primary", [])
      | _ => (.missing "primary", [])
    | .binary strengths =>
      match strengths with
      | [] => parse fuel .operand ts
      | os :: tighter =>
        let operand := parse fuel (.binary tighter)
        let (e, rest) := operand ts
        chain operand (fun o => o ∈ os) .binary rest.length e rest
    | .conjunction =>
      let operand := parse fuel (.binary strengths.reverse)
      let (e, rest) := operand ts
      chain operand (fun o => o = "&&") (fun _ => .both) rest.length e rest
    | .disjunction =>
      let operand := parse fuel .conjunction
      let (e, rest) := operand ts
      chain operand (fun o => o = "||") (fun _ => .either) rest.length e rest
    | .choice =>
      match parse fuel .disjunction ts with
      | (test, .operator "?" :: rest) =>
        match parse fuel .whole rest with
        | (yes, .operator ":" :: rest) =>
          let (no, rest) := parse fuel .choice rest
          (.choose test yes no, rest)
        | (yes, _) => (.choose test yes (.missing "':'"), [])
      | r => r
    | .whole =>
      match ts with
      | .name cs :: .operator o :: rest =>
        match assignments.lookup o with
        | some operator =>
          let (e, rest) := parse fuel .whole rest
          (.assign cs operator e, rest)
        | none => parse fuel .choice ts
      | _ => parse fuel .choice ts

/-- The expression that a text is. -/
def read (cs : List Char) : Expression :=
  let ts := tokens (cs.length + 1) cs
  match parse (16 * (ts.length + 2)) .whole ts with
  | (e, []) => e
  | (e, _) => e.without "EOF"

/-! ### Values -/

/-- What names mean: their values, and whether these are fixed. -/
structure Values where
  value? : List Char → Option (List Char)
  isFixed : List Char → Bool

/-- The number that the value of a name is. A blank value counts as zero. -/
def numberOf (cs : List Char) : Except Fault Int :=
  if cs.all isSpace then .ok 0
  else
    match integer? numeralAt cs with
    | some n => .ok n
    | none => .error (.illegalNumber cs)

def truth (b : Bool) : Int := if b then 1 else 0

/-- The lowest 64 bits of a number. -/
def bits (n : Int) : Nat := (n % 18446744073709551616).toNat

/-- Fails unless a number can be divided by another one. -/
def quotable (a b : Int) : Except Fault Unit :=
  if b = 0 then .error .divisionByZero
  else if a = least && b = -1 then .error .overflow
  else .ok ()

/-- What an operator makes of two numbers. -/
def combine (operator : String) (a b : Int) : Except Fault Int :=
  match operator with
  | "*" => .ok (wrap (a * b))
  | "+" => .ok (wrap (a + b))
  | "-" => .ok (wrap (a - b))
  | "/" => (quotable a b).map fun _ => a.tdiv b
  | "%" => (quotable a b).map fun _ => a.tmod b
  | "<<" => .ok (wrap (bits a <<< (bits b % 64) : Nat))
  | ">>" => .ok (a >>> (bits b % 64))
  | "<" => .ok (truth (a < b))
  | "<=" => .ok (truth (a ≤ b))
  | ">" => .ok (truth (b < a))
  | ">=" => .ok (truth (b ≤ a))
  | "==" => .ok (truth (a = b))
  | "!=" => .ok (truth (a ≠ b))
  | "&" => .ok (wrap (bits a &&& bits b : Nat))
  | "^" => .ok (wrap (bits a ^^^ bits b : Nat))
  | _ => .ok (wrap (bits a ||| bits b : Nat))

/-- The values that have been assigned, the latest first. -/
abbrev Assigned := List (List Char × Int)

def lookUp (values : Values) (assigned : Assigned) (name : List Char) : Except Fault Int :=
  match assigned.lookup name with
  | some n => .ok n
  | none => numberOf ((values.value? name).getD [])

/-- Assigns a number to a name. -/
def put (values : Values) (assigned : Assigned) (name : List Char) (n : Int) :
    Except Fault (Int × Assigned) :=
  if values.isFixed name then .error (.fixedName name) else .ok (n, (name, n) :: assigned)

/-- The value of an expression, and what it assigns besides what was assigned before. An expression
  that does not count has no value to speak of and assigns nothing, but it must be sound. -/
def evaluate (values : Values) (counts : Bool) :
    Expression → Assigned → Except Fault (Int × Assigned)
  | .number n, s => .ok (n, s)
  | .name cs, s => if counts then do return (← lookUp values s cs, s) else .ok (0, s)
  | .unary o e, s => do
    let (n, s) ← evaluate values counts e s
    match o with
    | "-" => return (wrap (-n), s)
    | "!" => return (truth (n = 0), s)
    | "~" => return (-n - 1, s)
    | _ => return (n, s)
  | .binary o a b, s => do
    let (m, s) ← evaluate values counts a s
    let (n, s) ← evaluate values counts b s
    if counts then return (← combine o m n, s) else return (n, s)
  | .both a b, s => do
    let (m, s) ← evaluate values counts a s
    let (n, s) ← evaluate values (counts && m ≠ 0) b s
    return (truth (m ≠ 0 && n ≠ 0), s)
  | .either a b, s => do
    let (m, s) ← evaluate values counts a s
    let (n, s) ← evaluate values (counts && m = 0) b s
    return (truth (m ≠ 0 || n ≠ 0), s)
  | .choose test yes no, s => do
    let (n, s) ← evaluate values counts test s
    let (a, s) ← evaluate values (counts && n ≠ 0) yes s
    let (b, s) ← evaluate values (counts && n = 0) no s
    return (if n ≠ 0 then a else b, s)
  | .assign cs operator e, s => do
    let (n, s) ← evaluate values counts e s
    if !counts then return (n, s)
    else
      match operator with
      | none => put values s cs n
      | some o => put values s cs (← combine o (← lookUp values s cs) n)
  | .unsound none f, _ => .error f
  | .unsound (some e) f, s => do
    let _ ← evaluate values counts e s
    .error f

/-- The value of an expression and its assignments, in order. -/
def run (values : Values) (cs : List Char) : Except Fault (Int × List (List Char × Int)) := do
  let (n, assigned) ← evaluate values true (read cs) []
  return (n, assigned.reverse)

end Crond.Script.Arithmetic
