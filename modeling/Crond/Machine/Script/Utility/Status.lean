import Crond.Machine.Script.Utility.Listing

/-
  The program `stat`, which tells what is known of files, by a format with directives.
-/

namespace Crond.Script

open Text Files Calendar

namespace Utility

/-- A directive of a format: how its text is put into a field, and its letters. -/
structure StatusField where
  isLeft : Bool := false
  isFilled : Bool := false
  isMarked : Bool := false
  width : Nat := 0
  /-- The digits of a precision; there can be a point without any. -/
  most : Option (List Char) := none
  letters : List Char

inductive StatusPart where
  | text (cs : List Char)
  | field (f : StatusField)
  /-- A directive that means nothing, as it is written. -/
  | broken (cs : List Char)

/-- A part of a format, and what it is warned of. -/
structure StatusFormat where
  parts : List StatusPart := []
  warnings : List String := []

def StatusFormat.led (p : StatusPart) (f : StatusFormat) : StatusFormat :=
  { f with parts := p :: f.parts }

/-- What a backslash stands for with what is behind it, and the rest. -/
def statusEscape (cs : List Char) : List Char × Option String × List Char :=
  match cs with
  | [] => (['\\'], some "backslash at end of format", [])
  | 'x' :: rest =>
    let digits := (rest.take 2).takeWhile fun c => (digitOf? 16 c).isSome
    if digits.isEmpty then (['x'], some "unrecognized escape '\\x'", rest)
    else ([Char.ofNat (digitsValue 16 digits)], none, rest.drop digits.length)
  | c :: rest =>
    let digits := (cs.take 3).takeWhile fun d => '0' ≤ d && d ≤ '7'
    if !digits.isEmpty then
      ([Char.ofNat (digitsValue 8 digits % 256)], none, cs.drop digits.length)
    else
      match [('a', '\x07'), ('b', '\x08'), ('e', '\x1b'), ('f', '\x0c'), ('n', '\n'),
          ('r', '\r'), ('t', '\t'), ('v', '\x0b'), ('\\', '\\'), ('"', '"')].lookup c with
      | some d => ([d], none, rest)
      | none => ([c], some ("unrecognized escape '\\" ++ String.ofList [c] ++ "'"), rest)

/-- Reads a format. The flag tells whether backslashes mean something, and the number bounds it. -/
def readStatusFormat (hasEscapes : Bool) : Nat → List Char → StatusFormat
  | 0, _ => {}
  | _, [] => {}
  | n + 1, c :: cs =>
    if c = '\\' && hasEscapes then
      let (text, warning?, rest) := statusEscape cs
      let f := (readStatusFormat hasEscapes n rest).led (.text text)
      { f with warnings := warning?.toList ++ f.warnings }
    else if c ≠ '%' then (readStatusFormat hasEscapes n cs).led (.text [c])
    else
      let (flags, rest) := cs.span fun d => (bytes "-'+ #0I").contains d
      let (width, rest) := rest.span Char.isDigit
      let (most, rest) : Option (List Char) × List Char := match rest with
        | '.' :: behind =>
          let (digits, behind) := behind.span Char.isDigit
          (some digits, behind)
        | _ => (none, rest)
      let isBare := flags.isEmpty && width.isEmpty && most.isNone
      let read := '%' :: cs.take (cs.length - rest.length)
      match rest with
      | [] =>
        { parts := [if isBare then .text ['%'] else .broken read] }
      | '%' :: behind =>
        (readStatusFormat hasEscapes n behind).led
          (if isBare then .text ['%'] else .broken (read ++ ['%']))
      | d :: behind =>
        let (letters, behind) := match d, behind with
          | 'H', e :: more | 'L', e :: more =>
            if e = 'd' || e = 'r' then ([d, e], more) else ([d], behind)
          | _, _ => ([d], behind)
        let f : StatusField :=
          { isLeft := flags.contains '-', isFilled := flags.contains '0',
            isMarked := flags.contains '#', width := natural width, most, letters }
        (readStatusFormat hasEscapes n behind).led (.field f)

/-- A file that is told of, with the name that is given for it. -/
structure Told where
  name : Name
  listed : Listed

namespace StatusField

/-- A text put into the field. -/
def placed (f : StatusField) (isNumber : Bool) (cs : List Char) : List Char :=
  let cs := match f.most with
    | some digits => if isNumber then cs else cs.take (natural digits)
    | none => cs
  let gap := f.width - cs.length
  if f.isLeft then cs ++ List.replicate gap ' '
  else List.replicate gap (if f.isFilled && isNumber then '0' else ' ') ++ cs

def number (f : StatusField) (n : Nat) : List Char := f.placed true (numeral n)

/-- A number in another base, with a mark in front if that is asked for. -/
def based (f : StatusField) (base : Nat) (mark : String) (n : Nat) : List Char :=
  f.placed true ((if f.isMarked && n ≠ 0 then bytes mark else []) ++ Nat.toDigits base n)

/-- A moment as a number of seconds, with as many digits behind the point as are asked for. -/
def seconds (f : StatusField) (t : Int) : List Char :=
  let whole := Moment.written ⟨t⟩ (bytes "%s")
  let digits := numeral (t % nanosPerSecond).toNat
  let all := List.replicate (9 - digits.length) '0' ++ digits
  match f.most with
  | none => f.placed true whole
  | some most =>
    let count := if most.isEmpty then 9 else natural most
    let part := all.take count ++ List.replicate (count - 9) '0'
    f.placed true (if count = 0 then whole else whole ++ '.' :: part)

/-- The bits for the kind of a file, above those for its rights. -/
def kindBits (node : Node) : Nat :=
  match node with
  | .pipe _ => 4096
  | .device _ => 8192
  | .directory => 16384
  | .file _ | .program => 32768
  | .link _ => 40960

/-- What a directive tells of a file. The flag tells whether names are put in quotes. -/
def text (f : StatusField) (sh : Shell) (isQuoted : Bool) (t : Told) : List Char :=
  let item := t.listed.item
  let string (cs : List Char) : List Char := f.placed false cs
  let shown (name : Name) : List Char := if isQuoted then inQuotes name else name
  let numbers : Nat × Nat := match item.node with
    | .device d => deviceNumbers d
    | _ => (0, 0)
  match String.ofList f.letters with
  | "n" => string t.name
  | "N" =>
    match item.node with
    | .link way => string (shown t.name) ++ bytes " -> " ++ string (shown way)
    | _ => string (shown t.name)
  | "F" => string (bytes (kindOf item.node))
  | "a" => f.based 8 "0" item.rights
  | "A" => string (kindLetter item.node :: Rights.text item.rights)
  | "f" => f.based 16 "0x" (kindBits item.node + item.rights)
  | "s" => f.number (sizeOf item)
  | "b" => f.number (begun (roomOf item) 512)
  | "B" => f.number 512
  | "o" => f.number 4096
  | "h" => f.number (linkCount sh t.listed)
  | "i" => f.number ((sh.files.number? t.listed.place).getD 0)
  | "u" | "g" | "d" | "D" | "Hd" | "Ld" => f.number 0
  | "U" | "G" => string (bytes "root")
  | "m" => string ['/']
  | "t" => f.based 16 "0x" numbers.1
  | "T" => f.based 16 "0x" numbers.2
  | "Hr" => f.number numbers.1
  | "Lr" => f.number numbers.2
  | "r" => f.number (256 * numbers.1 + numbers.2)
  | "R" => f.based 16 "0x" (256 * numbers.1 + numbers.2)
  | "w" | "x" | "y" | "z" =>
    string (Moment.written ⟨item.modified⟩ (bytes "%Y-%m-%d %H:%M:%S.%N %z"))
  | "W" | "X" | "Y" | "Z" => f.seconds item.modified
  | _ => ['?']

end StatusField

/-- What is told of a file in some parts of a format, or which directive means nothing. -/
def statusText (sh : Shell) (isQuoted : Bool) (t : Told) :
    List StatusPart → List Char × Option (List Char)
  | [] => ([], none)
  | .text cs :: ps =>
    let (rest, fault?) := statusText sh isQuoted t ps
    (cs ++ rest, fault?)
  | .field f :: ps =>
    let (rest, fault?) := statusText sh isQuoted t ps
    (f.text sh isQuoted t ++ rest, fault?)
  | .broken cs :: _ => ([], some cs)

/-- The format where none is given. The flag tells whether a file has numbers of a device. -/
def usualStatus (isDevice : Bool) : String :=
  "  File: %N\n  Size: %-10s\tBlocks: %-10b IO Block: %-6o %F\n" ++
    "Device: %Hd,%Ld\tInode: %-10i  Links: " ++
    (if isDevice then "%-5h Device type: %Hr,%Lr\n" else "%h\n") ++
    "Access: (%04a/%10.10A)  Uid: (%5u/%8U)   Gid: (%5g/%8G)\n" ++
    "Access: %x\nModify: %y\nChange: %z\n Birth: %w\n"

def statTable : OptionTable where
  letters := "c:fLt"
  names := [("dereference", "L"), ("file-system", "f"), ("format", "c"), ("printf", ":"),
    ("terse", "t"), ("cached", ":")]

def stat : Builtin :=
  let fault? (sh : Shell) (o : GivenOption) : Option (List Char) :=
    match o.key, o.value with
    | "cached", some v => badChoice? sh "stat" "cached" v [["default"], ["never"], ["always"]]
    | _, _ => none
  withOptions "stat" 1 statTable fault? fun os sh names =>
    let given := (os.reverse.find? fun o => o.key = "c" || o.key = "printf").bind fun o =>
      o.value.map fun v => (o.key == "printf", v)
    let terse := bytes "%n %s %b %f %u %g %D %i %h %t %T %X %Y %Z %W %o\n"
    let isQuoted := given.any fun g => (g.2.zip g.2.tail).any (· = ('%', 'N'))
    let format (node : Node) : StatusFormat :=
      let isDevice := match node with
        | .device _ => true
        | _ => false
      let read (hasEscapes : Bool) (cs : List Char) : StatusFormat :=
        readStatusFormat hasEscapes (cs.length + 1) cs
      match given with
      | some (true, cs) => read true cs
      | some (false, cs) =>
        let f := read false cs
        { f with parts := f.parts ++ [.text ['\n']] }
      | none => read false (if givenIn os "t" then terse else bytes (usualStatus isDevice))
    if names.isEmpty then missingOperand sh "stat" (bytes "operand")
    else
      (names.foldl (fun (acc : Shell × Bool) name =>
        let (sh, isOver) := acc
        if isOver || !sh.goesOn then acc
        else
          match present (lookAs (givenIn os "L") sh name) with
          | .error f => (complain sh "stat" (quotedFault "cannot statx" name f) 1, false)
          | .ok (place, item) =>
            let f := format item.node
            let sh := f.warnings.foldl (fun (sh : Shell) w =>
              complain sh "stat" (bytes ("warning: " ++ w)) sh.status) sh
            let (cs, fault?) := statusText sh isQuoted { name, listed := { name, place, item } } f.parts
            let sh := sh.print cs
            match fault? with
            | some d =>
              (complain sh "stat" ('\'' :: d ++ bytes "': invalid directive") 1, true)
            | none => (sh, false)) (sh.withStatus 0, false)).1

end Utility

end Crond.Script
