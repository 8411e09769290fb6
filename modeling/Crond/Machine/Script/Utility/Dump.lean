import Crond.Machine.Script.Utility.Basic

/-
  The program `od`, which writes the bytes of files as numbers or characters.

  The bytes are taken in blocks, and a block is written once for every format that is asked for.
  Blocks that are the same as the one before them are not written.
-/

namespace Crond.Script

open Text Files

namespace Utility

/-- What bytes are taken for. -/
inductive ByteKind where
  | octal
  | signed
  | unsigned
  | hexadecimal
  | character
  | named
  deriving DecidableEq, Repr

/-- How a block is written. -/
structure DumpFormat where
  kind : ByteKind
  /-- How many bytes there are in an item. -/
  size : Nat := 1
  /-- Whether the bytes follow as text. -/
  hasText : Bool := false
  deriving DecidableEq, Repr

namespace DumpFormat

/-- How wide an item is. -/
def width (f : DumpFormat) : Nat :=
  match f.kind, f.size with
  | .octal, n => (8 * n + 2) / 3
  | .hexadecimal, n => 2 * n
  | .signed, 1 => 4
  | .signed, 2 => 6
  | .signed, 4 => 11
  | .signed, _ => 20
  | .unsigned, 1 => 3
  | .unsigned, 2 => 5
  | .unsigned, 4 => 10
  | .unsigned, _ => 20
  | .character, _ | .named, _ => 3

def controlNames : List String :=
  ["nul", "soh", "stx", "etx", "eot", "enq", "ack", "bel", "bs", "ht", "nl", "vt", "ff", "cr", "so",
    "si", "dle", "dc1", "dc2", "dc3", "dc4", "nak", "syn", "etb", "can", "em", "sub", "esc", "fs",
    "gs", "rs", "us", "sp"]

/-- The digits of a number, with zeros in front. -/
def digits (base width n : Nat) : List Char :=
  let ds := Nat.toDigits base n
  List.replicate (width - ds.length) '0' ++ ds

/-- A byte as a character, or as what stands for it. -/
def characterOf (c : Char) : List Char :=
  if c = '\x00' then ['\\', '0']
  else if isPrintable c then [c]
  else
    match escapedByte c with
    | [slash, letter] => [slash, letter]
    | _ => digits 8 3 c.toNat

/-- An item as it is written. Its first byte counts least. -/
def item (f : DumpFormat) (cs : List Char) : List Char :=
  let n := cs.foldr (fun c n => 256 * n + c.toNat) 0
  match f.kind with
  | .octal => digits 8 f.width n
  | .hexadecimal => digits 16 f.width n
  | .unsigned => numeral n
  | .signed =>
    let all := Nat.pow 256 f.size
    signedNumeral (if n < all / 2 then (n : Int) else (n : Int) - all)
  | .character => cs.flatMap characterOf
  | .named =>
    cs.flatMap fun c =>
      let low := c.toNat % 128
      if low = 127 then bytes "del"
      else (controlNames[low]?.map bytes).getD [Char.ofNat low]

/-- A block as it is written, where every block is so many bytes long and takes so much room. -/
def block (f : DumpFormat) (length room : Nat) (cs : List Char) : List Char :=
  let fields := length / f.size
  let blank := (length - cs.length) / f.size
  let padding := room - f.width * fields
  let filled := cs ++ List.replicate (length - cs.length) '\x00'
  let widthAt (n : Nat) : Nat :=
    padding * (fields - n) / fields - padding * (fields - n - 1) / fields + f.width
  let shown := (List.range (fields - blank)).flatMap fun n =>
    let text := f.item ((filled.drop (f.size * n)).take f.size)
    List.replicate (widthAt n - text.length) ' ' ++ text
  let rest := ((List.range fields).drop (fields - blank)).flatMap fun n =>
    List.replicate (widthAt n) ' '
  if f.hasText then
    shown ++ rest ++ bytes "  >" ++ cs.map (fun c => if isPrintable c then c else '.') ++ ['<']
  else shown

end DumpFormat

/-! ### Formats -/

/-- How many bytes a letter or a number behind a format means. -/
def itemSize? (cs : List Char) : Option (Nat × List Char) :=
  match cs with
  | 'C' :: rest => some (1, rest)
  | 'S' :: rest => some (2, rest)
  | 'I' :: rest => some (4, rest)
  | 'L' :: rest => some (8, rest)
  | cs =>
    let (ds, rest) := cs.span Char.isDigit
    if ds.isEmpty then some (4, rest)
    else
      let n := natural ds
      if n = 1 || n = 2 || n = 4 || n = 8 then some (n, rest) else none

/-- Reads the formats that a text names, one after the other. The number bounds them. -/
def dumpFormats (whole : List Char) : Nat → List Char → Except (List Char) (List DumpFormat)
  | 0, _ => .ok []
  | _, [] => .ok []
  | n + 1, c :: cs =>
    let ended (kind : ByteKind) (size : Nat) (rest : List Char) :
        Except (List Char) (List DumpFormat) := do
      let hasText := rest.head? = some 'z'
      let behind ← dumpFormats whole n (if hasText then rest.tail else rest)
      return { kind, size, hasText } :: behind
    let sized (kind : ByteKind) : Except (List Char) (List DumpFormat) :=
      match itemSize? cs with
      | some (size, rest) => ended kind size rest
      | none =>
        .error (bytes "invalid type string " ++ inEscapes whole ++
          bytes ";\nthis system doesn't provide a " ++ cs.takeWhile Char.isDigit ++
          bytes "-byte integral type")
    match c with
    | 'a' => ended .named 1 cs
    | 'c' => ended .character 1 cs
    | 'd' => sized .signed
    | 'o' => sized .octal
    | 'u' => sized .unsigned
    | 'x' => sized .hexadecimal
    | c =>
      .error (bytes "invalid character '" ++ [c] ++ bytes "' in type string " ++ inEscapes whole)

/-- The formats that letters of their own ask for. -/
def shortFormats : List (String × DumpFormat) :=
  [("a", { kind := .named }), ("b", { kind := .octal }), ("B", { kind := .octal, size := 2 }),
    ("c", { kind := .character }), ("d", { kind := .unsigned, size := 2 }),
    ("D", { kind := .unsigned, size := 4 }), ("h", { kind := .hexadecimal, size := 2 }),
    ("H", { kind := .hexadecimal, size := 4 }), ("i", { kind := .signed, size := 4 }),
    ("I", { kind := .signed, size := 8 }), ("l", { kind := .signed, size := 8 }),
    ("L", { kind := .signed, size := 8 }), ("o", { kind := .octal, size := 2 }),
    ("O", { kind := .octal, size := 4 }), ("s", { kind := .signed, size := 2 }),
    ("x", { kind := .hexadecimal, size := 2 }), ("X", { kind := .hexadecimal, size := 4 })]

def dumpTable : OptionTable where
  letters := "A:aBbcDdHhIij:LlN:OosS::t:vw::Xx"
  names := [("skip-bytes", "j"), ("address-radix", "A"), ("read-bytes", "N"), ("format", "t"),
    ("output-duplicates", "v"), ("width", "w")]

def dumpFault? (_ : Shell) (o : GivenOption) : Option (List Char) :=
  let number (v : List Char) : Option (List Char) :=
    if (sizeOf? v).isSome then none
    else some (bytes ("invalid -" ++ o.key ++ " argument ") ++ inEscapes v)
  match o.key, o.value with
  | "A", some v =>
    if v.head?.any (bytes "doxn").contains then none
    else some (bytes "invalid output address radix '" ++ v.take 1 ++
      bytes "'; it must be one character from [doxn]")
  | "t", some v =>
    match dumpFormats v (v.length + 1) v with
    | .error message => some message
    | .ok _ => none
  | "j", some v | "N", some v | "w", some v => number v
  | _, _ => none

/-- The formats that options ask for. -/
def formatsOf (os : List GivenOption) : List DumpFormat :=
  let all := os.flatMap fun o =>
    match o.key, o.value with
    | "t", some v => (dumpFormats v (v.length + 1) v).toOption.getD []
    | key, _ => (shortFormats.lookup key).toList
  if all.isEmpty then [{ kind := .octal, size := 2 }] else all

/-! ### The program -/

/-- An address as it stands in front of a block. -/
def addressText (radix : Char) (n : Nat) : List Char :=
  match radix with
  | 'd' => DumpFormat.digits 10 7 n
  | 'x' => DumpFormat.digits 16 6 n
  | 'n' => []
  | _ => DumpFormat.digits 8 7 n

/-- The blocks of a text. The number bounds them. -/
def blocksOf (length : Nat) : Nat → List Char → List (List Char)
  | 0, _ => []
  | _, [] => []
  | n + 1, cs => cs.take length :: blocksOf length n (cs.drop length)

/-- Blocks as they are written, each at its address. -/
def dumped (formats : List DumpFormat) (radix : Char) (length start : Nat) (showsAll : Bool)
    (cs : List Char) : List Char :=
  let room := (formats.map fun f => (f.width + 1) * (length / f.size)).foldl max 0
  let step (acc : List Char × Option (List Char) × Bool × Nat) (b : List Char) :
      List Char × Option (List Char) × Bool × Nat :=
    let (out, before, isSkipping, address) := acc
    let next := address + b.length
    if !showsAll && before = some b && b.length = length then
      (if isSkipping then out else out ++ ['*', '\n'], before, true, next)
    else
      let front := addressText radix address
      let blank := List.replicate front.length ' '
      let lines := formats.zipIdx.flatMap fun (f, n) =>
        (if n = 0 then front else blank) ++ f.block length room b ++ ['\n']
      (out ++ lines, some b, false, next)
  let blocks := blocksOf length (cs.length + 1) cs
  let (out, _, _, address) := blocks.foldl step ([], none, false, start)
  out ++ (if radix = 'n' then [] else addressText radix address ++ ['\n'])

def dump : Builtin := withOptions "od" 1 dumpTable dumpFault? fun os sh names =>
  let formats := formatsOf os
  let unit := (formats.map DumpFormat.size).foldl max 1
  let asked := if givenIn os "w" then ((lastValue? os "w").bind sizeOf?).getD 32 else 16
  let isFit := 0 < asked && asked % unit = 0
  let length := if isFit then asked else unit
  let sh := if isFit then sh.withStatus 0
    else complain sh "od" (bytes "warning: invalid width " ++ numeral asked ++ bytes "; using " ++
      numeral length ++ bytes " instead") 0
  let (loaded, sh) := load sh names
  let isThere (r : Except PathFault (List Char)) : Bool :=
    match r with
    | .error .isDirectory | .ok _ => true
    | .error _ => false
  let sh := loaded.foldl (fun (sh : Shell) (name, r) =>
    match r with
    | .ok _ => sh
    | .error f => complain sh "od" (plainFault name f) 1) sh
  let start := ((lastValue? os "j").bind sizeOf?).getD 0
  let all := loaded.flatMap fun l => l.2.toOption.getD []
  let kept := match (lastValue? os "N").bind sizeOf? with
    | some n => (all.drop start).take n
    | none => all.drop start
  if !loaded.any fun l => isThere l.2 then sh
  else if all.length < start then
    complain sh "od" (bytes "cannot skip past end of combined input") 1
  else
    let radix := ((lastValue? os "A").bind List.head?).getD 'o'
    sh.print (dumped formats radix length start (givenIn os "v") kept)

end Utility

end Crond.Script
