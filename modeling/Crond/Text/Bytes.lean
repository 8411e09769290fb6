/-
  Text as bytes. A byte is held as the character of its number, so that whoever works on bytes can
  do so with character lists.

  Where bytes are read as text, a sequence that is cut short or can never be completed stands as one
  replacement character, and reading goes on with the byte that does not fit.
-/

namespace Crond.Text

/-- The bytes of a text. -/
def bytes (s : String) : List Char := s.toUTF8.toList.map Char.ofUInt8

/-- Whether texts are in order, by their first difference. -/
def inOrder : List Char → List Char → Bool
  | [], _ => true
  | _ :: _, [] => false
  | c :: cs, d :: ds => c.toNat < d.toNat || c = d && inOrder cs ds

/-- A first byte of a character of several bytes: its range, the number it counts from, and the
  ranges of the bytes that follow it. -/
structure Lead where
  least : Nat
  most : Nat
  base : Nat
  followers : List (Nat × Nat)

def leads : List Lead :=
  let any := (0x80, 0xbf)
  [⟨0xc2, 0xdf, 0xc0, [any]⟩,
   ⟨0xe0, 0xe0, 0xe0, [(0xa0, 0xbf), any]⟩,
   ⟨0xe1, 0xec, 0xe0, [any, any]⟩,
   ⟨0xed, 0xed, 0xe0, [(0x80, 0x9f), any]⟩,
   ⟨0xee, 0xef, 0xe0, [any, any]⟩,
   ⟨0xf0, 0xf0, 0xf0, [(0x90, 0xbf), any, any]⟩,
   ⟨0xf1, 0xf3, 0xf0, [any, any, any]⟩,
   ⟨0xf4, 0xf4, 0xf0, [(0x80, 0x8f), any, any]⟩]

/-- Reading bytes as text: the characters so far, reversed, and the character that is begun. -/
structure Decoder where
  chars : List Char := []
  value : Nat := 0
  awaited : List (Nat × Nat) := []

def replacement : Char := '\ufffd'

/-- Takes a byte where a character begins. -/
def Decoder.begin (d : Decoder) (b : Nat) : Decoder :=
  if b < 0x80 then { chars := Char.ofNat b :: d.chars }
  else
    match leads.find? fun l => l.least ≤ b && b ≤ l.most with
    | some l => { chars := d.chars, value := b - l.base, awaited := l.followers }
    | none => { chars := replacement :: d.chars }

def Decoder.step (d : Decoder) (byte : Char) : Decoder :=
  let b := byte.toNat
  match d.awaited with
  | [] => d.begin b
  | (least, most) :: later =>
    if least ≤ b && b ≤ most then
      let value := d.value * 64 + (b - 0x80)
      if later.isEmpty then { chars := Char.ofNat value :: d.chars }
      else { d with value, awaited := later }
    else ({ chars := replacement :: d.chars } : Decoder).begin b

/-- The text that bytes spell. -/
def ofBytes (bs : List Char) : List Char :=
  let d := bs.foldl Decoder.step {}
  (if d.awaited.isEmpty then d.chars else replacement :: d.chars).reverse

end Crond.Text
