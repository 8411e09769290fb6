import Crond.Machine.Script.Await

/-
  Reading from descriptors, writing to them, and messages.

  Whoever reads from a pipe waits for those who write to it, and the other way round. What is
  written to a pipe that nobody can read any more breaks it: that is a signal, or a fault if the
  signal does not end the writer.
-/

namespace Crond.Script

open Text Files

namespace Shell

/-! ### Writing -/

/-- Text written over other text from a position on. -/
def overwrite (old : List Char) (position : Nat) (cs : List Char) : List Char :=
  let front := old.take position
  front ++ List.replicate (position - front.length) '\x00' ++ cs ++ old.drop (position + cs.length)

/-- Puts text into a pipe, and waits for room behind it. -/
def fill (sh : Shell) (n : Nat) (cs : List Char) : Shell :=
  match sh.channels[n - 1]? with
  | some (.source s) =>
    let added := s.add cs
    let sh := sh.setChannel (n - 1) (.source added)
    if added.size < added.room then sh else sh.await (.room n) false
  | _ => sh

/-- Writes to a channel. -/
def writeTo (sh : Shell) (n : Nat) (c : Channel) (cs : List Char) : Shell :=
  match c with
  | .gathered writes => sh.setChannel n (.gathered (cs :: writes))
  | .file item position access =>
    let old := sh.files.textOf item
    let position := if access = .appending then old.length else position
    { sh with files := sh.files.refill item (overwrite old position cs) }.setChannel n
      (.file item (position + cs.length) access)
  | .sink => sh.fill n cs
  | .supply _ | .source _ | .null | .full => sh

/-- Why nothing can be written to a descriptor. -/
def writeFault? (sh : Shell) (descriptor : Nat) : Option PathFault :=
  match sh.channel? descriptor with
  | none | some (_, .supply _) | some (_, .source _) | some (_, .file _ _ .reading) =>
    some .badDescriptor
  | some (_, .full) => some .noSpace
  | some (n, .sink) => if n - 1 ∈ sh.heldByOthers then none else some .brokenPipe
  | some _ => none

/-- Whether this process ends if it writes to a descriptor. -/
def endsAtPipe (sh : Shell) (descriptor : Nat) : Bool :=
  sh.writeFault? descriptor = some .brokenPipe && isLethal sh.arrangements 13

/-- Writes to a descriptor. What cannot be written is lost. -/
def write (sh : Shell) (descriptor : Nat) (cs : List Char) : Shell :=
  if cs.isEmpty || sh.isPaused then sh
  else
    match sh.writeFault? descriptor, sh.channel? descriptor with
    | some .brokenPipe, _ => sh.receive 13
    | none, some (n, c) => sh.writeTo n c cs
    | _, _ => sh

def print (sh : Shell) (cs : List Char) : Shell := sh.write 1 cs

def printLine (sh : Shell) (cs : List Char) : Shell := sh.print (cs ++ ['\n'])

/-! ### Reading -/

/-- Whether there can be something to read from a descriptor. -/
def isReadable (sh : Shell) (descriptor : Nat) : Bool :=
  match sh.channel? descriptor with
  | none | some (_, .gathered _) | some (_, .sink) | some (_, .file _ _ .writing)
  | some (_, .file _ _ .appending) => false
  | some _ => true

/-- What there is to read from a descriptor as things are. -/
def unread (sh : Shell) (descriptor : Nat) : List Char :=
  match sh.channel? descriptor with
  | some (_, .supply text) => text
  | some (_, .source s) => s.text
  | some (_, .file _ _ .writing) | some (_, .file _ _ .appending) => []
  | some (_, .file item position _) => (sh.files.textOf item).drop position
  | _ => []

/-- Takes off some of what there is to read. -/
def consume (sh : Shell) (descriptor count : Nat) : Shell :=
  match sh.channel? descriptor with
  | some (n, .supply text) => sh.setChannel n (.supply (text.drop count))
  | some (n, .source s) => sh.setChannel n (.source (s.drop count))
  | some (n, .file item position access) =>
    sh.setChannel n (.file item (position + count) access)
  | _ => sh

/-- Waits for more to read than there is. The flag tells whether more can come. -/
def awaitMore (sh : Shell) (descriptor : Nat) : Shell × Bool :=
  match sh.channel? descriptor with
  | some (n, .source s) =>
    let eager := sh.setChannel n (.source { s with room := max s.room (s.size + 65536) })
    let after := eager.await (.input n s.size) false
    match after.channels[n]? with
    | some (.source t) => (after, s.size < t.size)
    | _ => (after, false)
  | _ => (sh, false)

/-- Waits until there is enough to read, or all there will be. The number bounds the waits. -/
def fetch (isEnough : List Char → Bool) (descriptor : Nat) : Nat → Shell → Shell
  | 0, sh => sh
  | n + 1, sh =>
    match sh.channel? descriptor with
    | some (_, .source s) =>
      if sh.isPaused || isEnough s.text then sh
      else
        match sh.awaitMore descriptor with
        | (after, true) => fetch isEnough descriptor n after
        | (after, false) => after
    | _ => sh

/-- As many waits as there can be for one text. -/
def waits : Nat := 100000

/-- What there will ever be to read from a descriptor. -/
def remaining (sh : Shell) (descriptor : Nat) : List Char × Shell :=
  match sh.channel? descriptor with
  | some (n, .source s) =>
    let eager := sh.setChannel n (.source { s with room := 1000000000 })
    let after := eager.await (.closing (n + 1)) false
    (after.unread descriptor, after)
  | _ => (sh.unread descriptor, sh)

/-- Reads all that is left. -/
def readAll (sh : Shell) (descriptor : Nat) : List Char × Shell :=
  let (cs, sh) := sh.remaining descriptor
  (cs, sh.consume descriptor cs.length)

/-- Hands on what there is to read, piece by piece, until there will be no more or the reader has
  come to an end. The number bounds the pieces. -/
def drain {α : Type} (act : Shell → α → List Char → Shell × α) (descriptor : Nat) :
    Nat → Shell → α → Shell × α
  | 0, sh, a => (sh, a)
  | n + 1, sh, a =>
    if !sh.goesOn then (sh, a)
    else
      match sh.unread descriptor with
      | [] =>
        match sh.awaitMore descriptor with
        | (sh, true) => drain act descriptor n sh a
        | (sh, false) => (sh, a)
      | cs =>
        let (sh, a) := act (sh.consume descriptor cs.length) a cs
        drain act descriptor n sh a

/-- What has been written to a channel. -/
def gathered (sh : Shell) (n : Nat) : List Char :=
  match sh.channels[n]? with
  | some (.gathered writes) => writes.reverse.flatten
  | _ => []

/-! ### Pipes with names -/

/-- Opens one end of a pipe that has a name, and waits until another process opens the other one. -/
def openPipe (sh : Shell) (descriptor : Nat) (p : Place) (isRead : Bool) : Shell :=
  let used := sh.heldByOthers ++ sh.opened
  let known := match sh.files.node? p with
    | some (.pipe (some n)) => if n ∈ used || n + 1 ∈ used then some n else none
    | _ => none
  let fresh := sh.channels.length
  let n := known.getD fresh
  let sh := match known with
    | some _ => sh
    | none =>
      { sh with
        channels := sh.channels ++ [Channel.source {}, .sink]
        files := sh.files.adjust p fun i => { i with node := .pipe (some n) } }
  if isRead then (sh.lead descriptor n).await (.opening (n + 1)) false
  else (sh.lead descriptor (n + 1)).await (.opening n) false

/-! ### Messages -/

/-- What every message of a shell begins with. -/
def messageHead (sh : Shell) : List Char :=
  let speaker := match sh.speaker with
    | some s => s ++ [':', ' ']
    | none => []
  sh.name ++ [':', ' '] ++ numeral sh.line ++ [':', ' '] ++ speaker

def complain (sh : Shell) (message : List Char) : Shell :=
  sh.write 2 (sh.messageHead ++ message ++ ['\n'])

/-- Complains about an error that ends the shell, or the command that speaks. -/
def fail (sh : Shell) (message : List Char) : Shell :=
  let sh := sh.complain message
  if sh.isPaused then sh else { sh with status := 2, course := .failed }

end Shell

end Crond.Script
