import Crond.Machine.Files.Rights
import Crond.Machine.Script.Utility.Places

/-
  The programs `mkdir` and `mkfifo`, which make directories and pipes with names.
-/

namespace Crond.Script

open Text Files

namespace Utility

/-- The rights that something new gets that a mode is given for, or why the mode is none. -/
def givenRights (sh : Shell) (os : List GivenOption) (isDirectory : Bool) (usual : Nat) :
    Except (List Char) Nat :=
  match lastValue? os "m" with
  | none => .ok (sh.allowed usual)
  | some mode =>
    match Rights.ofText? mode with
    | some changes => .ok (Rights.changed isDirectory sh.mask changes usual)
    | none => .error mode

def mkdirTable : OptionTable where
  letters := "pvm:Z"
  names := [("context", "::"), ("mode", "m"), ("parents", "p"), ("verbose", "v")]

/-- Makes a directory, and says so if that is asked for. -/
def newDirectory (tells : Bool) (sh : Shell) (name : Name) (p : Place) (rights : Nat) : Shell :=
  let made := withFiles sh (sh.files.put p .directory rights)
  if tells then
    made.printLine (ownName sh "mkdir" ++ bytes ": created directory " ++ inQuotes name)
  else made

/-- Makes a directory, and those on the way to it. The names so far are what is told. -/
def newDirectories (tells : Bool) (rights : Nat) (whole : Name) (sh : Shell) (base : Place)
    (sofar : Name) : List Name → Shell
  | [] => sh
  | part :: rest =>
    let name := sofar ++ part
    let cannot (f : PathFault) : Shell :=
      complain sh "mkdir"
        (quotedFault "cannot create directory" (if rest.isEmpty then whole else name) f) 1
    match sh.files.resolve base part with
    | .error f => cannot f
    | .ok q =>
      let isLast := rest.all fun r => r.isEmpty
      let further (sh : Shell) : Shell :=
        newDirectories tells rights whole sh q (name ++ ['/']) rest
      match sh.files.node? q with
      | some .directory => further sh
      | some _ => cannot (if isLast then .present else .notDirectory)
      | none =>
        let rights := if isLast then rights else sh.allowed 511 ||| 192
        further (newDirectory tells sh (if isLast then whole else name) q rights)

def makeDirectory : Builtin := withOptions "mkdir" 1 mkdirTable faultless fun os sh names =>
  let tells := givenIn os "v"
  if names.isEmpty then missingOperand sh "mkdir" (bytes "operand")
  else
    match givenRights sh os true 511 with
    | .error mode => complain sh "mkdir" (bytes "invalid mode " ++ inEscapes mode) 1
    | .ok rights =>
      forAll sh names fun sh name =>
        if givenIn os "p" && !name.isEmpty then
          let isRooted := name.head? = some '/'
          let front := name.takeWhile (· = '/')
          let parts := (Tree.trimmed name).splitOn '/' |>.filter (· ≠ [])
          newDirectories tells rights name sh (if isRooted then [] else sh.directory) front parts
        else
          match look sh (Tree.trimmed name) with
          | .ok (p, none) => newDirectory tells sh name p rights
          | .ok (_, some _) =>
            complain sh "mkdir" (quotedFault "cannot create directory" name .present) 1
          | .error f => complain sh "mkdir" (quotedFault "cannot create directory" name f) 1

def mkfifoTable : OptionTable where
  letters := "m:Z"
  names := [("context", "::"), ("mode", "m")]

def makePipe : Builtin := withOptions "mkfifo" 1 mkfifoTable faultless fun os sh names =>
  if names.isEmpty then missingOperand sh "mkfifo" (bytes "operand")
  else
    match givenRights sh os false 438 with
    | .error _ => complain sh "mkfifo" (bytes "invalid mode") 1
    | .ok rights =>
      forAll sh names fun sh name =>
        match lookAt sh name with
        | .ok (p, none) => withFiles sh (sh.files.put p (.pipe none) rights)
        | .ok (_, some _) => complain sh "mkfifo" (quotedFault "cannot create fifo" name .present) 1
        | .error f => complain sh "mkfifo" (quotedFault "cannot create fifo" name f) 1

end Utility

end Crond.Script
