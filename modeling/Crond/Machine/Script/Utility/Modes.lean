import Crond.Machine.Files.Rights
import Crond.Machine.Script.Utility.Places

/-
  The program `chmod`, which changes the rights of files.
-/

namespace Crond.Script

open Text Files

namespace Utility

/-- The options, among them those that begin as taking away rights does. -/
def modesTable : OptionTable where
  letters := "Rcfvr::w::x::X::s::t::u::g::o::a::,::+::=::0::1::2::3::4::5::6::7::"
  names := [("changes", "c"), ("recursive", "R"), ("no-preserve-root", ""), ("preserve-root", ""),
    ("quiet", "f"), ("reference", ":"), ("silent", "f"), ("verbose", "v")]

/-- Changes without a word of their own: options that are none. -/
def modeOption? (o : GivenOption) : Option (List Char) :=
  if o.key.length = 1 && o.key ∉ ["R", "c", "f", "v"] then
    some ('-' :: bytes o.key ++ o.value.getD [])
  else none

/-- How rights change, and what is told of it. -/
structure ModeChange where
  changes : List Rights.Change
  tellsAll : Bool
  tellsChanges : Bool
  isQuiet : Bool
  /-- Whether it is a surprise if a mask keeps rights from being taken away. -/
  isSurprised : Bool

/-- Changes the rights of what is at a place, which goes by a name. -/
def ModeChange.apply (m : ModeChange) (name : Name) (p : Place) (sh : Shell) : Shell :=
  match sh.files.item? p with
  | none => sh
  | some item =>
    let isDirectory := item.node = .directory
    let after := Rights.changed isDirectory sh.mask m.changes item.rights
    let shown (rights : Nat) : List Char := Rights.digits rights ++ bytes " (" ++
      Rights.text rights ++ [')']
    let told :=
      if after ≠ item.rights && (m.tellsAll || m.tellsChanges) then
        bytes "mode of " ++ inQuotes name ++ bytes " changed from " ++ shown item.rights ++
          bytes " to " ++ shown after ++ ['\n']
      else if m.tellsAll then
        bytes "mode of " ++ inQuotes name ++ bytes " retained as " ++ shown after ++ ['\n']
      else []
    let sh := { sh with files := sh.files.adjust p fun i => { i with rights := after } }.print told
    let expected := Rights.changed isDirectory 0 m.changes item.rights
    if m.isSurprised && Rights.without after expected ≠ 0 then
      complain sh "chmod" (shownName name ++ bytes ": new permissions are " ++ Rights.text after ++
        bytes ", not " ++ Rights.text expected) 1
    else sh

/-- Changes the rights of what a name leads to, and of all below it if that is asked for. -/
def ModeChange.applyTo (m : ModeChange) (isDeep : Bool) (sh : Shell) (name : Name) : Shell :=
  let failing (message : List Char) : Shell :=
    let sh := if m.isQuiet then sh.withStatus 1 else complain sh "chmod" message 1
    if m.tellsAll then sh.print (inQuotes name ++ bytes " could not be accessed\n") else sh
  match sh.files.resolve sh.directory name with
  | .error f => failing (quotedFault "cannot access" name f)
  | .ok p =>
    match sh.files.node? p with
    | none =>
      let isLink := ((sh.files.resolveLink sh.directory name).toOption.bind sh.files.node?).isSome
      if isLink then failing (bytes "cannot operate on dangling symlink " ++ inQuotes name)
      else failing (quotedFault "cannot access" name .missing)
    | some _ =>
      let found := if isDeep then sh.files.below p else (sh.files.below p).take 1
      found.foldl (fun (sh : Shell) (way, item) =>
        let shown := if way.isEmpty then name else within name way
        match item.node with
        | .link _ =>
          if m.tellsAll then
            sh.print (bytes "neither symbolic link " ++ inQuotes shown ++
              bytes " nor referent has been changed\n")
          else sh
        | _ => m.apply shown (p ++ way) sh) sh

/-- The program `chmod`. -/
def changeModes : Builtin := withOptions "chmod" 1 modesTable faultless fun os sh args =>
  let dashed := os.filterMap modeOption?
  let apply (changes : List Rights.Change) (names : List Name) : Shell :=
    let m : ModeChange :=
      { changes
        tellsAll := givenIn os "v"
        tellsChanges := givenIn os "c"
        isQuiet := givenIn os "f"
        isSurprised := !dashed.isEmpty }
    forAll sh names (m.applyTo (givenIn os "R"))
  let reading (mode : List Char) (names : List Name) : Shell :=
    match names, Rights.ofText? mode with
    | [], _ =>
      let what := if dashed.isEmpty then "operand after " else "operand"
      missingOperand sh "chmod"
        (bytes what ++ if dashed.isEmpty then inEscapes mode else [])
    | _, none => misused sh "chmod" (bytes "invalid mode: " ++ inEscapes mode) 1
    | names, some changes => apply changes names
  match lastValue? os "reference", dashed, args with
  | some model, _, names =>
    match names, sh.files.findItem sh.directory model with
    | [], _ => missingOperand sh "chmod" (bytes "operand")
    | _, .error f => complain sh "chmod" (quotedFault "failed to get attributes of" model f) 1
    | names, .ok item => apply (Rights.exactly item.rights) names
  | none, _ :: _, names => reading ([','].intercalate dashed) names
  | none, [], mode :: names => reading mode names
  | none, [], [] => missingOperand sh "chmod" (bytes "operand")

end Utility

end Crond.Script
