import Crond.Machine.Script.Utility.Basic

/-
  The programs that take paths apart, and those that follow them: `basename`, `dirname`, `pwd`,
  `readlink` and `realpath`.
-/

namespace Crond.Script

open Text Files

namespace Utility

/-! ### Parts of a path -/

/-- The last part of a path. For a path of slashes alone that is one of them. -/
def lastPart (path : Name) : Name :=
  let bare := Tree.trimmed path
  if bare = ['/'] then bare else (bare.reverse.takeWhile (· ≠ '/')).reverse

/-- What stands in front of the last part of a path. -/
def frontPart (path : Name) : Name :=
  let way := ((Tree.trimmed path).reverse.dropWhile (· ≠ '/')).dropWhile (· = '/')
  if !way.isEmpty then way.reverse else if path.head? = some '/' then ['/'] else ['.']

/-- A name without an ending, unless it is nothing more than that. -/
def withoutEnding (ending name : Name) : Name :=
  if ending.isSuffixOf name && ending ≠ name && name ≠ ['/'] then
    name.take (name.length - ending.length)
  else name

/-- Prints paths, each with a mark behind it. -/
def printPaths (sh : Shell) (os : List GivenOption) (paths : List Name) : Shell :=
  (sh.print (closed (if givenIn os "z" then '\x00' else '\n') paths)).withStatus 0

def baseNameTable : OptionTable where
  letters := "as:z"
  names := [("multiple", "a"), ("suffix", "s"), ("zero", "z")]
  isMixed := false

def baseName : Builtin :=
  withOptions "basename" 1 baseNameTable faultless fun os sh args =>
    let ending := (lastValue? os "s").getD []
    match args with
    | [] => missingOperand sh "basename" (bytes "operand")
    | name :: more =>
      if givenIn os "a" || givenIn os "s" then
        printPaths sh os (args.map fun a => withoutEnding ending (lastPart a))
      else
        match more with
        | [] => printPaths sh os [lastPart name]
        | [ending] => printPaths sh os [withoutEnding ending (lastPart name)]
        | _ :: operand :: _ => extraOperand sh "basename" operand 1

def directoryNameTable : OptionTable where
  letters := "z"
  names := [("zero", "z")]
  isMixed := false

def directoryName : Builtin :=
  withOptions "dirname" 1 directoryNameTable faultless fun os sh args =>
    if args.isEmpty then missingOperand sh "dirname" (bytes "operand")
    else printPaths sh os (args.map frontPart)

/-! ### Following a path -/

def workingDirectoryTable : OptionTable where
  letters := "LP"
  names := [("logical", "L"), ("physical", "P")]

/-- The program `pwd`, which prints the path of the working directory. -/
def workingDirectory : Builtin :=
  withOptions "pwd" 1 workingDirectoryTable faultless fun os sh names =>
    let sh := sh.withStatus 0
    let sh := if names.isEmpty then sh
      else complain sh "pwd" (bytes "ignoring non-option arguments") 0
    let isPlain (path : List Char) : Bool :=
      path.head? = some '/' && (path.splitOn '/').all fun part =>
        part ≠ ['.'] && part ≠ ['.', '.']
    let given := (sh.get? (bytes "PWD")).filter fun path =>
      isPlain path && (sh.files.resolve sh.directory path).toOption = some sh.directory
    let isLogical := os.getLast?.any fun o => o.key = "L"
    sh.printLine (if isLogical then given.getD (Builtin.pathOf sh.directory)
      else Builtin.pathOf sh.directory)

/-- How much of a path must be there for it to be followed. -/
inductive Strictness where
  | all
  | allButLast
  | nothing
  deriving DecidableEq, Repr

/-- A path made plain, where nothing is behind what is not there. -/
def plainPlace (base : Place) (path : Name) : Place :=
  (path.splitOn '/').foldl (fun p part =>
    if part = [] || part = ['.'] then p
    else if part = ['.', '.'] then p.dropLast
    else p ++ [part]) (if path.head? = some '/' then [] else base)

/-- The place that a path leads to when as much of it is there as must be. -/
def followed (sh : Shell) (how : Strictness) (path : Name) : Except PathFault Place := do
  match how with
  | .all =>
    let p ← sh.files.resolve sh.directory path
    match sh.files.node? p with
    | none => .error .missing
    | some .directory => return p
    | some _ => if path.getLast? = some '/' then .error .notDirectory else return p
  | .allButLast =>
    let p ← sh.files.resolve sh.directory (Tree.trimmed path)
    match sh.files.node? p with
    | none | some .directory => return p
    | some _ => if path.getLast? = some '/' then .error .notDirectory else return p
  | .nothing =>
    if path.isEmpty then .error .missing
    else
      match sh.files.resolve sh.directory path with
      | .ok p => return p
      | .error _ => return plainPlace sh.directory path

def readLinkTable : OptionTable where
  letters := "efmnqsvz"
  names := [("canonicalize", "f"), ("canonicalize-existing", "e"), ("canonicalize-missing", "m"),
    ("no-newline", "n"), ("quiet", "q"), ("silent", "s"), ("verbose", "v"), ("zero", "z")]

def readLink : Builtin := withOptions "readlink" 1 readLinkTable faultless fun os sh names =>
  let how := os.foldl (fun how o =>
    match o.key with
    | "e" => some .all
    | "f" => some .allButLast
    | "m" => some .nothing
    | _ => how) (none : Option Strictness)
  let isLoud := os.foldl (fun on o =>
    if o.key = "v" then true else if o.key = "q" || o.key = "s" then false else on) false
  let goal (name : Name) : Except PathFault Name :=
    match how with
    | some how => (followed sh how name).map Builtin.pathOf
    | none => do
      let p ← sh.files.resolveLink sh.directory name
      match sh.files.node? p with
      | some (.link target) => return target
      | some _ => .error .invalid
      | none => .error .missing
  let isSingle := givenIn os "n" && names.length = 1
  let mark := if isSingle then [] else if givenIn os "z" then ['\x00'] else ['\n']
  let sh := if givenIn os "n" && 1 < names.length then
      complain sh "readlink" (bytes "ignoring --no-newline with multiple arguments") 0
    else sh
  if names.isEmpty then missingOperand sh "readlink" (bytes "operand")
  else forAll sh names fun sh name =>
    match goal name with
    | .ok target => sh.print (target ++ mark)
    | .error f =>
      if isLoud then complain sh "readlink" (plainFault name f) 1 else sh.withStatus 1

/-- A place as it is written from another place. -/
def relativePath (base p : Place) : Name :=
  let shared := ((base.zip p).takeWhile fun (a, b) => a = b).length
  let way := List.replicate (base.length - shared) ['.', '.'] ++ p.drop shared
  if way.isEmpty then ['.'] else ['/'].intercalate way

def realPathTable : OptionTable where
  letters := "eLmPqsz"
  names := [("canonicalize-existing", "e"), ("canonicalize-missing", "m"), ("logical", "L"),
    ("physical", "P"), ("quiet", "q"), ("strip", "s"), ("no-symlinks", "s"), ("zero", "z"),
    ("relative-to", ":"), ("relative-base", ":")]

def realPath : Builtin := withOptions "realpath" 1 realPathTable faultless fun os sh names =>
  let how := os.foldl (fun how o =>
    match o.key with
    | "e" => .all
    | "m" => .nothing
    | _ => how) Strictness.allButLast
  let goal (name : Name) : Except PathFault Place :=
    if givenIn os "s" && how = .nothing && !name.isEmpty then .ok (plainPlace sh.directory name)
    else if givenIn os "s" then do
      let _ ← followed sh how name
      return plainPlace sh.directory name
    else followed sh how name
  let base? := ((lastValue? os "relative-to").or (lastValue? os "relative-base")).bind fun b =>
    (goal b).toOption
  let limit? := (lastValue? os "relative-base").bind fun b => (goal b).toOption
  let shown (p : Place) : Name :=
    match base?, limit? with
    | some base, none => relativePath base p
    | some base, some limit =>
      if limit.isPrefixOf p && limit.isPrefixOf base then relativePath base p else Builtin.pathOf p
    | none, _ => Builtin.pathOf p
  let mark := if givenIn os "z" then ['\x00'] else ['\n']
  if names.isEmpty then missingOperand sh "realpath" (bytes "operand")
  else forAll sh names fun sh name =>
    match goal name with
    | .ok p => sh.print (shown p ++ mark)
    | .error f =>
      if givenIn os "q" then sh.withStatus 1 else complain sh "realpath" (plainFault name f) 1

end Utility

end Crond.Script
