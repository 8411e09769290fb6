import Crond.Machine.Script.Utility.Basic

/-
  The programs that tell who runs them and where: `id`, `groups`, `whoami`, `logname`, `tty`,
  `uname` and `arch`. Everything runs for the user with all rights, away from any terminal.
-/

namespace Crond.Script

open Text Files

namespace Utility

/-! ### Users -/

/-- The name of a group. -/
def groupName (n : Nat) : List Char :=
  if n = 65534 then bytes "nogroup"
  else (((Files.users.find? fun u => u.number = n).or
    (Files.users.find? fun u => u.group = n)).map fun u => bytes u.name).getD (numeral n)

/-- The user that a name or a number means. -/
def user? (name : List Char) : Option User :=
  (Files.users.find? fun u => bytes u.name = name).or
    ((Builtin.natural? name).bind fun n => Files.users.find? fun u => u.number = n)

/-- All that is told of a user. -/
def identity (u : User) : List Char :=
  let part (title : String) (n : Nat) (name : List Char) : List Char :=
    bytes title ++ '=' :: numeral n ++ '(' :: name ++ [')']
  part "uid" u.number (bytes u.name) ++ ' ' :: part "gid" u.group (groupName u.group) ++
    ' ' :: part "groups" u.group (groupName u.group)

def identityTable : OptionTable where
  letters := "agGnruzZ"
  names := [("group", "g"), ("groups", "G"), ("name", "n"), ("real", "r"), ("user", "u"),
    ("zero", "z"), ("context", "Z")]

/-- Tells about the users that names mean. -/
def forUsers (program : String) (sh : Shell) (names : List Name) (told : User → List Char) :
    Shell :=
  forAll sh names fun sh name =>
    match user? name with
    | some u => sh.print (told u)
    | none => complain sh program (inEscapes name ++ bytes ": no such user") 1

def identify : Builtin := withOptions "id" 1 identityTable faultless fun os sh names =>
  let kinds := ["u", "g", "G"].filter (givenIn os)
  let mark := if givenIn os "z" then '\x00' else '\n'
  let told (u : User) : List Char :=
    match kinds with
    | ["u"] => if givenIn os "n" then bytes u.name else numeral u.number
    | [_] => if givenIn os "n" then groupName u.group else numeral u.group
    | _ => identity u
  if givenIn os "Z" then
    complain sh "id" (bytes "--context (-Z) works only on an SELinux-enabled kernel") 1
  else if 1 < kinds.length then
    complain sh "id" (bytes "cannot print \"only\" of more than one choice") 1
  else if kinds.isEmpty && (givenIn os "r" || givenIn os "n") then
    complain sh "id" (bytes "cannot print only names or real IDs in default format") 1
  else if kinds.isEmpty && givenIn os "z" then
    complain sh "id" (bytes "option --zero not permitted in default format") 1
  else forUsers "id" sh (if names.isEmpty then [bytes "root"] else names) fun u => told u ++ [mark]

def listGroups : Builtin := withOptions "groups" 1 { letters := "" } faultless fun _ sh names =>
  if names.isEmpty then (sh.printLine (groupName 0)).withStatus 0
  else forUsers "groups" sh names fun u =>
    bytes u.name ++ bytes " : " ++ groupName u.group ++ ['\n']

/-- A program that has no options and no operands. -/
def withoutOperands (program : String) (status : Nat) (k : Shell → Shell) : Builtin :=
  withOptions program status { letters := "" } faultless fun _ sh names =>
    match names with
    | operand :: _ => extraOperand sh program operand status
    | [] => k (sh.withStatus 0)

def userName : Builtin := withoutOperands "whoami" 1 fun sh => sh.printLine (bytes "root")

def loginName : Builtin := withoutOperands "logname" 1 fun sh =>
  complain sh "logname" (bytes "no login name") 1

/-! ### The machine -/

def terminal : Builtin :=
  withOptions "tty" 2 { letters := "s", names := [("silent", "s"), ("quiet", "s")] } faultless
    fun os sh names =>
      match names with
      | operand :: _ => extraOperand sh "tty" operand 2
      | [] => (if givenIn os "s" then sh else sh.printLine (bytes "not a tty")).withStatus 1

def machine : String := "x86_64"

def architecture : Builtin := withoutOperands "arch" 1 fun sh => sh.printLine (bytes machine)

def systemTable : OptionTable where
  letters := "asnrvmpio"
  names := [("all", "a"), ("kernel-name", "s"), ("sysname", "s"), ("nodename", "n"),
    ("kernel-release", "r"), ("release", "r"), ("kernel-version", "v"), ("machine", "m"),
    ("processor", "p"), ("hardware-platform", "i"), ("operating-system", "o")]

/-- What there is to tell about the system, each with the letter that asks for it. -/
def systemParts : List (String × String) :=
  [("s", "Linux"), ("n", "localhost"), ("r", "6.1.0"), ("v", "#1 SMP"), ("m", machine),
    ("p", machine), ("i", machine), ("o", "GNU/Linux")]

def systemName : Builtin := withOptions "uname" 1 systemTable faultless fun os sh names =>
  match names with
  | operand :: _ => extraOperand sh "uname" operand 1
  | [] =>
    let isAsked (letter : String) : Bool :=
      givenIn os letter || givenIn os "a" || (os.isEmpty && letter = "s")
    let parts := (systemParts.filter fun p => isAsked p.1).map fun p => bytes p.2
    (sh.printLine ([' '].intercalate parts)).withStatus 0

end Utility

end Crond.Script
