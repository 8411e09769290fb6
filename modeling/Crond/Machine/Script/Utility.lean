import Crond.Machine.Script.Builtin
import Crond.Machine.Script.Utility.Cat
import Crond.Machine.Script.Utility.Echo
import Crond.Machine.Script.Utility.Editing
import Crond.Machine.Script.Utility.Dump
import Crond.Machine.Script.Utility.Environment
import Crond.Machine.Script.Utility.Expression
import Crond.Machine.Script.Utility.Folding
import Crond.Machine.Script.Utility.Characters
import Crond.Machine.Script.Utility.Clock
import Crond.Machine.Script.Utility.Columns
import Crond.Machine.Script.Utility.Copying
import Crond.Machine.Script.Utility.Counting
import Crond.Machine.Script.Utility.Identity
import Crond.Machine.Script.Utility.Links
import Crond.Machine.Script.Utility.Listing
import Crond.Machine.Script.Utility.Making
import Crond.Machine.Script.Utility.Merging
import Crond.Machine.Script.Utility.Modes
import Crond.Machine.Script.Utility.Numbering
import Crond.Machine.Script.Utility.Part
import Crond.Machine.Script.Utility.Paths
import Crond.Machine.Script.Utility.Removal
import Crond.Machine.Script.Utility.Repetition
import Crond.Machine.Script.Utility.Reversal
import Crond.Machine.Script.Utility.Search
import Crond.Machine.Script.Utility.Sequence
import Crond.Machine.Script.Utility.Sorting
import Crond.Machine.Script.Utility.Stamps
import Crond.Machine.Script.Utility.Status
import Crond.Machine.Script.Utility.Tee

/-
  The programs that a script can count on and that run no other program. Each runs in a process of
  its own.
-/

namespace Crond.Script

open Text

namespace Utility

/-- How many seconds a letter behind a number stands for. -/
def unitOf? (cs : List Char) : Option Nat :=
  match cs with
  | [] | ['s'] => some 1
  | ['m'] => some 60
  | ['h'] => some 3600
  | ['d'] => some 86400
  | _ => none

/-- The time that an argument of `sleep` means, in milliseconds. -/
def durationOf? (cs : List Char) : Option Nat :=
  match floatingAt? cs with
  | none => none
  | some (f, rest) =>
    match unitOf? rest, f.magnitude with
    | none, _ | _, .notNumber => none
    | some _, .infinite => if f.isNegative then none else some forever
    | some unit, .finite mantissa exponent =>
      let (a, b) := Magnitude.quotient mantissa exponent
      if f.isNegative && a ≠ 0 then none else some (min forever (1000 * unit * a / b))

def sleepTable : OptionTable where
  letters := ""
  names := []

def sleepFor : Builtin := withOptions "sleep" 1 sleepTable faultless fun _ sh args =>
  match args.filter fun a => (durationOf? a).isNone with
  | [] => (sh.sleep ((args.filterMap durationOf?).foldl (· + ·) 0)).withStatus 0
  | bad =>
    let invalid (a : List Char) : List Char := bytes "invalid time interval " ++ inEscapes a
    let front := bad.dropLast.foldl (fun sh a => complain sh "sleep" (invalid a) 1) sh
    complain front "sleep" (invalid (bad.getLastD []) ++ hint sh "sleep") 1

def sleep : Builtin := fun sh args =>
  if args.isEmpty then missingOperand sh "sleep" (bytes "operand") else sleepFor sh args

end Utility

/-- The programs that run no other program. -/
def utility? (name : List Char) : Option Builtin :=
  match String.ofList name with
  | "cat" => some Utility.cat
  | "tac" => some Utility.tac
  | "rev" => some Utility.rev
  | "head" => some Utility.head
  | "tail" => some Utility.tail
  | "wc" => some Utility.wc
  | "sort" => some Utility.sort
  | "uniq" => some Utility.uniq
  | "cmp" => some Utility.cmp
  | "tr" => some Utility.tr
  | "cut" => some Utility.cut
  | "comm" => some Utility.comm
  | "od" => some Utility.dump
  | "fold" => some Utility.fold
  | "nl" => some Utility.numberLines
  | "paste" => some Utility.paste
  | "seq" => some Utility.seq
  | "grep" => some Utility.grep
  | "sed" => some Utility.sed
  | "touch" => some Utility.touch
  | "mkdir" => some Utility.makeDirectory
  | "mkfifo" => some Utility.makePipe
  | "ln" => some Utility.makeLinks
  | "link" => some Utility.makeLink
  | "unlink" => some Utility.unlink
  | "rmdir" => some Utility.removeDirectory
  | "rm" => some Utility.remove
  | "cp" => some (Utility.transfer "cp" false)
  | "mv" => some (Utility.transfer "mv" true)
  | "tee" => some Utility.tee
  | "chmod" => some Utility.changeModes
  | "ls" => some Utility.list
  | "stat" => some Utility.stat
  | "pwd" => some Utility.workingDirectory
  | "basename" => some Utility.baseName
  | "dirname" => some Utility.directoryName
  | "readlink" => some Utility.readLink
  | "realpath" => some Utility.realPath
  | "sleep" => some Utility.sleep
  | "printenv" => some Utility.printEnvironment
  | "expr" => some Utility.expr
  | "yes" => some Utility.yes
  | "uname" => some Utility.systemName
  | "arch" => some Utility.architecture
  | "id" => some Utility.identify
  | "groups" => some Utility.listGroups
  | "whoami" => some Utility.userName
  | "logname" => some Utility.loginName
  | "tty" => some Utility.terminal
  | "date" => some Utility.date
  | "true" => some Builtin.succeed
  | "echo" => some Utility.echo
  | "false" | "printf" | "test" | "[" | "kill" => builtin? name
  | _ => none

end Crond.Script
