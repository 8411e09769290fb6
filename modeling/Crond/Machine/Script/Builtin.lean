import Crond.Machine.Script.Builtin.Directory
import Crond.Machine.Script.Builtin.Jobs
import Crond.Machine.Script.Builtin.Letters
import Crond.Machine.Script.Builtin.Printing
import Crond.Machine.Script.Builtin.Reading
import Crond.Machine.Script.Builtin.Rights
import Crond.Machine.Script.Builtin.Variables

/-
  The commands that are part of a shell and run no other command.
-/

namespace Crond.Script

/-- The commands of a shell that run no other command. -/
def builtin? (name : List Char) : Option Builtin :=
  match String.ofList name with
  | "echo" => some Builtin.echo
  | "printf" => some Builtin.printf
  | ":" | "true" => some Builtin.succeed
  | "times" => some Builtin.times
  | "ulimit" => some Builtin.limits
  | "jobs" => some Builtin.listJobs
  | "fg" | "bg" => some Builtin.moveJob
  | "umask" => some Builtin.umask
  | "false" => some fun sh _ => sh.withStatus 1
  | "test" => some fun sh args => Builtin.test args sh
  | "[" => some Builtin.bracket
  | "cd" | "chdir" => some Builtin.cd
  | "pwd" => some Builtin.pwd
  | "export" => some Builtin.exportVariables
  | "readonly" => some Builtin.fixVariables
  | "unset" => some Builtin.unset
  | "local" => some Builtin.hideAll
  | "shift" => some Builtin.shift
  | "set" => some Builtin.setAny
  | "exit" => some Builtin.exit
  | "return" => some Builtin.giveBack
  | "break" => some (Builtin.leave .leaving)
  | "continue" => some (Builtin.leave .repeating)
  | "read" => some Builtin.read
  | "kill" => some Builtin.kill
  | "trap" => some Builtin.trap
  | "wait" => some Builtin.wait
  | "alias" => some Builtin.setAliases
  | "unalias" => some Builtin.dropAliases
  | "getopts" => some Builtin.nextOption
  | _ => none

end Crond.Script
