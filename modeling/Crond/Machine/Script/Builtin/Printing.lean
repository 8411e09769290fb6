import Crond.Machine.Script.Builtin.Basic
import Crond.Machine.Script.Condition
import Crond.Machine.Script.Format

/-
  The commands of a shell that print and test.
-/

namespace Crond.Script

open Text

namespace Builtin

def echo : Builtin := fun sh args => (sh.print (Format.echo args)).withStatus 0

def printf : Builtin := withOptions "" "" fun _ sh args =>
  match args with
  | [] => sh.fail (bytes "usage: printf format [arg ...]")
  | format :: args =>
    let p := Format.printf format args
    let sh := p.complaints.foldl (fun (sh : Shell) (arg, d) =>
      let subject := if arg.isEmpty then [] else arg ++ [':', ' ']
      sh.complain (subject ++ bytes d.text)) (sh.print p.out)
    let isBroken := p.complaints.any fun c => c.2.isFinal
    sh.withStatus (if isBroken then 2 else if p.complaints.isEmpty then 0 else 1)

def test (words : List (List Char)) : Shell → Shell := fun sh =>
  match Condition.evaluate sh words with
  | .ok b => sh.withStatus (if b then 0 else 1)
  | .error c => sh.fail c

def bracket : Builtin := fun sh args =>
  if args.getLast? = some [']'] then test args.dropLast sh else sh.fail (bytes "missing ]")

end Builtin

end Crond.Script
