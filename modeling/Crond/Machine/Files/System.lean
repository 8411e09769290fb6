import Crond.Machine.Files.Tree
import Crond.Text.Numeral

/-
  What every machine has: the usual directories, and the programs in them.

  A program is looked for in the directories of a search path, in order. A file that is there but
  cannot be run does not end the search, but if nothing better is found it is what the search fails
  with; otherwise the search fails as its last directory did.
-/

namespace Crond.Files

/-- The programs that come with the system. -/
def programs : List Name :=
  (["sh", "dash", "cat", "sleep", "env", "printenv", "seq", "head", "tail", "wc", "sort", "uniq",
    "tr", "cut", "grep", "sed", "basename", "dirname", "mkdir", "rmdir", "rm", "touch", "cp", "mv",
    "tee", "expr", "ls", "chmod", "tac", "rev", "true", "false", "echo", "printf", "test", "[",
    "pwd", "kill", "yes", "uname", "timeout", "nohup", "nice", "xargs", "date", "id", "whoami",
    "which", "cmp", "bash", "paste", "readlink", "realpath", "mkfifo", "unlink", "ln", "link",
    "arch", "groups", "logname", "tty", "comm", "fold", "nl", "od",
    "find", "stat"].map Text.bytes)

def programDirectories : List Place :=
  [["bin"], ["usr", "bin"]].map fun p => p.map Text.bytes

def directories : List Place :=
  ([["bin"], ["boot"], ["dev"], ["dev", "shm"], ["dev", "fd"], ["etc"], ["home"], ["lib"],
    ["media"], ["mnt"], ["opt"], ["proc"], ["proc", "self"], ["proc", "self", "fd"], ["root"],
    ["run"], ["sbin"], ["srv"], ["sys"], ["tmp"], ["usr"], ["usr", "bin"], ["usr", "include"],
    ["usr", "lib"], ["usr", "local"], ["usr", "local", "bin"], ["usr", "local", "sbin"],
    ["usr", "sbin"], ["usr", "share"], ["usr", "src"], ["var"], ["var", "log"],
    ["var", "tmp"]] : List (List String)).map fun p => p.map Text.bytes

/-- The devices. A program that is given nothing to read reads from one that has nothing. -/
def devices : List (List String × Device) :=
  [(["dev", "null"], .null), (["dev", "stdin"], .null), (["dev", "fd", "0"], .null),
   (["proc", "self", "fd", "0"], .null), (["dev", "zero"], .zero), (["dev", "random"], .zero),
   (["dev", "urandom"], .zero), (["dev", "full"], .full), (["dev", "tty"], .terminal)]

structure User where
  name : String
  number : Nat
  group : Nat
  title : String
  home : String
  deriving DecidableEq, Repr

/-- The users of the system. -/
def users : List User :=
  [⟨"root", 0, 0, "root", "/root"⟩, ⟨"daemon", 1, 1, "daemon", "/usr/sbin"⟩,
   ⟨"bin", 2, 2, "bin", "/bin"⟩, ⟨"sys", 3, 3, "sys", "/dev"⟩,
   ⟨"sync", 4, 65534, "sync", "/bin"⟩, ⟨"games", 5, 60, "games", "/usr/games"⟩,
   ⟨"man", 6, 12, "man", "/var/cache/man"⟩, ⟨"lp", 7, 7, "lp", "/var/spool/lpd"⟩,
   ⟨"mail", 8, 8, "mail", "/var/mail"⟩, ⟨"news", 9, 9, "news", "/var/spool/news"⟩,
   ⟨"uucp", 10, 10, "uucp", "/var/spool/uucp"⟩, ⟨"proxy", 13, 13, "proxy", "/bin"⟩,
   ⟨"www-data", 33, 33, "www-data", "/var/www"⟩,
   ⟨"backup", 34, 34, "backup", "/var/backups"⟩,
   ⟨"list", 38, 38, "Mailing List Manager", "/var/list"⟩, ⟨"irc", 39, 39, "ircd", "/run/ircd"⟩,
   ⟨"_apt", 42, 65534, "", "/nonexistent"⟩,
   ⟨"nobody", 65534, 65534, "nobody", "/nonexistent"⟩]

/-- The shell that a user gets. -/
def User.shell (u : User) : String :=
  if u.name = "root" then "/bin/bash"
  else if u.name = "sync" then "/bin/sync"
  else "/usr/sbin/nologin"

/-- The line of the table of users that tells about one. -/
def User.line (u : User) : List Char :=
  let number (n : Nat) : List Char := Text.numeral n
  [':'].intercalate [Text.bytes u.name, ['x'], number u.number, number u.group,
    Text.bytes u.title, Text.bytes u.home, Text.bytes u.shell] ++ ['\n']

/-- The files that tell about the system. -/
def tables : List (String × List Char) :=
  [("passwd", users.flatMap User.line),
   ("group", users.flatMap fun u =>
      Text.bytes u.name ++ [':', 'x', ':'] ++ Text.numeral u.number ++ [':', '\n']),
   ("hosts", Text.bytes "127.0.0.1\tlocalhost\n"), ("hostname", Text.bytes "localhost\n"),
   ("shells", Text.bytes "/bin/sh\n/usr/bin/sh\n/bin/bash\n/usr/bin/bash\n"),
   ("resolv.conf", []), ("fstab", []), ("profile", []), ("environment", [])]

/-- The rights of a directory. Where everybody keeps files, only owners remove theirs. -/
def directoryRights (p : Place) : Nat :=
  if p.getLast?.any fun n => n = Text.bytes "tmp" || n = Text.bytes "shm" then 1023
  else Tree.fullRights

/-- The tree of a machine on which nothing else has been put. -/
def system : Tree :=
  Tree.ofList (directories.map (fun d => (d, .directory, directoryRights d)) ++
    (programDirectories.flatMap fun d =>
      programs.map fun n => (d ++ [n], Node.program, Tree.fullRights)) ++
    (devices.map fun d => (d.1.map Text.bytes, Node.device d.2, 438)) ++
    (tables.map fun t =>
      ([Text.bytes "etc", Text.bytes t.1], Node.file t.2, Tree.plainRights)))

/-- Whether somebody may run a file, or enter a directory. -/
def Item.isExecutable (i : Item) : Bool := i.rights &&& 73 ≠ 0

/-- Why a program cannot be run. -/
def Tree.runnable (t : Tree) (base : Place) (path : Name) : Except PathFault Place := do
  let p ← t.resolve base path
  match t.item? p with
  | some ⟨.program, _, _⟩ => .ok p
  | some ⟨.file cs, rights, modified⟩ =>
    if Item.isExecutable ⟨.file cs, rights, modified⟩ then .ok p else .error .denied
  | some _ => .error .denied
  | none => .error .missing

/-- The directories of a search path. An empty one is the working directory. -/
def searchDirectories (path : List Char) : List Name := path.splitOn ':'

/-- The path of a name in a directory of a search path. -/
def inDirectory (directory name : Name) : Name :=
  if directory = [] then name else directory ++ '/' :: name

/-- Searches directories for a program; the first argument is what the search fails with so far. -/
def Tree.search (t : Tree) (base : Place) (name : Name) :
    PathFault → List Name → Except PathFault Place
  | failure, [] => .error failure
  | failure, d :: ds =>
    match t.runnable base (inDirectory d name) with
    | .ok p => .ok p
    | .error f => t.search base name (if failure = .denied then failure else f) ds

/-- The search path that holds where none is set. -/
def usualSearchPath : List Char := Text.bytes "/bin:/usr/bin"

def Tree.program? (t : Tree) (base : Place) (searchPath : Option (List Char)) (name : Name) :
    Except PathFault Place :=
  t.search base name .missing (searchDirectories (searchPath.getD usualSearchPath))

/-- The words of the system for a fault. -/
def PathFault.text : PathFault → String
  | missing => "No such file or directory"
  | notDirectory => "Not a directory"
  | isDirectory => "Is a directory"
  | denied => "Permission denied"
  | present => "File exists"
  | notEmpty => "Directory not empty"
  | tooManyLinks => "Too many levels of symbolic links"
  | nameTooLong => "File name too long"
  | notPermitted => "Operation not permitted"
  | invalid => "Invalid argument"
  | noDevice => "No such device or address"
  | noSpace => "No space left on device"
  | badDescriptor => "Bad file descriptor"
  | brokenPipe => "Broken pipe"

def PathFault.number : PathFault → Nat
  | missing => 2
  | noDevice => 6
  | badDescriptor => 9
  | noSpace => 28
  | brokenPipe => 32
  | notPermitted => 1
  | denied => 13
  | present => 17
  | nameTooLong => 36
  | notEmpty => 39
  | tooManyLinks => 40
  | notDirectory => 20
  | isDirectory => 21
  | invalid => 22

end Crond.Files
