/-
  The command line: what the arguments and the environment ask for.

  Every argument is looked at, the first one and the values of options included. Help and version
  end the program, whichever comes first; the path options take the argument behind them, and of
  several the last one counts.
-/

namespace Crond.CommandLine

/-- A path that an option, an environment variable or a default can give. -/
structure PathSetting where
  flags : List String
  envName : String
  fallback : String
  deriving DecidableEq, Repr

def configSetting : PathSetting := ⟨["-c", "--config"], "SECONDHAND_CONFIG", "config.json"⟩

def jobsSetting : PathSetting := ⟨["-j", "--jobs"], "SECONDHAND_JOBS", "jobs.conf"⟩

/-- What the program shows instead of running. -/
inductive Page where
  | help
  | version
  deriving DecidableEq, Repr

/-- What is known of a build of the program: the commit it was made from, and the day. -/
structure Build where
  commit : String
  date : String
  deriving DecidableEq, Repr

/-- The lines of a page, as a build shows it. -/
def Page.text (b : Build) : Page → List String
  | help =>
    ["Usage:",
     "\tsecondhand [-c/--config /path/to/config.json] [-j/--jobs /path/to/jobs.conf] " ++
       "[-v/--verbose] [-V/--version] [-h/--help]"]
  | version => ["secondhand 0.1.0 (" ++ b.commit ++ " " ++ b.date ++ ")"]

/-- The page that an argument asks for. -/
def page? (arg : String) : Option Page :=
  if arg = "-h" || arg = "--help" then some .help
  else if arg = "-V" || arg = "--version" then some .version
  else none

def isVerbose (args : List String) : Bool := args.any fun a => a = "-v" || a = "--verbose"

/-- The argument behind the last of the flags that has one behind it. -/
def lastValue? (flags : List String) : List String → Option String
  | flag :: value :: rest =>
    (lastValue? flags (value :: rest)).or (if flag ∈ flags then some value else none)
  | [_] | [] => none

/-- The path of a setting as the arguments or the environment give it. -/
def PathSetting.given? (s : PathSetting) (args : List String) (env : String → Option String) :
    Option String :=
  (lastValue? s.flags args).or (env s.envName)

def PathSetting.path (s : PathSetting) (args : List String) (env : String → Option String) :
    String :=
  (s.given? args env).getD s.fallback

/-- What a verbose program remarks when a path falls back to its default. -/
def PathSetting.notice (s : PathSetting) : String :=
  s.envName ++ " is not set, defaulting to " ++ s.fallback

structure Options where
  isVerbose : Bool
  configPath : String
  jobsPath : String
  deriving DecidableEq, Repr

inductive Request where
  | page (p : Page)
  /-- To run, after the notices have been shown. -/
  | run (options : Options) (notices : List String)
  deriving DecidableEq, Repr

def resolve (args : List String) (env : String → Option String) : Request :=
  match args.findSome? page? with
  | some p => .page p
  | none =>
    let fallen := [configSetting, jobsSetting].filter fun s => (s.given? args env).isNone
    .run ⟨isVerbose args, configSetting.path args env, jobsSetting.path args env⟩
      (if isVerbose args then fallen.map PathSetting.notice else [])

end Crond.CommandLine
