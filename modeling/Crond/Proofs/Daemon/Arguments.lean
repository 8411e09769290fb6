import Crond.CommandLine
import Crond.Daemon.Boot

/-
  What the arguments and the environment ask for, by the places of the arguments.

  The library looks for pages, for verbosity and for each path apart. Going through the arguments
  once, place by place, and fetching the argument at the next place where an option stands, comes
  to the same and reads no place outside the list (`byPlaces_eq`). The outcome told by where the
  options stand, and what a daemon makes of it: `arguments_decide`.
-/

namespace Crond.CommandLine

/-! ## Place by place -/

/-- What the arguments before a place have given. -/
structure Found where
  isVerbose : Bool := false
  configPath : Option String := none
  jobsPath : Option String := none

/-- Where a walk along the arguments stands. -/
inductive Walk where
  | going (found : Found)
  | page (p : Page)
  /-- A place was read that is none of the list. -/
  | outside

/-- Whether a place comes before the last one, which an empty list does not have. -/
def isBeforeLast? (args : List String) (i : Nat) : Option Bool :=
  match args.length with
  | 0 => none
  | last + 1 => some (decide (i < last))

/-- Goes on with the argument behind a place, if the place has one behind it. -/
def takeNext (args : List String) (i : Nat) (found : Found) (put : String → Found) : Walk :=
  match isBeforeLast? args i with
  | none => .outside
  | some false => .going found
  | some true =>
    match args[i + 1]? with
    | none => .outside
    | some value => .going (put value)

/-- Looks at the argument at a place. -/
def lookAt (args : List String) : Walk → Nat → Walk
  | .going found, i =>
    match args[i]? with
    | none => .outside
    | some arg =>
      match page? arg with
      | some p => .page p
      | none =>
        if arg = "-v" || arg = "--verbose" then .going { found with isVerbose := true }
        else if arg = "-c" || arg = "--config" then
          takeNext args i found fun value => { found with configPath := some value }
        else if arg = "-j" || arg = "--jobs" then
          takeNext args i found fun value => { found with jobsPath := some value }
        else .going found
  | .page p, _ => .page p
  | .outside, _ => .outside

def walk (args : List String) : Walk := (List.range args.length).foldl (lookAt args) (.going {})

/-- The request of a walk along all places, if no place outside was read. -/
def byPlaces (args : List String) (env : String → Option String) : Option Request :=
  match walk args with
  | .outside => none
  | .page p => some (.page p)
  | .going found =>
    let config := found.configPath.or (env "SECONDHAND_CONFIG")
    let jobs := found.jobsPath.or (env "SECONDHAND_JOBS")
    let notice (name fallback : String) (path : Option String) :=
      if found.isVerbose && path.isNone then [name ++ " is not set, defaulting to " ++ fallback]
      else []
    some (.run ⟨found.isVerbose, config.getD "config.json", jobs.getD "jobs.conf"⟩
      (notice "SECONDHAND_CONFIG" "config.json" config ++
        notice "SECONDHAND_JOBS" "jobs.conf" jobs))

theorem isBeforeLast?_append (before : List String) (arg : String) (rest : List String) :
    isBeforeLast? (before ++ arg :: rest) before.length = some (decide (rest ≠ [])) := by
  have hlength : (before ++ arg :: rest).length = before.length + rest.length + 1 := by
    rw [List.length_append, List.length_cons, Nat.add_assoc]
  have hbehind : before.length < before.length + rest.length ↔ rest ≠ [] := by
    rw [← List.length_pos_iff]
    omega
  unfold isBeforeLast?
  rw [hlength]
  simp only [hbehind]

theorem takeNext_append (before : List String) (arg : String) (rest : List String) (found : Found)
    (put : String → Found) :
    takeNext (before ++ arg :: rest) before.length found put =
      .going (rest.head?.elim found put) := by
  unfold takeNext
  rw [isBeforeLast?_append]
  cases rest with
  | nil => rfl
  | cons value rest =>
    have hnext : (before ++ arg :: value :: rest)[before.length + 1]? = some value := by simp
    rw [hnext]
    rfl

/-- What an argument adds, given the one behind it. -/
def Found.extended (found : Found) (arg : String) (next : Option String) : Found where
  isVerbose := found.isVerbose || CommandLine.isVerbose [arg]
  configPath := (if arg ∈ configSetting.flags then next else none).or found.configPath
  jobsPath := (if arg ∈ jobsSetting.flags then next else none).or found.jobsPath

theorem isVerbose_singleton (arg : String) :
    isVerbose [arg] = (arg = "-v" || arg = "--verbose") := by
  unfold isVerbose
  rw [List.any_cons, List.any_nil, Bool.or_false]

theorem isVerbose_cons (arg : String) (rest : List String) :
    isVerbose (arg :: rest) = (isVerbose [arg] || isVerbose rest) := by
  unfold isVerbose
  rw [List.any_cons, List.any_cons, List.any_nil, Bool.or_false]

theorem mem_configSetting_flags {arg : String} :
    arg ∈ configSetting.flags ↔ (arg = "-c" || arg = "--config") = true := by
  simp [configSetting]

theorem mem_jobsSetting_flags {arg : String} :
    arg ∈ jobsSetting.flags ↔ (arg = "-j" || arg = "--jobs") = true := by
  simp [jobsSetting]

/-- No argument is an option of two kinds. -/
theorem flags_disjoint {arg : String} :
    ((arg = "-v" || arg = "--verbose") = true →
      arg ∉ configSetting.flags ∧ arg ∉ jobsSetting.flags) ∧
    (arg ∈ configSetting.flags → arg ∉ jobsSetting.flags) := by
  constructor
  · intro h
    rw [Bool.or_eq_true, decide_eq_true_eq, decide_eq_true_eq] at h
    obtain rfl | rfl := h <;> decide
  · intro h
    rw [configSetting, List.mem_cons, List.mem_singleton] at h
    obtain rfl | rfl := h <;> decide

/-- An argument at the head of a list counts least for the value of an option. -/
theorem lastValue?_cons (flags : List String) (arg : String) (rest : List String) :
    lastValue? flags (arg :: rest) =
      (lastValue? flags rest).or (if arg ∈ flags then rest.head? else none) := by
  cases rest with
  | nil => simp [lastValue?]
  | cons value rest => rw [lastValue?, List.head?_cons]

theorem lookAt_append (before : List String) (arg : String) (rest : List String) (found : Found) :
    lookAt (before ++ arg :: rest) (.going found) before.length =
      match page? arg with
      | some p => .page p
      | none => .going (found.extended arg rest.head?) := by
  have harg : (before ++ arg :: rest)[before.length]? = some arg := by simp
  obtain ⟨hverbose, hconfig⟩ := @flags_disjoint arg
  simp only [lookAt, harg, ← mem_configSetting_flags, ← mem_jobsSetting_flags]
  cases page? arg with
  | some p => rfl
  | none =>
    simp only [Found.extended, isVerbose_singleton, takeNext_append]
    split
    · rename_i hv
      obtain ⟨hc, hj⟩ := hverbose hv
      rw [hv, if_neg hc, if_neg hj, Bool.or_true]
      rfl
    · rename_i hv
      rw [Bool.eq_false_iff.mpr hv, Bool.or_false]
      split
      · rename_i hc
        rw [if_neg (hconfig hc)]
        cases rest.head? <;> rfl
      · split
        · cases rest.head? <;> rfl
        · rfl

theorem foldl_lookAt_page (args : List String) (p : Page) (places : List Nat) :
    places.foldl (lookAt args) (.page p) = .page p := by
  induction places with
  | nil => rfl
  | cons i places ih => exact ih

/-- The rest of a walk: a page of the rest ends it, else the rest adds to what was found. -/
theorem foldl_lookAt_append (before rest : List String) (found : Found) :
    (List.range' before.length rest.length).foldl (lookAt (before ++ rest)) (.going found) =
      match rest.findSome? page? with
      | some p => .page p
      | none => .going
        ⟨found.isVerbose || CommandLine.isVerbose rest,
          (lastValue? configSetting.flags rest).or found.configPath,
          (lastValue? jobsSetting.flags rest).or found.jobsPath⟩ := by
  -- A place is the length of what stands before it, so what has been looked at joins the front.
  induction rest generalizing before found with
  | nil => simp [isVerbose, lastValue?]
  | cons arg rest ih =>
    have hrest := ih (before ++ [arg])
    rw [List.length_append, List.length_singleton, List.append_assoc, List.singleton_append] at hrest
    rw [List.length_cons, List.range'_succ, List.foldl_cons, lookAt_append, List.findSome?_cons]
    cases page? arg with
    | some p => exact foldl_lookAt_page _ p _
    | none =>
      dsimp only
      rw [hrest]
      cases rest.findSome? page? with
      | some p => rfl
      | none =>
        simp only [Found.extended, lastValue?_cons, Option.or_assoc, Bool.or_assoc]
        rw [isVerbose_cons arg rest]

theorem walk_eq (args : List String) :
    walk args =
      match args.findSome? page? with
      | some p => .page p
      | none => .going
        ⟨isVerbose args, lastValue? configSetting.flags args, lastValue? jobsSetting.flags args⟩ := by
  have h := foldl_lookAt_append [] args {}
  simp only [Bool.false_or, Option.or_none] at h
  unfold walk
  rw [List.range_eq_range']
  exact h

/-- The notices on the settings that nothing tells, setting by setting. -/
theorem notices_eq (isVerbose : Bool) (s t : PathSetting) (isOpen : PathSetting → Bool) :
    (if isVerbose then ([s, t].filter isOpen).map PathSetting.notice else []) =
      (if isVerbose && isOpen s then [s.notice] else []) ++
        (if isVerbose && isOpen t then [t.notice] else []) := by
  cases isVerbose
  · rfl
  · cases hs : isOpen s <;> cases ht : isOpen t <;> simp [hs, ht]

/-- Place by place, no place outside the list is read, and the request is the one resolved. -/
theorem byPlaces_eq (args : List String) (env : String → Option String) :
    byPlaces args env = some (resolve args env) := by
  unfold byPlaces resolve
  rw [walk_eq]
  cases args.findSome? page? with
  | some p => rfl
  | none =>
    dsimp only
    rw [notices_eq]
    rfl

/-! ## Where the options stand -/

/-- One of the flags stands in front of all the others. -/
def StandsFirst (flags others args : List String) : Prop :=
  ∃ before flag behind, args = before ++ flag :: behind ∧ flag ∈ flags ∧
    ∀ arg ∈ before, arg ∉ flags ∧ arg ∉ others

/-- The value stands behind a flag, and no flag stands further behind but as the last argument. -/
def IsLastValue (flags args : List String) (value : String) : Prop :=
  ∃ before flag behind, args = before ++ flag :: value :: behind ∧ flag ∈ flags ∧
    ∀ arg ∈ (value :: behind).dropLast, arg ∉ flags

/-- How a path comes about, given the flags of its option, the name of its variable and its
  default; and whether it is the default. -/
inductive Tells (flags : List String) (name fallback : String) (args : List String)
    (env : String → Option String) : String → Bool → Prop
  | option {value : String} : IsLastValue flags args value →
      Tells flags name fallback args env value false
  | environment {value : String} : (∀ arg ∈ args.dropLast, arg ∉ flags) →
      env name = some value → Tells flags name fallback args env value false
  | fallback : (∀ arg ∈ args.dropLast, arg ∉ flags) →
      env name = none → Tells flags name fallback args env fallback true

theorem page?_eq_help_iff {arg : String} : page? arg = some .help ↔ arg ∈ ["-h", "--help"] := by
  unfold page?
  split
  · rename_i h
    exact iff_of_true rfl (by simpa using h)
  · rename_i h
    have hmem : arg ∉ ["-h", "--help"] := by simpa using h
    split
    · exact iff_of_false (by decide) hmem
    · exact iff_of_false (by decide) hmem

theorem page?_eq_version_iff {arg : String} :
    page? arg = some .version ↔ arg ∈ ["-V", "--version"] := by
  unfold page?
  split
  · rename_i h
    rw [Bool.or_eq_true, decide_eq_true_eq, decide_eq_true_eq] at h
    obtain rfl | rfl := h <;> decide
  · split
    · rename_i h
      exact iff_of_true rfl (by simpa using h)
    · rename_i h
      exact iff_of_false (by decide) (by simpa using h)

theorem page?_eq_none_iff {arg : String} :
    page? arg = none ↔ arg ∉ ["-h", "--help"] ∧ arg ∉ ["-V", "--version"] := by
  rw [← page?_eq_help_iff, ← page?_eq_version_iff]
  cases page? arg with
  | none => simp
  | some p => cases p <;> simp

theorem lastValue?_eq_none_iff {flags args : List String} :
    lastValue? flags args = none ↔ ∀ arg ∈ args.dropLast, arg ∉ flags := by
  induction args with
  | nil => simp [lastValue?]
  | cons arg rest ih =>
    rw [lastValue?_cons, Option.or_eq_none_iff, ih]
    cases rest with
    | nil => simp
    | cons value rest =>
      rw [List.dropLast_cons_cons, List.forall_mem_cons, and_comm, List.head?_cons]
      refine and_congr_left fun _ => ?_
      split <;> simp [*]

theorem lastValue?_eq_some_iff {flags args : List String} {value : String} :
    lastValue? flags args = some value ↔ IsLastValue flags args value := by
  induction args with
  | nil => simp [lastValue?, IsLastValue]
  | cons arg rest ih =>
    rw [lastValue?_cons, Option.or_eq_some_iff, ih, lastValue?_eq_none_iff]
    constructor
    · rintro (⟨before, flag, behind, rfl, hflag, hlast⟩ | ⟨hlast, hvalue⟩)
      · exact ⟨arg :: before, flag, behind, rfl, hflag, hlast⟩
      · split at hvalue
        · rename_i hflag
          obtain ⟨behind, rfl⟩ := List.head?_eq_some_iff.mp hvalue
          exact ⟨[], arg, behind, rfl, hflag, hlast⟩
        · exact absurd hvalue (by simp)
    · rintro ⟨before, flag, behind, hargs, hflag, hlast⟩
      cases before with
      | nil =>
        obtain ⟨rfl, rfl⟩ := List.cons.inj hargs
        exact .inr ⟨hlast, by rw [if_pos hflag, List.head?_cons]⟩
      | cons first before =>
        obtain ⟨rfl, rfl⟩ := List.cons.inj hargs
        exact .inl ⟨before, flag, behind, rfl, hflag, hlast⟩

theorem tells_iff {s : PathSetting} {args : List String} {env : String → Option String}
    {path : String} {isFallback : Bool} :
    Tells s.flags s.envName s.fallback args env path isFallback ↔
      path = s.path args env ∧ isFallback = (s.given? args env).isNone := by
  unfold PathSetting.path PathSetting.given?
  constructor
  · intro h
    cases h with
    | option hvalue => simp [lastValue?_eq_some_iff.mpr hvalue]
    | environment hnone henv => simp [lastValue?_eq_none_iff.mpr hnone, henv]
    | fallback hnone henv => simp [lastValue?_eq_none_iff.mpr hnone, henv]
  · rintro ⟨rfl, rfl⟩
    cases hvalue : lastValue? s.flags args with
    | some value => exact .option (lastValue?_eq_some_iff.mp hvalue)
    | none =>
      have hnone := lastValue?_eq_none_iff.mp hvalue
      cases henv : env s.envName with
      | some value => exact .environment hnone henv
      | none => exact .fallback hnone henv

/-! ## Requests -/

/-- The page that is shown, given the flags that ask for it and those that ask for another. -/
theorem resolve_eq_page_iff {args : List String} {env : String → Option String} {p : Page}
    {flags others : List String} (hsome : ∀ arg, page? arg = some p ↔ arg ∈ flags)
    (hnone : ∀ arg, page? arg = none ↔ arg ∉ flags ∧ arg ∉ others) :
    resolve args env = .page p ↔ StandsFirst flags others args := by
  have hresolve : resolve args env = .page p ↔ args.findSome? page? = some p := by
    unfold resolve
    cases args.findSome? page? <;> simp
  rw [hresolve, List.findSome?_eq_some_iff]
  simp only [hsome, hnone]
  rfl

theorem resolve_eq_help_iff {args : List String} {env : String → Option String} :
    resolve args env = .page .help ↔ StandsFirst ["-h", "--help"] ["-V", "--version"] args :=
  resolve_eq_page_iff (fun _ => page?_eq_help_iff) fun _ => page?_eq_none_iff

theorem resolve_eq_version_iff {args : List String} {env : String → Option String} :
    resolve args env = .page .version ↔ StandsFirst ["-V", "--version"] ["-h", "--help"] args :=
  resolve_eq_page_iff (fun _ => page?_eq_version_iff) fun _ => page?_eq_none_iff.trans and_comm

theorem isVerbose_iff {args : List String} :
    isVerbose args = true ↔ "-v" ∈ args ∨ "--verbose" ∈ args := by
  simp only [isVerbose, List.any_eq_true, Bool.or_eq_true, decide_eq_true_eq]
  constructor
  · rintro ⟨arg, harg, rfl | rfl⟩
    · exact .inl harg
    · exact .inr harg
  · rintro (h | h)
    · exact ⟨_, h, .inl rfl⟩
    · exact ⟨_, h, .inr rfl⟩

theorem resolve_eq_run_iff {args : List String} {env : String → Option String} {o : Options}
    {notices : List String} :
    resolve args env = .run o notices ↔
      (∀ arg ∈ args, arg ∉ ["-h", "--help"] ∧ arg ∉ ["-V", "--version"]) ∧
      (o.isVerbose = true ↔ "-v" ∈ args ∨ "--verbose" ∈ args) ∧
      ∃ configFallback jobsFallback,
        Tells ["-c", "--config"] "SECONDHAND_CONFIG" "config.json" args env o.configPath
          configFallback ∧
        Tells ["-j", "--jobs"] "SECONDHAND_JOBS" "jobs.conf" args env o.jobsPath jobsFallback ∧
        notices =
          (if o.isVerbose && configFallback
            then ["SECONDHAND_CONFIG is not set, defaulting to config.json"] else []) ++
          (if o.isVerbose && jobsFallback
            then ["SECONDHAND_JOBS is not set, defaulting to jobs.conf"] else []) := by
  have hnone : args.findSome? page? = none ↔
      ∀ arg ∈ args, arg ∉ ["-h", "--help"] ∧ arg ∉ ["-V", "--version"] := by
    rw [List.findSome?_eq_none_iff]
    exact forall₂_congr fun arg _ => page?_eq_none_iff
  have hresolve : resolve args env = .run o notices ↔
      args.findSome? page? = none ∧
        o = ⟨isVerbose args, configSetting.path args env, jobsSetting.path args env⟩ ∧
        notices = (if isVerbose args && (configSetting.given? args env).isNone
            then [configSetting.notice] else []) ++
          (if isVerbose args && (jobsSetting.given? args env).isNone
            then [jobsSetting.notice] else []) := by
    rw [← notices_eq (isVerbose args) configSetting jobsSetting
      fun s => (s.given? args env).isNone]
    unfold resolve
    cases args.findSome? page? with
    | some p => exact iff_of_false nofun nofun
    | none =>
      dsimp only
      rw [Request.run.injEq, @eq_comm _ _ o, @eq_comm _ _ notices]
      exact (and_iff_right rfl).symm
  rw [hresolve, hnone]
  refine and_congr_right fun _ => ?_
  constructor
  · rintro ⟨rfl, rfl⟩
    exact ⟨isVerbose_iff, _, _, (tells_iff (s := configSetting)).mpr ⟨rfl, rfl⟩,
      (tells_iff (s := jobsSetting)).mpr ⟨rfl, rfl⟩, rfl⟩
  · rintro ⟨hverbose, configFallback, jobsFallback, hconfig, hjobs, rfl⟩
    obtain ⟨hconfigPath, rfl⟩ := (tells_iff (s := configSetting)).mp hconfig
    obtain ⟨hjobsPath, rfl⟩ := (tells_iff (s := jobsSetting)).mp hjobs
    have hflag : o.isVerbose = isVerbose args := by
      rw [Bool.eq_iff_iff, hverbose, isVerbose_iff]
    obtain ⟨isVerbose', configPath, jobsPath⟩ := o
    dsimp only at hflag hconfigPath hjobsPath ⊢
    subst hflag hconfigPath hjobsPath
    exact ⟨rfl, rfl⟩

/-- A daemon that shows a page does nothing else. -/
theorem boot_of_page {s : Daemon.Surroundings} {p : Page}
    (h : resolve s.arguments (fun name => s.environment.lookup name) = .page p) :
    Daemon.boot s = { stage := .ended 0, out := p.text s.build } := by
  unfold Daemon.boot
  rw [h]

/-- A daemon that shows no page comes up or fails, and writes the notices first. -/
theorem boot_of_run {s : Daemon.Surroundings} {o : Options} {notices : List String}
    (h : resolve s.arguments (fun name => s.environment.lookup name) = .run o notices) :
    (Daemon.boot s).stage ≠ .ended 0 ∧ (Daemon.boot s).out = [] ∧
      notices <+: (Daemon.boot s).err := by
  unfold Daemon.boot
  rw [h]
  dsimp only
  split
  · exact ⟨by simp, rfl, List.prefix_append _ _⟩
  · split
    · exact ⟨by simp, rfl, List.prefix_append _ _⟩
    · exact ⟨by simp, rfl, List.prefix_refl _⟩

/--
What a command line comes to, for all arguments, the first one and the values of options included.
Walking along the places reads none outside the list and comes to the same request. The first
argument that is a flag of a page decides which page is shown, and then the daemon ends well,
having written that page and nothing else; the page of the version names the commit and the day of
the build. Else verbosity is asked for by an argument of its own; either path is the value behind
the last of its flags that is not the last argument, or else the value of its variable, or else its
default; and there is one notice, on the configuration first, for each path that is a default, if
verbosity is asked for. The daemon begins with these notices.
-/
theorem arguments_decide (args : List String) (env : String → Option String) :
    byPlaces args env = some (resolve args env) ∧
    (resolve args env = .page .help ↔ StandsFirst ["-h", "--help"] ["-V", "--version"] args) ∧
    (resolve args env = .page .version ↔ StandsFirst ["-V", "--version"] ["-h", "--help"] args) ∧
    (∀ o notices, resolve args env = .run o notices ↔
      (∀ arg ∈ args, arg ∉ ["-h", "--help"] ∧ arg ∉ ["-V", "--version"]) ∧
      (o.isVerbose = true ↔ "-v" ∈ args ∨ "--verbose" ∈ args) ∧
      ∃ configFallback jobsFallback,
        Tells ["-c", "--config"] "SECONDHAND_CONFIG" "config.json" args env o.configPath
          configFallback ∧
        Tells ["-j", "--jobs"] "SECONDHAND_JOBS" "jobs.conf" args env o.jobsPath jobsFallback ∧
        notices =
          (if o.isVerbose && configFallback
            then ["SECONDHAND_CONFIG is not set, defaulting to config.json"] else []) ++
          (if o.isVerbose && jobsFallback
            then ["SECONDHAND_JOBS is not set, defaulting to jobs.conf"] else [])) ∧
    ∀ s : Daemon.Surroundings,
      match resolve s.arguments (fun name => s.environment.lookup name) with
      | .page .help =>
        Daemon.boot s =
          { stage := .ended 0
            out :=
              ["Usage:",
               "\tsecondhand [-c/--config /path/to/config.json] [-j/--jobs /path/to/jobs.conf] " ++
                 "[-v/--verbose] [-V/--version] [-h/--help]"] }
      | .page .version =>
        Daemon.boot s =
          { stage := .ended 0
            out := ["secondhand 0.1.0 (" ++ s.build.commit ++ " " ++ s.build.date ++ ")"] }
      | .run _ notices =>
        (Daemon.boot s).stage ≠ .ended 0 ∧ (Daemon.boot s).out = [] ∧
          notices <+: (Daemon.boot s).err := by
  refine ⟨byPlaces_eq args env, resolve_eq_help_iff, resolve_eq_version_iff,
    fun o notices => resolve_eq_run_iff, fun s => ?_⟩
  split
  · rename_i h
    exact boot_of_page h
  · rename_i h
    exact boot_of_page h
  · rename_i o notices h
    exact boot_of_run h

/-- A flag as the value of another flag, flags with nothing behind them, an empty variable, values
  of which the last one counts, and all defaults. -/
theorem arguments_overlap :
    let args := ["crond", "-v", "-j", "-c"]
    let env (name : String) := if name = "SECONDHAND_CONFIG" then some "" else none
    resolve args env = .run ⟨true, "", "-c"⟩ [] ∧
      resolve (args ++ ["-j", "-V", "-h"]) env = .page .version ∧
      resolve ["--verbose", "-j"] env =
        .run ⟨true, "", "jobs.conf"⟩ ["SECONDHAND_JOBS is not set, defaulting to jobs.conf"] ∧
      resolve ["-c", "a.json", "--config", "b.json", "--jobs", "-c"] env =
        .run ⟨false, "b.json", "-c"⟩ [] ∧
      resolve ["-v", "-c"] (fun _ => none) =
        .run ⟨true, "config.json", "jobs.conf"⟩
          ["SECONDHAND_CONFIG is not set, defaulting to config.json",
           "SECONDHAND_JOBS is not set, defaulting to jobs.conf"] := by
  intro args env
  refine ⟨?_, ?_, ?_, ?_, ?_⟩
  · refine ((arguments_decide _ _).2.2.2.1 _ _).mpr
      ⟨by decide, by decide, false, false, ?_, ?_, rfl⟩
    · exact .environment (by decide) rfl
    · exact .option ⟨["crond", "-v"], "-j", [], rfl, by decide, by decide⟩
  · exact (arguments_decide _ _).2.2.1.mpr
      ⟨["crond", "-v", "-j", "-c", "-j"], "-V", ["-h"], rfl, by decide, by decide⟩
  · refine ((arguments_decide _ _).2.2.2.1 _ _).mpr
      ⟨by decide, by decide, false, true, ?_, ?_, by decide⟩
    · exact .environment (by decide) rfl
    · exact .fallback (by decide) rfl
  · refine ((arguments_decide _ _).2.2.2.1 _ _).mpr
      ⟨by decide, by decide, false, false, ?_, ?_, rfl⟩
    · exact .option ⟨["-c", "a.json"], "--config", ["--jobs", "-c"], rfl, by decide, by decide⟩
    · exact .option
        ⟨["-c", "a.json", "--config", "b.json"], "--jobs", [], rfl, by decide, by decide⟩
  · refine ((arguments_decide _ _).2.2.2.1 _ _).mpr
      ⟨by decide, by decide, true, true, ?_, ?_, by decide⟩
    · exact .fallback (by decide) rfl
    · exact .fallback (by decide) rfl

end Crond.CommandLine
