/-
**What a child process is started with (`omdesky-platform/src/process.rs`).**

The programs and the variables of a command: names without a slash are looked up in four directories, and
remembered for the whole process, which looks names up from several tasks at once.

* `CommandEnv`: the variables of a command, as the standard library keeps them.
* `applyEnvironmentPolicy`, `childEnvironment`: the variables of a child.
* `childEnvironment_eq`: **what every variable is**, for every policy.
* `resolveProgram`, `start`: the lookup and the start, over the files of the computer.
* `started_lawful`: **every child that is ever started** runs the program that was asked for by its path,
  or one of that name from a trusted directory, with what the policy makes of the variables that the
  process has at that moment.
-/

import Omdesky.Collections.Table
import Omdesky.Interaction.Pool
import Omdesky.Ports

namespace Omdesky.Platform

open Collections Interaction Interaction.Program

/-! ### Variables -/

/-- The variables of a process. -/
abbrev Variables := String → Option String

/-- The variables of a `std::process::Command`: whether those of the parent are left out, and what is set
or removed. -/
structure CommandEnv where
  clear : Bool
  vars : Table String (Option String)

namespace CommandEnv

/-- A new command. -/
def new : CommandEnv where
  clear := false
  vars := ∅

/-- `Command::env_clear`. -/
def envClear (_ : CommandEnv) : CommandEnv where
  clear := true
  vars := ∅

/-- `Command::env`. -/
def env (command : CommandEnv) (key value : String) : CommandEnv :=
  { command with vars := command.vars.insert key (some value) }

/-- `Command::env_remove`. -/
def envRemove (command : CommandEnv) (key : String) : CommandEnv :=
  if command.clear then { command with vars := command.vars.erase key }
  else { command with vars := command.vars.insert key none }

/-- `Command::envs`. -/
def envs (command : CommandEnv) (entries : List (String × String)) : CommandEnv :=
  entries.foldl (fun command entry => command.env entry.1 entry.2) command

/-- What the child finds. -/
def capture (command : CommandEnv) (parent : Variables) : Variables := fun key =>
  match command.vars.lookup key with
  | some value => value
  | none => if command.clear then none else parent key

end CommandEnv

/-! ### The policies -/

/-- `TRUSTED_PROGRAM_DIRECTORIES`. -/
def trustedProgramDirectories : List String :=
  ["/usr/local/bin", "/usr/bin", "/bin", "/usr/local/sbin"]

/-- `TRUSTED_PATH`. -/
def trustedPath : String := "/usr/local/bin:/usr/bin:/bin"

/-- `SESSION_ENVIRONMENT_KEYS`. -/
def sessionEnvironmentKeys : List String :=
  ["HOME", "USER", "LOGNAME", "LANG", "TERM", "XDG_RUNTIME_DIR", "XDG_CONFIG_HOME", "XDG_STATE_HOME",
    "XDG_DATA_HOME", "XDG_SESSION_TYPE", "WAYLAND_DISPLAY", "HYPRLAND_INSTANCE_SIGNATURE", "DISPLAY",
    "DBUS_SESSION_BUS_ADDRESS"]

/-- `LOADER_ENVIRONMENT_KEYS`. -/
def loaderEnvironmentKeys : List String :=
  ["LD_PRELOAD", "LD_LIBRARY_PATH", "LD_AUDIT", "LD_DEBUG", "LD_DEBUG_OUTPUT", "LD_PROFILE",
    "LD_ORIGIN_PATH", "GCONV_PATH"]

/-- A variable of the parent is handed on, if it has it. -/
def passOn (parent : Variables) (command : CommandEnv) (key : String) : CommandEnv :=
  match parent key with
  | some value => command.env key value
  | none => command

/-- `apply_environment_policy`. -/
def applyEnvironmentPolicy (parent : Variables) (command : CommandEnv) (policy : EnvironmentPolicy) :
    CommandEnv :=
  match policy with
  | .empty => command.envClear
  | .session => sessionEnvironmentKeys.foldl (passOn parent) (command.envClear.env "PATH" trustedPath)
  | .inherited => loaderEnvironmentKeys.foldl CommandEnv.envRemove (command.env "PATH" trustedPath)

/-- The variables of the child of `build_command`. -/
def childEnvironment (parent : Variables) (spec : CommandSpec) : Variables :=
  ((applyEnvironmentPolicy parent .new spec.environmentPolicy).envs spec.environment).capture parent

/-! ### What every variable is -/

/-- What a policy makes of a variable. -/
def policyVariable (parent : Variables) (policy : EnvironmentPolicy) (key : String) : Option String :=
  match policy with
  | .empty => none
  | .session =>
      if key = "PATH" then some trustedPath
      else if key ∈ sessionEnvironmentKeys then parent key else none
  | .inherited =>
      if key = "PATH" then some trustedPath
      else if key ∈ loaderEnvironmentKeys then none else parent key

section Variables

variable {parent : Variables} {command : CommandEnv} {key other value : String}

/-- What the child finds of a variable, when the entry for it is known. -/
theorem capture_of_lookup {entry : Option (Option String)} (found : command.vars.lookup key = entry) :
    command.capture parent key = entry.getD (if command.clear then none else parent key) := by
  rw [CommandEnv.capture, found]
  cases entry <;> rfl

theorem capture_env : (command.env other value).capture parent key =
    if key = other then some value else command.capture parent key := by
  split
  · next same =>
      subst same
      have found : (command.env key value).vars.lookup key = some (some value) := AList.lookup_insert _
      rw [capture_of_lookup found]
      rfl
  · next different =>
      have found : (command.env other value).vars.lookup key = command.vars.lookup key :=
        AList.lookup_insert_ne different
      rw [capture_of_lookup found, capture_of_lookup rfl]
      rfl

theorem capture_envRemove : (command.envRemove other).capture parent key =
    if key = other then none else command.capture parent key := by
  unfold CommandEnv.envRemove
  split
  · next cleared =>
      split
      · next same =>
          subst same
          rw [capture_of_lookup (AList.lookup_erase key command.vars)]
          exact if_pos cleared
      · next different =>
          rw [capture_of_lookup (AList.lookup_erase_ne different), capture_of_lookup rfl]
  · split
    · next same =>
        subst same
        rw [capture_of_lookup (AList.lookup_insert command.vars)]
        rfl
    · next different =>
        rw [capture_of_lookup (AList.lookup_insert_ne different), capture_of_lookup rfl]

theorem capture_envClear : command.envClear.capture parent key = none := by
  rw [capture_of_lookup (AList.lookup_empty key)]
  rfl

/-- **What is handed on.** -/
theorem capture_passOn (keys : List String) : ∀ command : CommandEnv,
    (keys.foldl (passOn parent) command).capture parent key =
      if key ∈ keys then (parent key).or (command.capture parent key)
      else command.capture parent key := by
  induction keys with
  | nil => exact fun _ => rfl
  | cons first keys ih =>
      intro command
      have handed : (passOn parent command first).capture parent key =
          if key = first then (parent key).or (command.capture parent key)
          else command.capture parent key := by
        rw [passOn]
        cases known : parent first with
        | none =>
            dsimp only
            split
            · next same => rw [same, known, Option.none_or]
            · rfl
        | some value =>
            dsimp only
            rw [capture_env]
            split
            · next same => rw [same, known, Option.some_or]
            · rfl
      rw [List.foldl_cons, ih, handed]
      by_cases here : key = first
      · simp only [here, List.mem_cons_self, if_true]
        split
        · cases parent first <;> rfl
        · rfl
      · simp only [here, List.mem_cons, if_false, false_or]

/-- **What is removed.** -/
theorem capture_foldl_envRemove (keys : List String) : ∀ command : CommandEnv,
    (keys.foldl CommandEnv.envRemove command).capture parent key =
      if key ∈ keys then none else command.capture parent key := by
  induction keys with
  | nil => exact fun _ => rfl
  | cons first keys ih =>
      intro command
      rw [List.foldl_cons, ih, capture_envRemove]
      by_cases here : key = first
      · simp [here]
      · simp only [here, List.mem_cons, if_false, false_or]

/-- **The variables of the command come last.** -/
theorem capture_envs (entries : List (String × String)) : (command.envs entries).capture parent key =
    (entries.reverse.lookup key).or (command.capture parent key) := by
  induction entries generalizing command with
  | nil => rfl
  | cons entry entries ih =>
      obtain ⟨name, value⟩ := entry
      have rest : command.envs ((name, value) :: entries) = (command.env name value).envs entries := rfl
      rw [rest, ih, capture_env, List.reverse_cons, List.lookup_append, Option.or_assoc]
      congr 1
      by_cases same : key = name
      · simp [same]
      · rw [List.lookup_cons, beq_eq_false_iff_ne.mpr same, if_neg same]
        rfl

/-- **What every variable of a child is**: what its command sets, or else what the policy makes of it. -/
theorem childEnvironment_eq (parent : Variables) (spec : CommandSpec) (key : String) :
    childEnvironment parent spec key =
      (spec.environment.reverse.lookup key).or (policyVariable parent spec.environmentPolicy key) := by
  rw [childEnvironment, capture_envs]
  congr 1
  unfold applyEnvironmentPolicy policyVariable
  cases spec.environmentPolicy with
  | empty => exact capture_envClear
  | session =>
      dsimp only
      rw [capture_passOn, capture_env, capture_envClear]
      by_cases path : key = "PATH"
      · have other : "PATH" ∉ sessionEnvironmentKeys := by decide
        simp only [path, other, if_true, if_false]
      · simp only [path, if_false, Option.or_none]
  | inherited =>
      dsimp only
      have plain : CommandEnv.new.capture parent key = parent key := by
        rw [capture_of_lookup (AList.lookup_empty key)]
        rfl
      rw [capture_foldl_envRemove, capture_env, plain]
      by_cases path : key = "PATH"
      · have other : "PATH" ∉ loaderEnvironmentKeys := by decide
        simp only [path, other, if_true, if_false]
      · simp only [path, if_false]

end Variables

/-! ### Programs -/

/-- A child process as it is started. -/
structure Started where
  program : String
  args : List String
  environment : Variables
  workingDirectory : Option String

/-- What the start of a command asks of the computer: the name in the cache, a file, a name to remember,
and the child. The variables are read and the child is started without a pause, so that the child is made of
the variables of one moment. -/
inductive HostCall
  | cached (program : String)
  | isFile (path : String)
  | remember (program path : String)
  | spawn (spec : CommandSpec) (child : Variables → Started)

/-- The answer to each. -/
abbrev HostAnswer : HostCall → Type
  | .cached _ => Option String
  | .isFile _ => Bool
  | .remember _ _ => Unit
  | .spawn _ _ => Except String Unit

/-- A program over them. -/
abbrev HostM := Program HostCall HostAnswer

/-- One call. -/
abbrev onHost (call : HostCall) : HostM (HostAnswer call) := perform call

/-- `Path::join`, for a name without a slash. -/
def joinPath (directory program : String) : String := directory ++ "/" ++ program

/-- The first directory that has the program. -/
def findProgram (program : String) : List String → HostM (Option String)
  | [] => return none
  | directory :: directories => do
      let isFile : Bool ← onHost (.isFile (joinPath directory program))
      if isFile then return some (joinPath directory program) else findProgram program directories

/-- `resolve_program`. -/
def resolveProgram (program : String) : HostM (PortResult String) := do
  if program.toList.contains '/' then return .ok program
  let known : Option String ← onHost (.cached program)
  match known with
  | some path => return .ok path
  | none =>
      let found ← findProgram program trustedProgramDirectories
      match found with
      | none =>
          return .error
            { code := "COMMAND_NOT_AVAILABLE"
              message := program ++ " was not found in a trusted program directory"
              retryable := false }
      | some path =>
          onHost (.remember program path)
          return .ok path

/-- `spawn_error`. -/
def spawnError (program failure : String) : PortError where
  code := "COMMAND_NOT_AVAILABLE"
  message := "unable to execute " ++ program ++ ": " ++ failure
  retryable := false

/-- `build_command`, and the start of the child. -/
def start (spec : CommandSpec) : HostM (PortResult Unit) := do
  match ← resolveProgram spec.program with
  | .error error => return .error error
  | .ok program =>
      let answer : Except String Unit ← onHost (.spawn spec fun parent =>
        { program, args := spec.args, environment := childEnvironment parent spec
          workingDirectory := spec.workingDirectory })
      return answer.mapError (spawnError spec.program)

/-! ### The computer -/

/-- A child that was started: for which command, and what variables the process had at that moment. -/
structure Birth where
  spec : CommandSpec
  child : Started
  parent : Variables

/-- The cache, the files and the variables of the process; what has been a file, and what was started. -/
structure Host where
  cache : Table String String
  files : String → Bool
  parent : Variables
  seen : List String
  started : List Birth

/-- What a call does. -/
def hostWorld : World HostCall HostAnswer Host
  | .cached program, host, answer, after => answer = host.cache.lookup program ∧ after = host
  | .isFile path, host, answer, after =>
      answer = host.files path ∧ after = if answer then { host with seen := path :: host.seen } else host
  | .remember program path, host, _, after =>
      after = { host with cache := host.cache.insert program path }
  | .spawn spec child, host, _, after =>
      after = { host with started := ⟨spec, child host.parent, host.parent⟩ :: host.started }

/-- What else happens: files come and go, and the variables of the process may change. -/
def hostChanges (host after : Host) : Prop :=
  ∃ files parent, after = { host with files, parent }

/-- The process as it begins. -/
def Host.fresh (files : String → Bool) (parent : Variables) : Host where
  cache := ∅
  files := files
  parent := parent
  seen := []
  started := []

/-! ### The law -/

/-- A program of that name in a trusted directory, which has been a file. -/
def Trusted (host : Host) (program path : String) : Prop :=
  path ∈ host.seen ∧ ∃ directory ∈ trustedProgramDirectories, path = joinPath directory program

/-- The child is the one its command asks for: the program by its path or by its name, the arguments, and
every variable, from those of the process when the child was started. -/
structure Lawful (host : Host) (birth : Birth) : Prop where
  program : if '/' ∈ birth.spec.program.toList then birth.child.program = birth.spec.program
    else Trusted host birth.spec.program birth.child.program
  args : birth.child.args = birth.spec.args
  environment : ∀ key, birth.child.environment key =
    (birth.spec.environment.reverse.lookup key).or
      (policyVariable birth.parent birth.spec.environmentPolicy key)

/-- Names are remembered with trusted paths, and lawful children are started. -/
structure Safe (host : Host) : Prop where
  cache : ∀ program path, host.cache.lookup program = some path → Trusted host program path
  started : ∀ birth ∈ host.started, Lawful host birth

/-- What has been seen stays seen. -/
def Sees (host after : Host) : Prop := host.seen ⊆ after.seen

section Start

variable {host after : Host} {spec : CommandSpec}

theorem Trusted.grow {program path : String} (trusted : Trusted host program path)
    (sees : Sees host after) : Trusted after program path := ⟨sees trusted.1, trusted.2⟩

theorem Lawful.grow {birth : Birth} (lawful : Lawful host birth) (sees : Sees host after) :
    Lawful after birth where
  program := by
    have before := lawful.program
    split
    · next slash => rwa [if_pos slash] at before
    · next bare =>
        rw [if_neg bare] at before
        exact before.grow sees
  args := lawful.args
  environment := lawful.environment

/-- What may be asked. -/
def Allowed (host : Host) : HostCall → Prop
  | .remember program path => Trusted host program path
  | .spawn spec child => ∀ parent, Lawful host ⟨spec, child parent, parent⟩
  | _ => True

/-- **One call keeps the law.** -/
theorem safe_world {call : HostCall} {answer : HostAnswer call} (safe : Safe host)
    (allowed : Allowed host call) (answered : hostWorld call host answer after) :
    Safe after ∧ Sees host after := by
  have same : Safe host ∧ Sees host host := ⟨safe, List.Subset.refl _⟩
  cases call with
  | cached program => exact answered.2 ▸ same
  | isFile path =>
      obtain ⟨_, rfl⟩ := answered
      split
      · have sees : Sees host { host with seen := path :: host.seen } :=
          List.subset_cons_of_subset _ (List.Subset.refl _)
        exact ⟨⟨fun program path known => (safe.cache program path known).grow sees,
          fun birth member => (safe.started birth member).grow sees⟩, sees⟩
      · exact same
  | remember program path =>
      obtain rfl := answered
      have sees : Sees host { host with cache := host.cache.insert program path } := List.Subset.refl _
      refine ⟨⟨fun other place known => ?_,
        fun birth member => (safe.started birth member).grow sees⟩, sees⟩
      by_cases here : other = program
      · subst here
        obtain rfl := Option.some.inj ((AList.lookup_insert host.cache).symm.trans known)
        exact allowed
      · exact safe.cache other place ((AList.lookup_insert_ne here).symm.trans known)
  | spawn spec child =>
      obtain rfl := answered
      have sees : Sees host
          { host with started := ⟨spec, child host.parent, host.parent⟩ :: host.started } :=
        List.Subset.refl _
      refine ⟨⟨fun program path known => (safe.cache program path known).grow sees,
        fun birth member => ?_⟩, sees⟩
      rcases List.mem_cons.mp member with rfl | old
      · exact (allowed host.parent).grow sees
      · exact (safe.started birth old).grow sees

/-- A program found for a name, in a host that may still see more. -/
def Finds (program : String) (result : PortResult String) (host : Host) : Prop :=
  ∀ path, result = .ok path → if '/' ∈ program.toList then path = program
    else Trusted host program path

/-- **A name is found in a trusted directory.** -/
theorem sound_findProgram (program : String) (directories : List String)
    (trusted : ∀ directory ∈ directories, directory ∈ trustedProgramDirectories) :
    ∀ (trace : List (Event HostCall HostAnswer)) (host : Host), Sound hostWorld Safe Sees
      (fun _ found final => ∀ path, found = some path → Trusted final program path) trace
      (findProgram program directories) host := by
  induction directories with
  | nil =>
      intro trace host path found
      cases found
  | cons directory directories ih =>
      intro trace host middle answer after grown safe answered
      obtain ⟨kept, sees⟩ := safe_world safe (by trivial) answered
      refine ⟨kept, sees, ?_⟩
      cases answer with
      | false => exact ih (fun other member => trusted other (List.mem_cons_of_mem _ member)) _ after
      | true =>
          rintro path ⟨⟩
          obtain ⟨_, rfl⟩ := answered
          exact ⟨List.mem_cons_self, directory, trusted directory List.mem_cons_self, rfl⟩

/-- **The program of a name** is the one at its path, or a trusted one. -/
theorem sound_resolveProgram (program : String) (trace : List (Event HostCall HostAnswer))
    (host : Host) : Sound hostWorld Safe Sees (fun _ result final => Finds program result final) trace
      (resolveProgram program) host := by
  unfold resolveProgram
  split
  · next slash =>
      rintro path ⟨⟩
      rw [if_pos (List.contains_iff_mem.mp slash)]
  · next bare =>
      have plain : '/' ∉ program.toList := fun slash => bare (List.contains_iff_mem.mpr slash)
      have finds {path : String} {final : Host} (trusted : Trusted final program path) :
          Finds program (.ok path) final := by
        rintro other ⟨⟩
        rwa [if_neg plain]
      intro middle known after grown safe answered
      obtain ⟨kept, sees⟩ := safe_world safe (by trivial) answered
      refine ⟨kept, sees, ?_⟩
      obtain ⟨rfl, rfl⟩ := answered
      dsimp only [Program.bind]
      split
      · next path known => exact finds (safe.cache program path known)
      · refine sound_bind ?_
        refine (sound_findProgram program _ (fun _ member => member) _ _).weaken
          fun trace found state trusted => ?_
        cases found with
        | none =>
            rintro path ⟨⟩
        | some path =>
            intro later answer final grown safe answered
            have here : Trusted later program path := (trusted path rfl).grow grown
            obtain ⟨kept, sees⟩ := safe_world safe (by exact here) answered
            exact ⟨kept, sees, finds (here.grow sees)⟩

/-- **The child of a command is lawful.** -/
theorem sound_start (spec : CommandSpec) (host : Host) :
    Sound hostWorld Safe Sees (fun _ _ _ => True) [] (start spec) host := by
  refine sound_bind ?_
  refine (sound_resolveProgram spec.program [] host).weaken fun trace result state found => ?_
  cases result with
  | error error => exact trivial
  | ok program =>
      intro middle answer after grown safe answered
      have lawful (parent : Variables) : Lawful middle
          ⟨spec, ⟨program, spec.args, childEnvironment parent spec, spec.workingDirectory⟩, parent⟩ := by
        refine ⟨?_, rfl, fun key => childEnvironment_eq parent spec key⟩
        have before := found program rfl
        split
        · next slash => rwa [if_pos slash] at before
        · next bare =>
            rw [if_neg bare] at before
            exact before.grow grown
      obtain ⟨kept, sees⟩ := safe_world safe (by exact lawful) answered
      exact ⟨kept, sees, trivial⟩

theorem disciplined_start : Disciplined start hostWorld hostChanges Safe Sees (fun _ _ _ _ => True) where
  refl _ := List.Subset.refl _
  trans _ _ _ := List.Subset.trans
  stable _ _ _ _ _ _ _ := trivial
  acts := by
    rintro host _ safe ⟨files, parent, rfl⟩
    have sees : Sees host { host with files, parent } := List.Subset.refl _
    exact ⟨⟨fun program path known => (safe.cache program path known).grow sees,
      fun birth member => (safe.started birth member).grow sees⟩, sees⟩
  sound := sound_start

/-- **Every child that is ever started is lawful**, however many commands are started at a time, and
whatever becomes of the files and of the variables of the process in the meantime. -/
theorem started_lawful {files : String → Bool} {parent : Variables}
    {pool : Pool CommandSpec HostCall HostAnswer (PortResult Unit) Host}
    (reached : pool.Reachable start hostWorld hostChanges (.fresh files parent)) {birth : Birth}
    (started : birth ∈ pool.shared.started) : Lawful pool.shared birth := by
  have begins : Safe (.fresh files parent) :=
    ⟨fun program path known => (by cases known), fun birth member => (by cases member)⟩
  exact (disciplined_start.reachable begins reached).1.started birth started

end Start

/-- A computer with `hyprctl`. -/
private def hyprlandFiles (path : String) : Bool := path == "/usr/bin/hyprctl"

/-- The variables of a session into which somebody has put a library. -/
private def preloaded : Variables := fun key =>
  if key = "LD_PRELOAD" then some "/tmp/evil.so"
  else if key = "PATH" then some "/tmp:/usr/bin" else none

/-- The desktop is asked for its windows. -/
private theorem reaches_started : ∃ pool child,
    Pool.Reachable start hostWorld hostChanges (.fresh hyprlandFiles preloaded) pool ∧
      ⟨.new "hyprctl" ["clients", "-j"], child, preloaded⟩ ∈ pool.shared.started := by
  have begins : Pool.Reachable start hostWorld hostChanges (.fresh hyprlandFiles preloaded)
      ⟨.fresh hyprlandFiles preloaded, []⟩ := .refl
  have run : (start (.new "hyprctl" ["clients", "-j"])).Runs hostWorld (.fresh hyprlandFiles preloaded)
      _ (.ok ()) _ :=
    ⟨none, _, _, rfl, ⟨rfl, rfl⟩, false, _, _, rfl, ⟨rfl, rfl⟩, true, _, _, rfl, ⟨rfl, rfl⟩, (), _, _, rfl,
      rfl, .ok (), _, _, rfl, rfl, rfl, rfl, rfl⟩
  exact ⟨_, _, begins.call run, List.mem_cons_self⟩

/-- The child has the trusted path, and no library of somebody's. -/
theorem started_lawful_hyprctl : ∃ host child,
    Lawful host ⟨.new "hyprctl" ["clients", "-j"], child, preloaded⟩ ∧
      child.environment "PATH" = some trustedPath ∧ child.environment "LD_PRELOAD" = none := by
  obtain ⟨pool, child, reached, started⟩ := reaches_started
  have lawful := started_lawful reached started
  exact ⟨pool.shared, child, lawful, lawful.environment "PATH", lawful.environment "LD_PRELOAD"⟩

end Omdesky.Platform
