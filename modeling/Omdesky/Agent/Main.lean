/-
**The life of an agent (`omdesky-agent/src/main.rs`).**

* `parseArguments`, `waitForTailscale`, `prepare`, `main`: the program, over the calls it makes.
* `traces_waitForTailscale_iff`: the polls of the wait, one after the other.
* `Prepared`, `Halted`: what an agent found before it listens, or what it lacked, with every call.
* `life_of_main`: **an agent serves on an address of its own Tailscale node, on a version 4 of
  Omarchy, after the desktop was reconciled; and whoever serves ends the session when it stops.**
-/

import Mathlib.Data.Bool.AllAny
import Omdesky.Platform.Config
import Omdesky.Platform.Omarchy
import Omdesky.Platform.State
import Omdesky.Protocol

namespace Omdesky.Agent

open Interaction Interaction.Program Platform

/-! ### The program -/

/-- What a failure says: the contexts, from the outermost on, and the cause. -/
abbrev Failure := List String

/-- `Invocation`. -/
inductive Invocation
  | serve
  | version
  | help
  deriving DecidableEq, Repr

/-- `parse_arguments`. -/
def parseArguments : List String → Except Failure Invocation
  | [] => .ok .serve
  | [flag] =>
      if flag = "--version" ∨ flag = "-V" then .ok .version
      else if flag = "--help" ∨ flag = "-h" then .ok .help
      else .error ["unexpected arguments; run `omdesky-agent --help` for usage"]
  | _ => .error ["unexpected arguments; run `omdesky-agent --help` for usage"]

/-- `port_failure`. -/
def portFailure (error : PortError) : String :=
  error.userMessage ++ " [" ++ error.code ++ ": " ++ error.message ++ "]"

/-- What the router is given of what was found. -/
structure Setup where
  node : NodeInfoResponse
  strictTailnetOnly : Bool
  agentPort : UInt16
  deriving DecidableEq, Repr

/-- A call of `main`. -/
inductive MainCall
  | loadConfig
  | packageVersion
  | stateDir
  | loadIdentity
  | localNode
  | sleep (seconds : Nat)
  | sunshineConfigPath
  | accessPath
  | reconcile
  | bind (address : IpAddr) (port : UInt16)
  | spawnExpiry
  | serve (served : Setup)
  | abortExpiry
  | release
  deriving DecidableEq, Repr

/-- The answer to each call. -/
abbrev MainAnswer : MainCall → Type
  | .loadConfig => Except String Config
  | .packageVersion => PortResult String
  | .stateDir => Except String Unit
  | .loadIdentity => Except String Uuid
  | .localNode => PortResult MeshNodeIdentity
  | .sleep _ => Unit
  | .sunshineConfigPath => Except String Unit
  | .accessPath => Except String Unit
  | .reconcile => PortResult Unit
  | .bind _ _ => Except String Unit
  | .spawnExpiry => Unit
  | .serve _ => Except String Unit
  | .abortExpiry => Unit
  | .release => Unit

/-- An event of `main`. -/
abbrev MainEvent := Event MainCall MainAnswer

/-- A program of the agent. -/
abbrev MainM := Program MainCall MainAnswer

/-- A program of the agent that may fail. -/
abbrev MainA := ExceptT Failure MainM

/-- `context` and `?`. -/
def inContext {α : Type} (contexts : List String) (program : MainM (Except String α)) : MainA α :=
  ExceptT.mk (program >>= fun result => return result.mapError fun error => contexts ++ [error])

/-- `TAILSCALE_STARTUP_ATTEMPTS`. -/
def tailscaleStartupAttempts : Nat := 30

/-- `TAILSCALE_STARTUP_INTERVAL`. -/
def tailscaleStartupInterval : Nat := 2

/-- The local node, if it has an address. -/
def readyNode : PortResult MeshNodeIdentity → Except String MeshNodeIdentity
  | .ok «local» =>
      if «local».addresses.isEmpty then .error "Tailscale has no local address yet" else .ok «local»
  | .error error => .error (error.code ++ ": " ++ error.message)

/-- One look at the local node. -/
def pollTailscale : MainM (Except String MeshNodeIdentity) := do
  return readyNode (← perform MainCall.localNode)

/-- What follows a look: the node it found, or a pause and what comes after it. -/
def afterPoll (again : MainM (Except String MeshNodeIdentity)) :
    Except String MeshNodeIdentity → MainM (Except String MeshNodeIdentity)
  | .ok «local» => return .ok «local»
  | .error _ => do
      perform (MainCall.sleep tailscaleStartupInterval)
      again

/-- `wait_for_tailscale`, when so many attempts are left after this one. -/
def waitForTailscale : Nat → MainM (Except String MeshNodeIdentity)
  | 0 => return (← pollTailscale).mapError ("Tailscale is not ready: " ++ ·)
  | left + 1 => do afterPoll (waitForTailscale left) (← pollTailscale)

/-- Whether it is an address of version 4. -/
def isIpv4 : IpAddr → Bool
  | .v4 .. => true
  | .v6 .. => false

/-- The address to bind. -/
def preferredAddress (addresses : List IpAddr) : Option IpAddr :=
  (addresses.find? isIpv4).or addresses.head?

/-- The capabilities of a node. -/
def nodeCapabilities : List String :=
  ["omarchy.node", "desktop.stream-host", "desktop.input", "desktop.audio", "hyprland.workspaces",
    "hyprland.windows"]

/-- What a node says of itself. -/
def nodeInfo (identity : Uuid) («local» : MeshNodeIdentity) (version : OmarchyVersion) :
    NodeInfoResponse where
  nodeId := hyphenated identity
  hostname := «local».hostname.getD «local».tailnetNodeId
  omarchyVersion :=
    toString version.major ++ "." ++ toString version.minor ++ "." ++ toString version.patch
  agentVersion := Omdesky.release
  capabilities := nodeCapabilities

/-- The address to bind, inside the Tailscale range unless the configuration allows any other. -/
def bindAddress (allowUnsafe : Bool) (addresses : List IpAddr) : Except Failure IpAddr :=
  match preferredAddress addresses with
  | none => .error ["Tailscale has no local address"]
  | some address =>
      if !isTailscaleAddress address && !allowUnsafe then
        .error ["refusing to bind agent outside the Tailscale address range"]
      else .ok address

/-- What is left to do before the listener, once there is an address. -/
def settle (config : Config) (omarchy : OmarchyVersion) (identity : Uuid) («local» : MeshNodeIdentity)
    (address : IpAddr) : MainA (IpAddr × Setup) := do
  inContext ["resolve Sunshine configuration"] (perform MainCall.sunshineConfigPath)
  inContext [] (perform MainCall.accessPath)
  -- A reconciliation that failed is logged, and the agent starts all the same.
  let _ ← liftM (perform MainCall.reconcile : MainM (PortResult Unit))
  return (address,
    { node := nodeInfo identity «local» omarchy
      strictTailnetOnly := config.network.strictTailnetOnly
      agentPort := config.network.agentPort })

/-- The node, and its address. -/
def chooseAddress (config : Config) (omarchy : OmarchyVersion) (identity : Uuid) :
    MainA (IpAddr × Setup) := do
  let «local» ← inContext ["query Tailscale identity"] (waitForTailscale (tailscaleStartupAttempts - 1))
  let address ← ExceptT.mk
    (.done (bindAddress config.network.allowUnsafeWildcardBind «local».addresses))
  settle config omarchy identity «local» address

/-- Everything before the listener: the address, and what is to be served. -/
def prepare : MainA (IpAddr × Setup) := do
  let config ← inContext ["load configuration"] (perform MainCall.loadConfig)
  let omarchy ← inContext ["validate Omarchy 4"] do
    return ((← perform MainCall.packageVersion).bind parsePackageVersion).mapError portFailure
  inContext [] (perform MainCall.stateDir)
  let identity ← inContext ["load stable node identity"] (perform MainCall.loadIdentity)
  chooseAddress config omarchy identity

/-- From the listener on. -/
def serving (address : IpAddr) (served : Setup) : MainA Unit := do
  inContext ["bind agent to Tailscale address"] (perform (MainCall.bind address served.agentPort))
  liftM (perform MainCall.spawnExpiry : MainM Unit)
  let result ← liftM (perform (MainCall.serve served) : MainM (Except String Unit))
  liftM (perform MainCall.abortExpiry : MainM Unit)
  liftM (perform MainCall.release : MainM Unit)
  ExceptT.mk (.done (result.mapError fun error => ["serve agent", error]))

/-- `main`. -/
def main (arguments : List String) : MainA Unit := do
  match parseArguments arguments with
  | .error failure => throw failure
  | .ok .version => return
  | .ok .help => return
  | .ok .serve =>
      let (address, served) ← prepare
      serving address served

/-! ### Waiting -/

/-- The node is not ready yet: it does not answer, or it has no address. -/
def Unready (answer : PortResult MeshNodeIdentity) : Prop :=
  ∀ node, answer = .ok node → node.addresses = []

/-- Polls that failed, with a pause of two seconds after each. -/
def polls (failures : List (PortResult MeshNodeIdentity)) : List MainEvent :=
  failures.flatMap fun answer => [⟨.localNode, answer⟩, ⟨.sleep 2, ()⟩]

/-- A node is ready when it answers with an address. -/
theorem readyNode_ok_iff {answer : PortResult MeshNodeIdentity} {node : MeshNodeIdentity} :
    readyNode answer = .ok node ↔ answer = .ok node ∧ node.addresses ≠ [] := by
  rcases answer with error | found
  · exact iff_of_false nofun nofun
  · by_cases bare : found.addresses = []
    · rw [readyNode, if_pos (List.isEmpty_iff.mpr bare)]
      refine iff_of_false nofun ?_
      rintro ⟨⟨⟩, some⟩
      exact some bare
    · rw [readyNode, if_neg (by rwa [List.isEmpty_iff])]
      refine ⟨?_, fun ready => congrArg _ (Except.ok.inj ready.1)⟩
      rintro ⟨⟩
      exact ⟨rfl, bare⟩

theorem readyNode_error_iff {answer : PortResult MeshNodeIdentity} :
    (∃ failure, readyNode answer = .error failure) ↔ Unready answer := by
  constructor
  · rintro ⟨failure, bad⟩ node rfl
    by_contra some
    rw [readyNode_ok_iff.mpr ⟨rfl, some⟩] at bad
    cases bad
  · intro unready
    cases ready : readyNode answer with
    | error failure => exact ⟨failure, rfl⟩
    | ok node =>
        obtain ⟨same, some⟩ := readyNode_ok_iff.mp ready
        exact absurd (unready node same) some

/-- How a wait ends: with a node after some polls, or with the failure of the last poll it may make. -/
def WaitEnds (left : Nat) (trace : List MainEvent) : Except String MeshNodeIdentity → Prop
  | .ok node => ∃ failures, failures.length ≤ left ∧ (∀ answer ∈ failures, Unready answer) ∧
      trace = polls failures ++ [⟨.localNode, .ok node⟩] ∧ node.addresses ≠ []
  | .error error => ∃ failures last reason, failures.length = left ∧
      (∀ answer ∈ failures, Unready answer) ∧ trace = polls failures ++ [⟨.localNode, last⟩] ∧
        readyNode last = .error reason ∧ error = "Tailscale is not ready: " ++ reason

/-- A poll that failed comes first. -/
theorem WaitEnds.again {left : Nat} {trace : List MainEvent}
    {result : Except String MeshNodeIdentity} {first : PortResult MeshNodeIdentity}
    (unready : Unready first) (ends : WaitEnds left trace result) :
    WaitEnds (left + 1) (⟨.localNode, first⟩ :: ⟨.sleep 2, ()⟩ :: trace) result := by
  cases result with
  | ok node =>
      obtain ⟨failures, few, others, rfl, some⟩ := ends
      exact ⟨first :: failures, Nat.succ_le_succ few, List.forall_mem_cons.mpr ⟨unready, others⟩, rfl,
        some⟩
  | error error =>
      obtain ⟨failures, last, reason, few, others, rfl, bad, same⟩ := ends
      exact ⟨first :: failures, last, reason, congrArg Nat.succ few,
        List.forall_mem_cons.mpr ⟨unready, others⟩, rfl, bad, same⟩

/-- **The polls of the wait**: those that failed, and the last. -/
theorem waitEnds_of_traces {left : Nat} {trace : List MainEvent}
    {result : Except String MeshNodeIdentity} (run : Traces (waitForTailscale left) trace result) :
    WaitEnds left trace result := by
  induction left generalizing trace with
  | zero =>
      obtain ⟨last, rest, rfl, rfl, rfl⟩ := run
      cases ready : readyNode last with
      | ok node =>
          obtain ⟨rfl, some⟩ := readyNode_ok_iff.mp ready
          exact ⟨[], Nat.le_refl _, List.forall_mem_nil _, rfl, some⟩
      | error reason => exact ⟨[], last, reason, rfl, List.forall_mem_nil _, rfl, ready, rfl⟩
  | succ left ih =>
      obtain ⟨first, rest, rfl, run⟩ := run
      change Traces (afterPoll (waitForTailscale left) (readyNode first)) rest result at run
      cases ready : readyNode first with
      | ok node =>
          rw [ready] at run
          obtain ⟨rfl, rfl⟩ := run
          obtain ⟨rfl, some⟩ := readyNode_ok_iff.mp ready
          exact ⟨[], Nat.zero_le _, List.forall_mem_nil _, rfl, some⟩
      | error failure =>
          rw [ready] at run
          obtain ⟨_, rest, rfl, run⟩ := run
          exact (ih run).again (readyNode_error_iff.mp ⟨failure, ready⟩)

/-- A wait goes on after a poll that failed. -/
theorem traces_waitForTailscale_succ {left : Nat} {trace : List MainEvent}
    {result : Except String MeshNodeIdentity} {first : PortResult MeshNodeIdentity}
    (unready : Unready first) (run : Traces (waitForTailscale left) trace result) :
    Traces (waitForTailscale (left + 1)) (⟨.localNode, first⟩ :: ⟨.sleep 2, ()⟩ :: trace) result := by
  obtain ⟨failure, bad⟩ := readyNode_error_iff.mpr unready
  refine ⟨first, _, rfl, ?_⟩
  change Traces (afterPoll (waitForTailscale left) (readyNode first)) _ _
  rw [bad]
  exact ⟨(), _, rfl, run⟩

theorem traces_of_waitEnds {left : Nat} {trace : List MainEvent}
    {result : Except String MeshNodeIdentity} (ends : WaitEnds left trace result) :
    Traces (waitForTailscale left) trace result := by
  cases result with
  | ok node =>
      obtain ⟨failures, few, unready, rfl, some⟩ := ends
      have ready := readyNode_ok_iff.mpr ⟨rfl, some⟩
      induction failures generalizing left with
      | nil =>
          cases left with
          | zero =>
              refine ⟨.ok node, [], rfl, rfl, ?_⟩
              rw [ready]
              rfl
          | succ left =>
              refine ⟨.ok node, [], rfl, ?_⟩
              change Traces (afterPoll (waitForTailscale left) (readyNode (.ok node))) [] _
              rw [ready]
              exact ⟨rfl, rfl⟩
      | cons first failures ih =>
          obtain ⟨own, others⟩ := List.forall_mem_cons.mp unready
          cases left with
          | zero => cases few
          | succ left =>
              exact traces_waitForTailscale_succ own (ih (Nat.le_of_succ_le_succ few) others)
  | error error =>
      obtain ⟨failures, last, reason, rfl, unready, rfl, bad, rfl⟩ := ends
      induction failures with
      | nil =>
          refine ⟨last, [], rfl, rfl, ?_⟩
          rw [bad]
          rfl
      | cons first failures ih =>
          obtain ⟨own, others⟩ := List.forall_mem_cons.mp unready
          exact traces_waitForTailscale_succ own (ih others)

theorem traces_waitForTailscale_iff {left : Nat} {trace : List MainEvent}
    {result : Except String MeshNodeIdentity} :
    Traces (waitForTailscale left) trace result ↔ WaitEnds left trace result :=
  ⟨waitEnds_of_traces, traces_of_waitEnds⟩

/-! ### The address -/

/-- The address an agent prefers: the first of version 4, or else the first of all. -/
inductive Preferred (addresses : List IpAddr) (address : IpAddr) : Prop
  | ipv4 {before after : List IpAddr} (split : addresses = before ++ address :: after)
      (four : isIpv4 address = true) (others : ∀ other ∈ before, isIpv4 other = false)
  | first {after : List IpAddr} (split : addresses = address :: after)
      (others : ∀ other ∈ addresses, isIpv4 other = false)

theorem preferredAddress_iff {addresses : List IpAddr} {address : IpAddr} :
    preferredAddress addresses = some address ↔ Preferred addresses address := by
  unfold preferredAddress
  cases found : addresses.find? isIpv4 with
  | some chosen =>
      obtain ⟨four, before, after, split, others⟩ := List.find?_eq_some_iff_append.mp found
      have early : ∀ other ∈ before, isIpv4 other = false := by simpa using others
      rw [Option.some_or]
      constructor
      · rintro ⟨⟩
        exact .ipv4 split four early
      · rintro (⟨split', four', others'⟩ | ⟨split', others'⟩)
        · have again : addresses.find? isIpv4 = some address :=
            List.find?_eq_some_iff_append.mpr ⟨four', _, _, split', by simpa using others'⟩
          exact found.symm.trans again
        · have member : chosen ∈ addresses := by simp [split]
          rw [others' chosen member] at four
          cases four
  | none =>
      have others : ∀ other ∈ addresses, isIpv4 other = false := by simpa using found
      rw [Option.none_or, List.head?_eq_some_iff]
      constructor
      · rintro ⟨after, split⟩
        exact .first split others
      · rintro (⟨split, four, _⟩ | ⟨split, _⟩)
        · rw [others address (by simp [split])] at four
          cases four
        · exact ⟨_, split⟩

/-- The address of a node is inside the Tailscale range, or the configuration allows any other. -/
def Vetted (config : Config) (address : IpAddr) : Prop :=
  isTailscaleAddress address = true ∨ config.network.allowUnsafeWildcardBind = true

theorem not_vetted_iff {config : Config} {address : IpAddr} :
    (!isTailscaleAddress address && !config.network.allowUnsafeWildcardBind) = true ↔
      ¬ Vetted config address := by
  unfold Vetted
  rw [Bool.and_eq_true, Bool.not_eq_true', Bool.not_eq_true', not_or, Bool.not_eq_true,
    Bool.not_eq_true]

theorem bindAddress_ok_iff {config : Config} {addresses : List IpAddr} {address : IpAddr} :
    bindAddress config.network.allowUnsafeWildcardBind addresses = .ok address ↔
      Preferred addresses address ∧ Vetted config address := by
  rw [← preferredAddress_iff]
  unfold bindAddress
  cases preferredAddress addresses with
  | none => exact iff_of_false nofun nofun
  | some chosen =>
      dsimp only
      split
      · next outside =>
          refine iff_of_false nofun ?_
          rintro ⟨⟨⟩, vetted⟩
          exact not_vetted_iff.mp outside vetted
      · next inside =>
          constructor
          · rintro ⟨⟩
            exact ⟨rfl, not_not.mp fun outside => inside (not_vetted_iff.mpr outside)⟩
          · rintro ⟨⟨⟩, _⟩
            rfl

/-- An agent refuses an address that is not vetted. -/
theorem bindAddress_error_iff {config : Config} {addresses : List IpAddr} {failure : Failure}
    (some : addresses ≠ []) :
    bindAddress config.network.allowUnsafeWildcardBind addresses = .error failure ↔
      failure = ["refusing to bind agent outside the Tailscale address range"] ∧
        ∃ address, Preferred addresses address ∧ ¬ Vetted config address := by
  simp only [← preferredAddress_iff]
  unfold bindAddress
  cases preferred : preferredAddress addresses with
  | none =>
      rw [preferredAddress, Option.or_eq_none_iff, List.head?_eq_none_iff] at preferred
      exact absurd preferred.2 some
  | some chosen =>
      dsimp only
      split
      · next outside =>
          constructor
          · rintro ⟨⟩
            exact ⟨rfl, chosen, rfl, not_vetted_iff.mp outside⟩
          · rintro ⟨rfl, _⟩
            rfl
      · next inside =>
          refine iff_of_false nofun ?_
          rintro ⟨_, _, ⟨⟩, outside⟩
          exact inside (not_vetted_iff.mpr outside)

/-! ### Before the listener -/

/-- The first calls: the configuration, a package of version 4, the state directory and the identity. -/
structure Opened (front : List MainEvent) (config : Config) (version : OmarchyVersion)
    (identity : Uuid) : Prop where
  four : version.major = 4
  calls : ∃ output, parsePackageVersion output = .ok version ∧
    front = [⟨.loadConfig, .ok config⟩, ⟨.packageVersion, .ok output⟩, ⟨.stateDir, .ok ()⟩,
      ⟨.loadIdentity, .ok identity⟩]

/-- Then Tailscale has answered with a node that has an address, after at most 29 polls that failed. -/
structure Waited (front : List MainEvent) (config : Config) (version : OmarchyVersion)
    (identity : Uuid) (node : MeshNodeIdentity) : Prop where
  addressed : node.addresses ≠ []
  calls : ∃ opening failures, Opened opening config version identity ∧ failures.length ≤ 29 ∧
    (∀ answer ∈ failures, Unready answer) ∧
      front = opening ++ (polls failures ++ [⟨.localNode, .ok node⟩])

/-- Then the preferred address of the node was vetted, the two paths were found and the desktop was
reconciled. -/
structure Prepared (front : List MainEvent) (address : IpAddr) (served : Setup) : Prop where
  calls : ∃ waiting config version identity node reconciled,
    Waited waiting config version identity node ∧ Preferred node.addresses address ∧
      Vetted config address ∧
        front = waiting ++ [⟨.sunshineConfigPath, .ok ()⟩, ⟨.accessPath, .ok ()⟩,
          ⟨.reconcile, reconciled⟩] ∧
          served =
            { node := nodeInfo identity node version
              strictTailnetOnly := config.network.strictTailnetOnly
              agentPort := config.network.agentPort }

/-- What stops an agent before it listens, at the call that shows it. -/
inductive Halted : List MainEvent → Failure → Prop
  | config {error} : Halted [⟨.loadConfig, .error error⟩] ["load configuration", error]
  | package {config answer error} (refused : answer.bind parsePackageVersion = .error error) :
      Halted [⟨.loadConfig, .ok config⟩, ⟨.packageVersion, answer⟩]
        ["validate Omarchy 4", portFailure error]
  | stateDir {config output version error} (accepted : parsePackageVersion output = .ok version) :
      Halted [⟨.loadConfig, .ok config⟩, ⟨.packageVersion, .ok output⟩, ⟨.stateDir, .error error⟩]
        [error]
  | identity {config output version error} (accepted : parsePackageVersion output = .ok version) :
      Halted [⟨.loadConfig, .ok config⟩, ⟨.packageVersion, .ok output⟩, ⟨.stateDir, .ok ()⟩,
          ⟨.loadIdentity, .error error⟩]
        ["load stable node identity", error]
  | tailscale {opening config version identity failures last reason}
      (opened : Opened opening config version identity) (all : failures.length = 29)
      (unready : ∀ answer ∈ failures, Unready answer) (bad : readyNode last = .error reason) :
      Halted (opening ++ (polls failures ++ [⟨.localNode, last⟩]))
        ["query Tailscale identity", "Tailscale is not ready: " ++ reason]
  | address {waiting config version identity node address}
      (waited : Waited waiting config version identity node)
      (preferred : Preferred node.addresses address) (outside : ¬ Vetted config address) :
      Halted waiting ["refusing to bind agent outside the Tailscale address range"]
  | sunshine {waiting config version identity node address error}
      (waited : Waited waiting config version identity node)
      (preferred : Preferred node.addresses address) (inside : Vetted config address) :
      Halted (waiting ++ [⟨.sunshineConfigPath, .error error⟩])
        ["resolve Sunshine configuration", error]
  | access {waiting config version identity node address error}
      (waited : Waited waiting config version identity node)
      (preferred : Preferred node.addresses address) (inside : Vetted config address) :
      Halted (waiting ++ [⟨.sunshineConfigPath, .ok ()⟩, ⟨.accessPath, .error error⟩]) [error]

/-- How the preparation ends. -/
def PrepareEnds (trace : List MainEvent) : Except Failure (IpAddr × Setup) → Prop
  | .ok (address, served) => Prepared trace address served
  | .error failure => Halted trace failure

theorem traces_inContext {α : Type} {contexts : List String} {program : MainM (Except String α)}
    {trace : List MainEvent} {result : Except Failure α} :
    Traces (inContext contexts program).run trace result ↔ ∃ answer, Traces program trace answer ∧
      result = answer.mapError fun error => contexts ++ [error] := by
  refine traces_bind.trans ⟨?_, ?_⟩
  · rintro ⟨before, _, answer, rfl, run, rfl, rfl⟩
    exact ⟨answer, by rwa [List.append_nil], rfl⟩
  · rintro ⟨answer, run, rfl⟩
    exact ⟨trace, [], answer, (List.append_nil _).symm, run, rfl, rfl⟩

/-- What is done in context, and what follows it. -/
theorem traces_inContext_bind {α β : Type} {contexts : List String}
    {program : MainM (Except String α)} {next : α → MainA β} {trace : List MainEvent}
    {result : Except Failure β} :
    Traces (inContext contexts program >>= next).run trace result ↔
      (∃ error, Traces program trace (.error error) ∧ result = .error (contexts ++ [error])) ∨
        ∃ before rest value, trace = before ++ rest ∧ Traces program before (.ok value) ∧
          Traces (next value).run rest result := by
  rw [traces_run_bind]
  constructor
  · rintro (⟨failure, rfl, failed⟩ | ⟨before, rest, value, rfl, ready, onward⟩)
    · obtain ⟨error | value, run, same⟩ := traces_inContext.mp failed
      · exact .inl ⟨error, run, congrArg _ (Except.error.inj same)⟩
      · cases same
    · obtain ⟨error | value, run, same⟩ := traces_inContext.mp ready
      · cases same
      · obtain rfl := Except.ok.inj same
        exact .inr ⟨before, rest, _, rfl, run, onward⟩
  · rintro (⟨error, run, rfl⟩ | ⟨before, rest, value, rfl, run, onward⟩)
    · exact .inl ⟨_, rfl, traces_inContext.mpr ⟨_, run, rfl⟩⟩
    · exact .inr ⟨before, rest, value, rfl, traces_inContext.mpr ⟨_, run, rfl⟩, onward⟩

/-- One call in context, and what follows it. -/
theorem traces_call_bind {α β : Type} {contexts : List String} {call : MainCall}
    {read : MainAnswer call → Except String α} {next : α → MainA β} {trace : List MainEvent}
    {result : Except Failure β} :
    Traces (inContext contexts (.ask call fun answer => .done (read answer)) >>= next).run trace result ↔
      ∃ answer, (∃ error, read answer = .error error ∧ trace = [⟨call, answer⟩] ∧
          result = .error (contexts ++ [error])) ∨
        ∃ value rest, read answer = .ok value ∧ trace = ⟨call, answer⟩ :: rest ∧
          Traces (next value).run rest result := by
  rw [traces_inContext_bind]
  constructor
  · rintro (⟨error, ⟨answer, _, rfl, rfl, same⟩, rfl⟩ |
      ⟨_, rest, value, rfl, ⟨answer, _, rfl, rfl, same⟩, onward⟩)
    · exact ⟨answer, .inl ⟨error, same.symm, rfl, rfl⟩⟩
    · exact ⟨answer, .inr ⟨value, rest, same.symm, rfl, onward⟩⟩
  · rintro ⟨answer, ⟨error, same, rfl, rfl⟩ | ⟨value, rest, same, rfl, onward⟩⟩
    · exact .inl ⟨error, ⟨answer, [], rfl, rfl, same.symm⟩, rfl⟩
    · exact .inr ⟨_, rest, value, rfl, ⟨answer, [], rfl, rfl, same.symm⟩, onward⟩

/-- What is made of the answer of the package manager. -/
theorem package_error {answer : PortResult String} {failure : String}
    (refused : (answer.bind parsePackageVersion).mapError portFailure = .error failure) :
    ∃ error, answer.bind parsePackageVersion = .error error ∧ failure = portFailure error := by
  cases read : answer.bind parsePackageVersion with
  | error error =>
      rw [read] at refused
      exact ⟨error, rfl, (Except.error.inj refused).symm⟩
  | ok version =>
      rw [read] at refused
      cases refused

theorem package_ok {answer : PortResult String} {version : OmarchyVersion}
    (accepted : (answer.bind parsePackageVersion).mapError portFailure = .ok version) :
    ∃ output, answer = .ok output ∧ parsePackageVersion output = .ok version := by
  cases answer with
  | error error => cases accepted
  | ok output =>
      refine ⟨output, rfl, ?_⟩
      change (parsePackageVersion output).mapError portFailure = .ok version at accepted
      cases read : parsePackageVersion output with
      | error error =>
          rw [read] at accepted
          cases accepted
      | ok found =>
          rw [read] at accepted
          exact congrArg _ (Except.ok.inj accepted)

theorem prepareEnds_of_traces {trace : List MainEvent} {result : Except Failure (IpAddr × Setup)}
    (run : Traces prepare.run trace result) : PrepareEnds trace result := by
  unfold prepare at run
  obtain ⟨_, ⟨_, rfl, rfl, rfl⟩ | ⟨config, _, rfl, rfl, asks⟩⟩ := traces_call_bind.mp run
  · exact .config
  obtain ⟨_, ⟨_, same, rfl, rfl⟩ | ⟨version, _, same, rfl, places⟩⟩ := traces_call_bind.mp asks
  · obtain ⟨error, refused, rfl⟩ := package_error same
    exact .package refused
  obtain ⟨output, rfl, accepted⟩ := package_ok same
  obtain ⟨_, ⟨_, rfl, rfl, rfl⟩ | ⟨_, _, rfl, rfl, names⟩⟩ := traces_call_bind.mp places
  · exact .stateDir accepted
  obtain ⟨_, ⟨_, rfl, rfl, rfl⟩ | ⟨identity, _, rfl, rfl, waits⟩⟩ := traces_call_bind.mp names
  · exact .identity accepted
  have opened : Opened _ config version identity :=
    ⟨major_of_parsePackageVersion accepted, output, accepted, rfl⟩
  obtain ⟨_, failed, rfl⟩ | ⟨_, _, node, rfl, ready, chooses⟩ := traces_inContext_bind.mp waits
  · obtain ⟨failures, last, reason, all, unready, rfl, bad, rfl⟩ := traces_waitForTailscale_iff.mp failed
    exact .tailscale opened all unready bad
  obtain ⟨failures, few, unready, rfl, addressed⟩ := traces_waitForTailscale_iff.mp ready
  have waited : Waited _ config version identity node :=
    ⟨addressed, _, failures, opened, few, unready, rfl⟩
  obtain ⟨_, rfl, rfl, refused⟩ | ⟨_, _, address, rfl, ⟨rfl, chose⟩, settles⟩ :=
    traces_run_bind.mp chooses
  · obtain ⟨rfl, address, preferred, outside⟩ := (bindAddress_error_iff addressed).mp refused.symm
    rw [List.append_nil]
    exact .address waited preferred outside
  obtain ⟨preferred, inside⟩ := bindAddress_ok_iff.mp chose.symm
  unfold settle at settles
  obtain ⟨_, ⟨_, rfl, rfl, rfl⟩ | ⟨_, _, rfl, rfl, locates⟩⟩ := traces_call_bind.mp settles
  · simpa only [PrepareEnds, List.append_assoc, List.cons_append, List.nil_append] using
      @Halted.sunshine _ _ _ _ _ _ _ waited preferred inside
  obtain ⟨_, ⟨_, rfl, rfl, rfl⟩ | ⟨_, _, rfl, rfl, reconciles⟩⟩ := traces_call_bind.mp locates
  · simpa only [PrepareEnds, List.append_assoc, List.cons_append, List.nil_append] using
      @Halted.access _ _ _ _ _ _ _ waited preferred inside
  obtain ⟨reconciled, _, rfl, rfl, rfl⟩ := reconciles
  refine ⟨_, config, version, identity, node, reconciled, waited, preferred, inside, ?_, rfl⟩
  simp only [List.append_assoc, List.cons_append, List.nil_append]

section Runs

variable {front rest trace : List MainEvent} {config : Config} {version : OmarchyVersion}
  {identity : Uuid} {node : MeshNodeIdentity} {address : IpAddr}
  {result : Except Failure (IpAddr × Setup)}

/-- What follows the first calls. -/
theorem Opened.traces (opened : Opened front config version identity)
    (onward : Traces (chooseAddress config version identity).run rest result) :
    Traces prepare.run (front ++ rest) result := by
  obtain ⟨output, accepted, rfl⟩ := opened.calls
  have read : ((Except.ok output : PortResult String).bind parsePackageVersion).mapError portFailure =
      .ok version := by
    change (parsePackageVersion output).mapError portFailure = _
    rw [accepted]
    rfl
  unfold prepare
  refine traces_call_bind.mpr ⟨_, .inr ⟨config, _, rfl, rfl, ?_⟩⟩
  refine traces_call_bind.mpr ⟨_, .inr ⟨version, _, read, rfl, ?_⟩⟩
  refine traces_call_bind.mpr ⟨_, .inr ⟨(), _, rfl, rfl, ?_⟩⟩
  exact traces_call_bind.mpr ⟨_, .inr ⟨identity, _, rfl, rfl, onward⟩⟩

/-- What follows the wait, with an address. -/
theorem Waited.traces (waited : Waited front config version identity node)
    (preferred : Preferred node.addresses address) (inside : Vetted config address)
    (onward : Traces (settle config version identity node address).run rest result) :
    Traces prepare.run (front ++ rest) result := by
  obtain ⟨opening, failures, opened, few, unready, rfl⟩ := waited.calls
  rw [List.append_assoc]
  refine opened.traces (traces_inContext_bind.mpr (.inr ⟨_, rest, node, rfl, ?_, ?_⟩))
  · exact traces_waitForTailscale_iff.mpr ⟨failures, few, unready, rfl, waited.addressed⟩
  · refine traces_run_bind.mpr (.inr ⟨[], rest, address, rfl, ⟨rfl, ?_⟩, onward⟩)
    exact (bindAddress_ok_iff.mpr ⟨preferred, inside⟩).symm

theorem Prepared.traces {served : Setup} (prepared : Prepared front address served) :
    Traces prepare.run front (.ok (address, served)) := by
  obtain ⟨_, config, version, identity, node, reconciled, waited, preferred, inside, rfl, rfl⟩ :=
    prepared.calls
  refine waited.traces preferred inside ?_
  refine traces_call_bind.mpr ⟨_, .inr ⟨(), _, rfl, rfl, ?_⟩⟩
  exact traces_call_bind.mpr ⟨_, .inr ⟨(), _, rfl, rfl, reconciled, [], rfl, rfl, rfl⟩⟩

theorem Halted.traces {failure : Failure} (halted : Halted trace failure) :
    Traces prepare.run trace (.error failure) := by
  have accepts {output : String} {version : OmarchyVersion}
      (accepted : parsePackageVersion output = .ok version) :
      ((Except.ok output : PortResult String).bind parsePackageVersion).mapError portFailure =
        .ok version := by
    change (parsePackageVersion output).mapError portFailure = _
    rw [accepted]
    rfl
  cases halted with
  | config => exact traces_call_bind.mpr ⟨_, .inl ⟨_, rfl, rfl, rfl⟩⟩
  | package refused =>
      refine traces_call_bind.mpr ⟨_, .inr ⟨_, _, rfl, rfl, ?_⟩⟩
      refine traces_call_bind.mpr ⟨_, .inl ⟨_, ?_, rfl, rfl⟩⟩
      rw [refused]
      rfl
  | stateDir accepted =>
      refine traces_call_bind.mpr ⟨_, .inr ⟨_, _, rfl, rfl, ?_⟩⟩
      refine traces_call_bind.mpr ⟨_, .inr ⟨_, _, accepts accepted, rfl, ?_⟩⟩
      exact traces_call_bind.mpr ⟨_, .inl ⟨_, rfl, rfl, rfl⟩⟩
  | identity accepted =>
      refine traces_call_bind.mpr ⟨_, .inr ⟨_, _, rfl, rfl, ?_⟩⟩
      refine traces_call_bind.mpr ⟨_, .inr ⟨_, _, accepts accepted, rfl, ?_⟩⟩
      refine traces_call_bind.mpr ⟨_, .inr ⟨(), _, rfl, rfl, ?_⟩⟩
      exact traces_call_bind.mpr ⟨_, .inl ⟨_, rfl, rfl, rfl⟩⟩
  | tailscale opened all unready bad =>
      refine opened.traces (traces_inContext_bind.mpr (.inl ⟨_, ?_, rfl⟩))
      exact traces_waitForTailscale_iff.mpr ⟨_, _, _, all, unready, rfl, bad, rfl⟩
  | @address waiting config version identity node address waited preferred outside =>
      obtain ⟨opening, failures, opened, few, unready, rfl⟩ := waited.calls
      refine opened.traces (traces_inContext_bind.mpr
        (.inr ⟨_, [], node, (List.append_nil _).symm, ?_, ?_⟩))
      · exact traces_waitForTailscale_iff.mpr ⟨failures, few, unready, rfl, waited.addressed⟩
      · refine traces_run_bind.mpr (.inl ⟨_, rfl, rfl, ?_⟩)
        exact ((bindAddress_error_iff waited.addressed).mpr ⟨rfl, address, preferred, outside⟩).symm
  | sunshine waited preferred inside =>
      exact waited.traces preferred inside (traces_call_bind.mpr ⟨_, .inl ⟨_, rfl, rfl, rfl⟩⟩)
  | access waited preferred inside =>
      refine waited.traces preferred inside (traces_call_bind.mpr ⟨_, .inr ⟨(), _, rfl, rfl, ?_⟩⟩)
      exact traces_call_bind.mpr ⟨_, .inl ⟨_, rfl, rfl, rfl⟩⟩

end Runs

/-! ### The life of an agent -/

/-- How an agent can live. -/
inductive Kind
  | told
  | refused
  | stopped
  | unbound
  | served
  deriving DecidableEq, Repr

/-- How an agent lives: what it does, and what it ends with. -/
inductive Life (arguments : List String) : Kind → List MainEvent → Except Failure Unit → Prop
  /-- It says what it was asked for. -/
  | told (asked : arguments ∈ [["--version"], ["-V"], ["--help"], ["-h"]]) :
      Life arguments .told [] (.ok ())
  /-- It does not know what it was asked for. -/
  | refused (some : arguments ≠ []) (unknown : arguments ∉ [["--version"], ["-V"], ["--help"], ["-h"]]) :
      Life arguments .refused []
        (.error ["unexpected arguments; run `omdesky-agent --help` for usage"])
  /-- Something it rests on is missing, and it never listens. -/
  | stopped {trace failure} (bare : arguments = []) (halted : Halted trace failure) :
      Life arguments .stopped trace (.error failure)
  /-- It cannot listen on its address. -/
  | unbound {front address served failure} (bare : arguments = [])
      (prepared : Prepared front address served) :
      Life arguments .unbound (front ++ [⟨.bind address served.agentPort, .error failure⟩])
        (.error ["bind agent to Tailscale address", failure])
  /-- It serves, and ends the session it leaves behind. -/
  | served {front address served outcome} (bare : arguments = [])
      (prepared : Prepared front address served) :
      Life arguments .served
        (front ++ [⟨.bind address served.agentPort, .ok ()⟩, ⟨.spawnExpiry, ()⟩,
          ⟨.serve served, outcome⟩, ⟨.abortExpiry, ()⟩, ⟨.release, ()⟩])
        (outcome.mapError fun error => ["serve agent", error])

/-- What an agent is asked for. -/
theorem parseArguments_cases (arguments : List String) :
    (arguments = [] ∧ parseArguments arguments = .ok .serve) ∨
      (arguments ∈ [["--version"], ["-V"], ["--help"], ["-h"]] ∧
        (parseArguments arguments = .ok .version ∨ parseArguments arguments = .ok .help)) ∨
      (arguments ≠ [] ∧ arguments ∉ [["--version"], ["-V"], ["--help"], ["-h"]] ∧
        parseArguments arguments =
          .error ["unexpected arguments; run `omdesky-agent --help` for usage"]) := by
  cases arguments with
  | nil => exact .inl ⟨rfl, rfl⟩
  | cons flag others =>
      refine .inr ?_
      cases others with
      | nil =>
          by_cases version : flag = "--version" ∨ flag = "-V"
          · refine .inl ⟨?_, .inl (if_pos version)⟩
            rcases version with rfl | rfl <;> decide
          · by_cases help : flag = "--help" ∨ flag = "-h"
            · refine .inl ⟨?_, .inr ((if_neg version).trans (if_pos help))⟩
              rcases help with rfl | rfl <;> decide
            · refine .inr ⟨nofun, ?_, (if_neg version).trans (if_neg help)⟩
              simpa [and_assoc] using And.intro (not_or.mp version) (not_or.mp help)
      | cons other others => exact .inr ⟨nofun, by simp, rfl⟩

theorem life_of_traces {arguments : List String} {trace : List MainEvent}
    {result : Except Failure Unit} (run : Traces (main arguments).run trace result) :
    ∃ kind, Life arguments kind trace result := by
  unfold main at run
  obtain ⟨bare, parsed⟩ | ⟨asked, parsed⟩ | ⟨some, unknown, parsed⟩ := parseArguments_cases arguments
  · rw [parsed] at run
    obtain ⟨failure, rfl, halted⟩ | ⟨front, rest, ⟨address, served⟩, rfl, ready, onward⟩ :=
      traces_run_bind.mp run
    · exact ⟨.stopped, .stopped bare (prepareEnds_of_traces halted)⟩
    have prepared : Prepared front address served := prepareEnds_of_traces ready
    obtain ⟨_, ⟨failure, rfl, rfl, rfl⟩ | ⟨_, _, rfl, rfl, serves⟩⟩ := traces_call_bind.mp onward
    · exact ⟨.unbound, .unbound bare prepared⟩
    · obtain ⟨_, _, rfl, outcome, _, rfl, _, _, rfl, _, _, rfl, rfl, rfl⟩ := serves
      exact ⟨.served, .served bare prepared⟩
  · rcases parsed with parsed | parsed <;> rw [parsed] at run <;> obtain ⟨rfl, rfl⟩ := run <;>
      exact ⟨.told, .told asked⟩
  · rw [parsed] at run
    obtain ⟨rfl, rfl⟩ := run
    exact ⟨.refused, .refused some unknown⟩

theorem traces_of_life {arguments : List String} {kind : Kind} {trace : List MainEvent}
    {result : Except Failure Unit} (life : Life arguments kind trace result) :
    Traces (main arguments).run trace result := by
  unfold main
  cases life with
  | told asked =>
      obtain ⟨rfl, _⟩ | ⟨_, parsed | parsed⟩ | ⟨_, unknown, _⟩ := parseArguments_cases arguments
      · exact absurd asked (by decide)
      · rw [parsed]
        exact ⟨rfl, rfl⟩
      · rw [parsed]
        exact ⟨rfl, rfl⟩
      · exact absurd asked unknown
  | refused some unknown =>
      obtain ⟨bare, _⟩ | ⟨asked, _⟩ | ⟨_, _, parsed⟩ := parseArguments_cases arguments
      · exact absurd bare some
      · exact absurd asked unknown
      · rw [parsed]
        exact ⟨rfl, rfl⟩
  | stopped bare halted =>
      subst bare
      exact traces_run_bind.mpr (.inl ⟨_, rfl, halted.traces⟩)
  | unbound bare prepared =>
      subst bare
      refine traces_run_bind.mpr (.inr ⟨_, _, _, rfl, prepared.traces, ?_⟩)
      exact traces_call_bind.mpr ⟨_, .inl ⟨_, rfl, rfl, rfl⟩⟩
  | served bare prepared =>
      subst bare
      refine traces_run_bind.mpr (.inr ⟨_, _, _, rfl, prepared.traces, ?_⟩)
      refine traces_call_bind.mpr ⟨_, .inr ⟨(), _, rfl, rfl, ?_⟩⟩
      exact ⟨(), _, rfl, _, _, rfl, (), _, rfl, (), [], rfl, rfl, rfl⟩

/-! ### Packages -/

section Package

variable {name : List Char} {version : OmarchyVersion} {others : List (List Char)} {output : String}

/-- On a package of version 4, an agent can get as far as its listener. -/
theorem exists_prepared (plain : version.Plain)
    (spelled : Words (name :: version.text :: others) output.toList) (four : version.major = 4) :
    ∃ front address served, Prepared front address served ∧
      (⟨.packageVersion, .ok output⟩ : MainEvent) ∈ front := by
  have accepted : parsePackageVersion output = .ok version := by
    rw [parsePackageVersion_package plain spelled, if_pos four]
  let address : IpAddr := .v4 100 64 0 1
  let node : MeshNodeIdentity := ⟨"desk", none, none, [address]⟩
  have opened : Opened _ Config.default version (0 : Uuid) := ⟨four, output, accepted, rfl⟩
  have waited : Waited _ Config.default version (0 : Uuid) node :=
    ⟨nofun, _, [], opened, Nat.zero_le _, List.forall_mem_nil _, rfl⟩
  have preferred : Preferred node.addresses address :=
    .ipv4 (List.nil_append node.addresses).symm rfl (by simp)
  exact ⟨_, address, _, ⟨_, Config.default, version, 0, node, .ok (), waited, preferred, .inl rfl, rfl,
    rfl⟩, List.mem_cons_of_mem _ List.mem_cons_self⟩

/-- An agent serves only if the package manager has printed a version 4. -/
theorem four_of_prepared (plain : version.Plain)
    (spelled : Words (name :: version.text :: others) output.toList) {front : List MainEvent}
    {address : IpAddr} {served : Setup} (prepared : Prepared front address served)
    (printed : (⟨.packageVersion, .ok output⟩ : MainEvent) ∈ front) : version.major = 4 := by
  obtain ⟨_, config, found, identity, node, reconciled, waited, _, _, rfl, _⟩ := prepared.calls
  obtain ⟨_, failures, opened, _, _, rfl⟩ := waited.calls
  obtain ⟨text, accepted, rfl⟩ := opened.calls
  have same : output = text := by
    simpa [polls] using printed
  rw [← same, parsePackageVersion_package plain spelled] at accepted
  by_contra other
  rw [if_neg other] at accepted
  cases accepted

end Package

/-- A package of version 4. -/
private def currentVersion : OmarchyVersion := ⟨4, 1, 0, some "1"⟩

private theorem exists_prepared_current : ∃ front address served, Prepared front address served := by
  have plain : currentVersion.Plain := ⟨by decide, by decide, by decide, by decide⟩
  have spelled : Words ["omarchy".toList, currentVersion.text] "omarchy 4.1.0-1".toList :=
    @Words.word [] _ _ " 4.1.0-1".toList (List.forall_mem_nil _) (by decide)
      (List.all_iff_forall_prop.mp rfl) (by rintro _ ⟨⟩; rfl)
      (@Words.word [' '] _ _ [] (List.all_iff_forall_prop.mp rfl) (by decide)
        (List.all_iff_forall_prop.mp rfl) (by rintro _ ⟨⟩) (.done (List.forall_mem_nil _)))
  obtain ⟨front, address, served, prepared, _⟩ := exists_prepared plain spelled rfl
  exact ⟨front, address, served, prepared⟩

/-- **The life of an agent.** It lives in one of five ways, and in each of them it can. An agent that
serves does so on the preferred address of its own Tailscale node, inside the Tailscale range unless the
configuration says otherwise, after the desktop was reconciled; and once it stops serving, the expiry of
its leases is ended and its session released. It can serve with what the package manager prints of a
package exactly when that is of version 4. -/
theorem life_of_main :
    (∀ arguments trace result,
      Traces (main arguments).run trace result ↔ ∃ kind, Life arguments kind trace result) ∧
    (∀ kind, ∃ arguments trace result, Life arguments kind trace result) ∧
    ∀ (name : List Char) (version : OmarchyVersion) (others : List (List Char)) (output : String),
      version.Plain → Words (name :: version.text :: others) output.toList →
        ((∃ arguments trace result, Life arguments .served trace result ∧
          (⟨.packageVersion, .ok output⟩ : MainEvent) ∈ trace) ↔ version.major = 4) := by
  refine ⟨fun arguments trace result => ⟨life_of_traces, fun ⟨_, life⟩ => traces_of_life life⟩,
    fun kind => ?_, fun name version others output plain spelled => ⟨?_, fun four => ?_⟩⟩
  · obtain ⟨front, address, served, prepared⟩ := exists_prepared_current
    cases kind with
    | told => exact ⟨["--version"], _, _, .told List.mem_cons_self⟩
    | refused => exact ⟨["serve"], _, _, .refused nofun (by decide)⟩
    | stopped => exact ⟨[], _, _, .stopped rfl (@Halted.config "")⟩
    | unbound => exact ⟨[], _, _, @Life.unbound [] front address served "" rfl prepared⟩
    | served => exact ⟨[], _, _, @Life.served [] front address served (.ok ()) rfl prepared⟩
  · rintro ⟨_, _, _, ⟨⟩, printed⟩
    rename_i front address served outcome bare prepared
    refine four_of_prepared plain spelled prepared ?_
    simpa using printed
  · obtain ⟨front, address, served, prepared, printed⟩ := exists_prepared plain spelled four
    exact ⟨[], _, _, @Life.served [] front address served (.ok ()) rfl prepared,
      List.mem_append_left _ printed⟩

end Omdesky.Agent
