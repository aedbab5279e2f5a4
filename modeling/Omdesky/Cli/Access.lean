/-
**`omdesky access` (`omdesky-cli/src/main.rs`).**

* `resolvePeer`, `access`: the command, over the calls it makes of the configuration, of Tailscale,
  of the allowlist and of the terminal.
* `Moment`, `cliWorld`: what the configuration and Tailscale say while a command runs.
* `Names`: the device a name means at a moment; `ends_resolve` finds it.
* `ends_allow_ok`, `ends_revoke_ok`: what the two changes do when they succeed. An allow stores the
  device the name means; a revoke removes it, or, when the name cannot be resolved, the name itself.
* `revoked_iff`: a revoke removes what the allow under the same name stored exactly when the name
  still means the same device, or cannot be resolved and is its identifier.
-/

import Omdesky.Application.Target
import Omdesky.Collections.Table
import Omdesky.Platform.Access
import Omdesky.Protocol

namespace Omdesky.Cli

open Application Collections Interaction Interaction.Program Platform

/-! ### The command -/

/-- `DeviceConfig`. -/
structure DeviceConfig where
  «alias» : Option String
  deriving DecidableEq, Repr

/-- `Config`, as far as other devices are concerned. -/
structure Config where
  devices : Table String DeviceConfig
  agentPort : UInt16

/-- What a command fails with: a port's error or a text. -/
inductive CliError
  | port (error : PortError)
  | text (message : String)
  deriving DecidableEq, Repr

/-- A call a command makes of its surroundings. -/
inductive CliCall
  | accessPath
  | loadConfig
  | peers
  | now
  | store (call : StoreCall)
  | sendCommand (endpoint : AgentEndpoint) (command : RemoteCommand)
  | println (line : String)

/-- The answer to each call; the time is in seconds. -/
abbrev CliAnswer : CliCall → Type
  | .accessPath => Except String Unit
  | .loadConfig => Except String Config
  | .peers => PortResult (List MeshPeer)
  | .now => Int
  | .store call => StoreAnswer call
  | .sendCommand _ _ => PortResult CommandResponse
  | .println _ => Unit

/-- A program of the command line. -/
abbrev CliM := Program CliCall CliAnswer

/-- A command in which `?` returns the first error. -/
abbrev CliA := ExceptT CliError CliM

/-- One call. -/
abbrev ask (call : CliCall) : CliM (CliAnswer call) := perform call

/-- A call with a text for its error. -/
def orText {α : Type} (program : CliM (Except String α)) : CliA α :=
  ExceptT.mk (Except.mapError .text <$> program)

/-- A call of a port. -/
def orPort {α : Type} (program : CliM (PortResult α)) : CliA α :=
  ExceptT.mk (Except.mapError .port <$> program)

/-- An operation of the allowlist. -/
def storing {α : Type} (operation : StoreA α) : CliA α :=
  orPort (within CliCall.store operation.run)

/-- `println!`. -/
def println (line : String) : CliA Unit := liftM (ask (.println line))

/-- The name a target stands for. -/
def Config.nameOf (config : Config) (target : String) : String :=
  ((config.devices.lookup target).bind DeviceConfig.«alias»).getD target

/-- What the user is told when a name means no device, or several. -/
def lookupMessage (name : String) : PeerLookupError → String
  | .notFound => "no Tailscale device is named '" ++ name ++
      "'; use a name or address shown by `omdesky devices --all-tailnet`"
  | .ambiguous candidates => "'" ++ name ++ "' matches several Tailscale devices (" ++
      ", ".intercalate candidates ++ "); use one of those names or an address"

/-- `resolve_peer`. -/
def resolvePeer (target : String) : CliA MeshPeer := do
  let config ← orText (ask .loadConfig)
  let name := config.nameOf target
  let peers ← orPort (ask .peers)
  match findPeer peers name with
  | .ok peer => return peer
  | .error error => throw (.text (lookupMessage name error))

/-- `resolve_tailnet_identity`. -/
def resolveTailnetIdentity (target : String) : CliA String := do
  return (← resolvePeer target).tailnetNodeId

/-- `str::parse::<ControlCapability>`. -/
def parseCapability (token : String) : Except CliError ControlCapability :=
  match ControlCapability.all.find? fun capability => capability.asStr == token with
  | some capability => .ok capability
  | none => .error (.text ("unknown capability '" ++ token ++ "'; expected one of " ++
      ", ".intercalate (ControlCapability.all.map ControlCapability.asStr)))

/-- `parse_capabilities`. -/
def parseCapabilities (values : List String) : Except CliError (List ControlCapability) :=
  if values.isEmpty then .ok ControlCapability.all
  else
    let tokens := (values.flatMap fun value => value.splitOn ",").map trim
    (tokens.filter fun token => !token.isEmpty).mapM parseCapability

/-- `AllowedController::new`: the capabilities are sorted, each once. -/
def newController (tailnetNodeId : String) (label : Option String) (addedAt : Int)
    (capabilities : List ControlCapability) : AllowedController :=
  { tailnetNodeId, label, addedAt,
    capabilities := ControlCapability.all.filter capabilities.contains }

/-- `AccessCommand`. -/
inductive AccessCommand
  | list
  | allow (peer : String) (capabilities : List String)
  | revoke (peer : String)
  deriving DecidableEq, Repr

/-- The line of an entry. -/
def entryLine (entry : AllowedController) : String :=
  sanitizeForDisplay entry.tailnetNodeId displayNameLimit ++ "\t" ++
    sanitizeForDisplay (entry.label.getD "—") displayNameLimit ++ "\t" ++
      ",".intercalate (entry.capabilities.map ControlCapability.asStr)

/-- `access`. -/
def access (command : AccessCommand) : CliA Unit := do
  orText (ask .accessPath)
  match command with
  | .list =>
      let entries ← storing Platform.list
      entries.forM fun entry => println (entryLine entry)
  | .allow peer requested =>
      let capabilities ← ExceptT.mk (return parseCapabilities requested)
      let identity ← resolveTailnetIdentity peer
      let now ← liftM (ask .now)
      storing (Platform.allow (newController identity (some peer) now capabilities))
      println ("Allowed " ++ peer)
  | .revoke peer =>
      let resolved ← liftM (resolveTailnetIdentity peer).run
      storing (Platform.revoke (resolved.toOption.getD peer))
      println ("Revoked " ++ peer)

/-! ### The surroundings of a command -/

/-- What a command finds: its environment, the configuration and the peers, or why not. -/
structure Moment where
  path : Except String Unit
  config : Except String Config
  peers : PortResult (List MeshPeer)

/-- The surroundings of a command. Only the allowlist changes. -/
def cliWorld (moment : Moment) : World CliCall CliAnswer (Option (List AllowedController))
  | .accessPath, file, answer, after => answer = moment.path ∧ after = file
  | .loadConfig, file, answer, after => answer = moment.config ∧ after = file
  | .peers, file, answer, after => answer = moment.peers ∧ after = file
  | .store call, file, answer, after => storeWorld call file answer after
  | _, file, _, after => after = file

/-- At this moment the name means the device: the configuration and the peers are there, and the
device alone is called that. -/
def Names (moment : Moment) (name : String) (tailnetNodeId : String) : Prop :=
  ∃ config peers peer, moment.config = .ok config ∧ moment.peers = .ok peers ∧
    findPeer peers (config.nameOf name) = .ok peer ∧ peer.tailnetNodeId = tailnetNodeId

/-- What a name is resolved to at this moment. -/
def Moment.resolve (moment : Moment) (name : String) : Except CliError String := do
  let config ← moment.config.mapError .text
  let peers ← moment.peers.mapError .port
  match findPeer peers (config.nameOf name) with
  | .ok peer => return peer.tailnetNodeId
  | .error error => throw (.text (lookupMessage (config.nameOf name) error))

theorem Moment.resolve_ok {path : Except String Unit} {config : Config} {peers : List MeshPeer}
    {name : String} : Moment.resolve ⟨path, .ok config, .ok peers⟩ name =
      match findPeer peers (config.nameOf name) with
      | .ok peer => .ok peer.tailnetNodeId
      | .error error => .error (.text (lookupMessage (config.nameOf name) error)) := rfl

theorem Moment.resolve_eq_ok_iff {moment : Moment} {name tailnetNodeId : String} :
    moment.resolve name = .ok tailnetNodeId ↔ Names moment name tailnetNodeId := by
  obtain ⟨path, message | config, peers⟩ := moment
  · exact ⟨nofun, by rintro ⟨_, _, _, ⟨⟩, _⟩⟩
  obtain error | peers := peers
  · exact ⟨nofun, by rintro ⟨_, _, _, _, ⟨⟩, _⟩⟩
  rw [Moment.resolve_ok]
  cases search : findPeer peers (config.nameOf name) <;> simp [Names, search]

section Runs

variable {moment : Moment} {name : String} {file after : Option (List AllowedController)}

/-- Resolving a name only reads, and finds what it resolves to at this moment. -/
theorem ends_resolve {result : Except CliError String} :
    Ends (cliWorld moment) (resolveTailnetIdentity name).run file result after ↔
      result = moment.resolve name ∧ after = file := by
  obtain ⟨path, message | config, peers⟩ := moment
  · exact (ends_ask_of_eq fun _ _ => Iff.rfl).trans ends_done
  refine (ends_ask_of_eq fun _ _ => Iff.rfl).trans ?_
  obtain error | peers := peers
  · exact (ends_ask_of_eq fun _ _ => Iff.rfl).trans ends_done
  refine (ends_ask_of_eq fun _ _ => Iff.rfl).trans ?_
  dsimp only [Program.bind, Function.comp_apply, Except.mapError, ExceptT.bindCont]
  rw [Moment.resolve_ok]
  cases findPeer peers (config.nameOf name) <;> exact ends_done

/-- An operation of the allowlist succeeds as it does on its own. -/
theorem ends_storing_ok {operation : StoreA Unit} :
    Ends (cliWorld moment) (storing operation).run file (.ok ()) after ↔
      Ends storeWorld operation.run file (.ok ()) after := by
  have inner : Ends (cliWorld moment) (within CliCall.store operation.run) file (.ok ()) after ↔
      Ends storeWorld operation.run file (.ok ()) after := ends_within
  have outer : Ends (cliWorld moment) (storing operation).run file (.ok ()) after ↔
      ∃ result, .ok () = Except.mapError CliError.port result ∧
        Ends (cliWorld moment) (within CliCall.store operation.run) file result after := ends_map
  rw [outer, ← inner]
  constructor
  · rintro ⟨error | _, same, run⟩
    · cases same
    · exact run
  · exact fun run => ⟨.ok (), rfl, run⟩

/-- A change and the line that reports it. -/
theorem ends_reported {change : AccessChange} {line : String}
    (run : Ends (cliWorld moment) (do storing change.program; println line : CliA Unit).run file
      (.ok ()) after) : after = some (change.apply (file.getD [])) := by
  obtain ⟨_, stored, changed, _, _, _, _, rfl, printed, _, _, rfl⟩ := ends_run_bind_ok.mp run
  obtain rfl : _ = stored := printed
  exact ends_change_ok.mp (ends_storing_ok.mp changed)

/-- **An allow that succeeds** stores an entry for the device the name means. -/
theorem ends_allow_ok {requested : List String}
    (run : Ends (cliWorld moment) (access (.allow name requested)).run file (.ok ()) after) :
    ∃ controller, Names moment name controller.tailnetNodeId ∧ controller.label = some name ∧
      after = some ((AccessChange.allow controller).apply (file.getD [])) := by
  obtain ⟨_, _, ⟨_, _, _, _, rfl, ⟨_, rfl⟩, _, _, rfl⟩, onward⟩ := ends_run_bind_ok.mp run
  obtain ⟨capabilities, _, ⟨_, _, _, rfl⟩, parsed⟩ := ends_run_bind_ok.mp onward
  obtain ⟨identity, _, resolved, named⟩ := ends_run_bind_ok.mp parsed
  obtain ⟨same, rfl⟩ := ends_resolve.mp resolved
  obtain ⟨now, _, ⟨_, _, _, _, rfl, timed, _, _, rfl⟩, rest⟩ := ends_run_bind_ok.mp named
  obtain rfl : _ = _ := timed
  exact ⟨newController identity (some name) now capabilities, Moment.resolve_eq_ok_iff.mp same.symm, rfl,
    ends_reported rest⟩

/-- **A revoke that succeeds** removes the device the name means, or the name itself when it means
none. -/
theorem ends_revoke_ok
    (run : Ends (cliWorld moment) (access (.revoke name)).run file (.ok ()) after) :
    ∃ tailnetNodeId, (Names moment name tailnetNodeId ∨
        (∀ other, ¬ Names moment name other) ∧ tailnetNodeId = name) ∧
      after = some (without tailnetNodeId (file.getD [])) := by
  obtain ⟨_, _, ⟨_, _, _, _, rfl, ⟨_, rfl⟩, _, _, rfl⟩, onward⟩ := ends_run_bind_ok.mp run
  obtain ⟨resolved, _, resolving, rest⟩ := ends_run_bind_ok.mp onward
  obtain ⟨result, same, resolving⟩ := ends_map.mp resolving
  cases same
  obtain ⟨same, rfl⟩ := ends_resolve.mp resolving
  refine ⟨resolved.toOption.getD name, ?_, @ends_reported _ _ _ (.revoke _) _ rest⟩
  cases resolved with
  | error error =>
      refine .inr ⟨fun other named => ?_, rfl⟩
      cases same.trans (Moment.resolve_eq_ok_iff.mpr named)
  | ok tailnetNodeId => exact .inl (Moment.resolve_eq_ok_iff.mp same.symm)

/-- The path of the allowlist is found, and the change is made and reported. -/
theorem ends_report {change : AccessChange} {line : String} :
    Ends (cliWorld moment) (do storing change.program; println line : CliA Unit).run file
      (.ok ()) (some (change.apply (file.getD []))) :=
  ends_run_bind_ok.mpr ⟨(), _, ends_storing_ok.mpr (ends_change_ok.mpr rfl),
    ends_ask.mpr ⟨(), _, rfl, ends_done.mpr ⟨rfl, rfl⟩⟩⟩

/-- An allow can succeed for every device that is named. -/
theorem ends_allow {requested : List String} {tailnetNodeId : String}
    {capabilities : List ControlCapability} (located : moment.path = .ok ())
    (parsed : parseCapabilities requested = .ok capabilities)
    (named : Names moment name tailnetNodeId) (now : Int) :
    Ends (cliWorld moment) (access (.allow name requested)).run file (.ok ())
      (some ((AccessChange.allow (newController tailnetNodeId (some name) now capabilities)).apply
        (file.getD []))) := by
  have resolved : Ends (cliWorld moment) (resolveTailnetIdentity name).run file
      (.ok tailnetNodeId) file :=
    ends_resolve.mpr ⟨(Moment.resolve_eq_ok_iff.mpr named).symm, rfl⟩
  refine ends_run_bind_ok.mpr ⟨(), file, ends_ask.mpr ⟨.ok (), _, ⟨located.symm, rfl⟩,
    ends_done.mpr ⟨rfl, rfl⟩⟩, ?_⟩
  refine ends_run_bind_ok.mpr ⟨capabilities, file, ends_done.mpr ⟨parsed.symm, rfl⟩, ?_⟩
  refine ends_run_bind_ok.mpr ⟨tailnetNodeId, file, resolved, ?_⟩
  exact ends_run_bind_ok.mpr ⟨now, file, ends_ask.mpr ⟨now, _, rfl, ends_done.mpr ⟨rfl, rfl⟩⟩,
    @ends_report _ _ (.allow _) _⟩

/-- A revoke can succeed whatever its name resolves to. -/
theorem ends_revoke (located : moment.path = .ok ()) :
    Ends (cliWorld moment) (access (.revoke name)).run file (.ok ())
      (some (without ((moment.resolve name).toOption.getD name) (file.getD []))) := by
  refine ends_run_bind_ok.mpr ⟨(), file, ends_ask.mpr ⟨.ok (), _, ⟨located.symm, rfl⟩,
    ends_done.mpr ⟨rfl, rfl⟩⟩, ?_⟩
  exact ends_run_bind_ok.mpr ⟨moment.resolve name, file,
    ends_map.mpr ⟨_, rfl, ends_resolve.mpr ⟨rfl, rfl⟩⟩, @ends_report _ _ (.revoke _) _⟩

end Runs

/-! ### A revoke after an allow -/

theorem Names.unique {moment : Moment} {name first second : String} (one : Names moment name first)
    (other : Names moment name second) : first = second := by
  obtain ⟨config, peers, peer, loaded, answered, found, rfl⟩ := one
  obtain ⟨config', peers', peer', loaded', answered', found', rfl⟩ := other
  obtain rfl : config = config' := Except.ok.inj (loaded.symm.trans loaded')
  obtain rfl : peers = peers' := Except.ok.inj (answered.symm.trans answered')
  obtain rfl : peer = peer' := Except.ok.inj (found.symm.trans found')
  rfl

/-- The entries of a device. -/
def entriesOf (tailnetNodeId : String) (file : Option (List AllowedController)) :
    List AllowedController :=
  (file.getD []).filter fun entry => entry.tailnetNodeId == tailnetNodeId

/-- **What an allow stored, the revoke of the same name removes** exactly when the name still means
the same device, or means none and is its identifier. Nothing else has touched the device's entry. -/
theorem revoked_iff {earlier later : Moment} {name tailnetNodeId : String} {requested : List String}
    {file allowed found revoked : Option (List AllowedController)}
    (allows : Ends (cliWorld earlier) (access (.allow name requested)).run file (.ok ()) allowed)
    (means : Names earlier name tailnetNodeId)
    (untouched : entriesOf tailnetNodeId found = entriesOf tailnetNodeId allowed)
    (revokes : Ends (cliWorld later) (access (.revoke name)).run found (.ok ()) revoked) :
    entriesOf tailnetNodeId revoked = [] ↔ Names later name tailnetNodeId ∨
      (∀ other, ¬ Names later name other) ∧ name = tailnetNodeId := by
  obtain ⟨controller, named, _, rfl⟩ := ends_allow_ok allows
  obtain rfl := named.unique means
  obtain ⟨removed, target, rfl⟩ := ends_revoke_ok revokes
  have present : controller ∈ entriesOf controller.tailnetNodeId found := by
    rw [untouched]
    simp [entriesOf, AccessChange.apply]
  have gone : entriesOf controller.tailnetNodeId (some (without removed (found.getD []))) = [] ↔
      removed = controller.tailnetNodeId := by
    constructor
    · intro empty
      by_contra other
      have member : controller ∈ without removed (found.getD []) :=
        mem_without.mpr ⟨(List.mem_filter.mp present).1, Ne.symm other⟩
      have : controller ∈ entriesOf controller.tailnetNodeId
          (some (without removed (found.getD []))) := List.mem_filter.mpr ⟨member, beq_self_eq_true _⟩
      rw [empty] at this
      cases this
    · rintro rfl
      refine List.filter_eq_nil_iff.mpr fun entry member same => ?_
      exact (mem_without.mp member).2 (eq_of_beq same)
  rw [gone]
  constructor
  · rintro rfl
    exact target.imp_right fun ⟨nothing, same⟩ => ⟨nothing, same.symm⟩
  · rintro (names | ⟨nothing, rfl⟩)
    · obtain other | ⟨nothing, _⟩ := target
      · exact other.unique names
      · exact absurd names (nothing _)
    · obtain other | ⟨_, same⟩ := target
      · exact absurd other (nothing _)
      · exact same

/-- The entry an allow stores in an empty list. -/
private def laptopEntry : AllowedController :=
  newController "nLaptop" (some "laptop") 0 ControlCapability.all

/-- A moment at which Tailscale knows one device, by this hostname. -/
private def knowing (hostname : String) : Moment where
  path := .ok ()
  config := .ok ⟨∅, 48155⟩
  peers := .ok [⟨"nLaptop", none, some hostname, [], true, .direct, none⟩]

/-- A moment at which Tailscale does not answer. -/
private def unreachable : Moment where
  path := .ok ()
  config := .ok ⟨∅, 48155⟩
  peers := .error ⟨"TAILSCALE_FAILED", "", true⟩

private theorem names_laptop : Names (knowing "laptop") "laptop" "nLaptop" := by
  have found : findPeer [⟨"nLaptop", none, some "laptop", [], true, .direct, none⟩] "laptop" =
      .ok ⟨"nLaptop", none, some "laptop", [], true, .direct, none⟩ :=
    findPeer_eq_ok_iff.mpr (by decide)
  exact ⟨_, _, _, rfl, rfl, found, rfl⟩

private theorem allows_laptop : Ends (cliWorld (knowing "laptop")) (access (.allow "laptop" [])).run
    none (.ok ()) (some [laptopEntry]) :=
  ends_allow rfl rfl names_laptop 0

/-- Allowed under a hostname and revoked under it, while Tailscale lists the device. -/
theorem revoked_iff_reachable : ∃ revoked,
    Ends (cliWorld (knowing "laptop")) (access (.revoke "laptop")).run (some [laptopEntry])
      (.ok ()) revoked ∧ entriesOf "nLaptop" revoked = [] :=
  ⟨_, ends_revoke rfl, (revoked_iff allows_laptop names_laptop rfl (ends_revoke rfl)).mpr
    (.inl names_laptop)⟩

/-- **A revoke can report success and leave the entry.** Tailscale does not answer, so the name itself
is looked for in the list. -/
theorem revoke_without_effect : ¬ ∀ (earlier later : Moment) (name tailnetNodeId : String)
    (requested : List String) (file allowed found revoked : Option (List AllowedController)),
    Ends (cliWorld earlier) (access (.allow name requested)).run file (.ok ()) allowed →
      Names earlier name tailnetNodeId →
        entriesOf tailnetNodeId found = entriesOf tailnetNodeId allowed →
          Ends (cliWorld later) (access (.revoke name)).run found (.ok ()) revoked →
            entriesOf tailnetNodeId revoked = [] := by
  intro claim
  have run : Ends (cliWorld unreachable) (access (.revoke "laptop")).run (some [laptopEntry])
      (.ok ()) (some [laptopEntry]) := ends_revoke rfl
  have empty := claim _ _ _ _ _ _ _ _ _ allows_laptop names_laptop rfl run
  cases empty

end Omdesky.Cli
