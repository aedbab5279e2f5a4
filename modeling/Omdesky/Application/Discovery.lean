/-
**Discovering the other computers (`omdesky-application/src/discovery.rs`, `readiness.rs`).**

* `DiscoveredNode`, `probe`, `execute`: one peer is asked for its health and for its node
  information, and what stands in the way of a connection is listed as blockers.
* `accessBlockers`, `incompatibleBlocker`: the blockers and the command that fixes each.
* `probe_blocked_iff`: a node is blocked exactly when its list of blockers is not empty.
* `earned_iff`: a node can be connected to only when the peer has earned it, exactly when no refusal
  of the node information is overlooked.
-/

import Omdesky.Application.Access
import Omdesky.Interaction.Program
import Omdesky.Protocol
import Mathlib.Data.List.Dedup
import Mathlib.Data.List.Sort
import Mathlib.Data.String.Basic

namespace Omdesky.Application

open Interaction Interaction.Program

/-! ### The calls -/

/-- `MAX_DISCOVERY_PEERS`. -/
def maxDiscoveryPeers : Nat := 1024

/-- `NodeCapabilities`: sorted, each once. -/
structure NodeCapabilities where
  capabilities : List String
  sorted : capabilities.Pairwise (· ≤ ·)
  nodup : capabilities.Nodup
  deriving DecidableEq

namespace NodeCapabilities

/-- `NodeCapabilities::new`. -/
def new (capabilities : List String) : NodeCapabilities where
  capabilities := capabilities.dedup.mergeSort
  sorted := List.pairwise_mergeSort' (· ≤ ·) capabilities.dedup
  nodup := (List.mergeSort_perm _ _).nodup_iff.mpr capabilities.nodup_dedup

/-- `NodeCapabilities::default`. -/
def empty : NodeCapabilities := ⟨[], .nil, .nil⟩

end NodeCapabilities

/-- `DiscoveredNode`. -/
structure DiscoveredNode where
  tailnetNodeId : String
  name : String
  address : IpAddr
  status : NodeStatus
  blockers : List NodeBlocker
  connection : ConnectionKind
  latencyMs : Option UInt32
  agentVersion : Option String
  omarchyVersion : Option String
  capabilities : NodeCapabilities
  isLocal : Bool
  deriving DecidableEq

/-- A call of the discovery. `now` reads the clock, and `completed` waits for all the probes, which
finish in any order. -/
inductive DiscoveryCall
  | localNode
  | peers
  | list
  | now
  | health (endpoint : AgentEndpoint)
  | nodeInfo (endpoint : AgentEndpoint)
  | completed (nodes : List DiscoveredNode)

/-- The answer to each call. -/
abbrev DiscoveryAnswer : DiscoveryCall → Type
  | .localNode => PortResult MeshNodeIdentity
  | .peers => PortResult (List MeshPeer)
  | .list => PortResult (List AllowedController)
  | .now => Instant
  | .health _ => PortResult HealthResponse
  | .nodeInfo _ => PortResult NodeInfoResponse
  | .completed nodes => { order : List DiscoveredNode // order.Perm nodes }

/-- A program of the discovery. -/
abbrev DiscoveryM := Program DiscoveryCall DiscoveryAnswer

/-! ### Nodes and their blockers -/

namespace DiscoveredNode

/-- `DiscoveredNode::from_peer`. -/
def fromPeer (peer : MeshPeer) (name : String) (address : IpAddr) (isLocal : Bool) :
    DiscoveredNode where
  tailnetNodeId := peer.tailnetNodeId
  name := name
  address := address
  status := .unavailable
  blockers := []
  connection := peer.connection
  latencyMs := peer.latencyMs
  agentVersion := none
  omarchyVersion := none
  capabilities := .empty
  isLocal := isLocal

/-- `DiscoveredNode::with_status`. -/
def withStatus (node : DiscoveredNode) (status : NodeStatus) : DiscoveredNode := { node with status }

/-- `DiscoveredNode::with_blockers`. -/
def withBlockers (node : DiscoveredNode) (blockers : List NodeBlocker) : DiscoveredNode :=
  { node with status := if blockers.isEmpty then .ready else .blocked, blockers }

/-- The node of a peer whose agent has answered for its health. -/
def withHealth (node : DiscoveredNode) (health : HealthResponse) (latencyMs : UInt32) :
    DiscoveredNode :=
  { node with latencyMs := some latencyMs, agentVersion := some health.agentVersion }

/-- `DiscoveredNode::with_info`. -/
def withInfo (node : DiscoveredNode) : Option NodeInfoResponse → DiscoveredNode
  | some info =>
      { node with
        agentVersion := some info.agentVersion
        omarchyVersion := some info.omarchyVersion
        capabilities := .new info.capabilities }
  | none => node

@[simp] theorem withInfo_isLocal (node : DiscoveredNode) (info : Option NodeInfoResponse) :
    (node.withInfo info).isLocal = node.isLocal := by cases info <;> rfl

@[simp] theorem withInfo_tailnetNodeId (node : DiscoveredNode) (info : Option NodeInfoResponse) :
    (node.withInfo info).tailnetNodeId = node.tailnetNodeId := by cases info <;> rfl

@[simp] theorem withInfo_status (node : DiscoveredNode) (info : Option NodeInfoResponse) :
    (node.withInfo info).status = node.status := by cases info <;> rfl

@[simp] theorem withInfo_blockers (node : DiscoveredNode) (info : Option NodeInfoResponse) :
    (node.withInfo info).blockers = node.blockers := by cases info <;> rfl

/-- `DiscoveredNode::is_connectable`. -/
def isConnectable (node : DiscoveredNode) : Bool := !node.isLocal && node.status == .ready

end DiscoveredNode

/-- `DiscoveryContext`. -/
structure DiscoveryContext where
  allowlist : List AllowedController
  localName : String
  includeAll : Bool

/-- The context of `DiscoverNodes::execute`: an allowlist that cannot be read counts as empty. -/
def DiscoveryContext.gather (self : MeshNodeIdentity) (listed : PortResult (List AllowedController))
    (includeAll : Bool) : DiscoveryContext where
  allowlist := listed.toOption.getD []
  localName := self.hostname.getD self.tailnetNodeId
  includeAll := includeAll

/-- `ensure_compatible_agent`. -/
def ensureCompatibleAgent (health : HealthResponse) : PortResult Unit :=
  if health.protocol == protocol && isCompatibleRelease health.agentVersion then .ok ()
  else .error
    { code := "VERSION_INCOMPATIBLE"
      message := "the device runs Omdesky " ++ health.agentVersion ++ " and this computer runs " ++
        release
      retryable := false }

/-- `ensure_controller_ready`. -/
def ensureControllerReady (localAgent : PortResult HealthResponse) (sunshineConfigured : Bool) :
    PortResult Unit :=
  match localAgent with
  | .error _ =>
      .error
        { code := "LOCAL_AGENT_UNAVAILABLE"
          message := "the local omdesky-agent is not running"
          retryable := true }
  | .ok health =>
      match ensureCompatibleAgent health with
      | .error error =>
          .error { code := "LOCAL_AGENT_INCOMPATIBLE", message := error.message, retryable := false }
      | .ok () =>
          if sunshineConfigured then .ok ()
          else
            .error
              { code := "LOCAL_SUNSHINE_UNCONFIGURED"
                message := "Sunshine credentials are not configured on this controller"
                retryable := false }

/-- `incompatible_blocker`. -/
def incompatibleBlocker (remoteVersion : String) (isLocal : Bool) : NodeBlocker :=
  if isLocal then
    { code := .incompatible, side := .local, fix := "Restart omdesky-agent" }
  else
    let remoteIsNewer :=
      match ReleaseLine.parse remoteVersion, ReleaseLine.current with
      | some remote, some current => remote.newerThan current
      | _, _ => false
    if remoteIsNewer then
      { code := .incompatible, side := .local, fix := "Install Omdesky " ++ remoteVersion }
    else
      { code := .incompatible, side := .remote, fix := "Install Omdesky " ++ release }

/-- The command that allows a device. -/
def allowCommand (name : String) : String := "omdesky access allow " ++ name

/-- `access_blockers`. -/
def accessBlockers (infoError : Option PortError) (context : DiscoveryContext)
    (tailnetNodeId remoteName : String) : List NodeBlocker :=
  let denied :=
    match infoError.map PortError.code with
    | some "UNAUTHORIZED" | some "CAPABILITY_DENIED" =>
        [{ code := .denied, side := .remote, fix := allowCommand context.localName }]
    | _ => []
  let needsAccess :=
    if (missingCallbackCapabilities context.allowlist tailnetNodeId).isEmpty then []
    else [{ code := .needsAccess, side := .local, fix := allowCommand remoteName }]
  denied ++ needsAccess

/-- `blocker_message`. -/
def blockerMessage (nodeName : String) (blocker : NodeBlocker) : String :=
  let place :=
    match blocker.side with
    | .local => "on this computer"
    | .remote => "on " ++ nodeName
  match blocker.code with
  | .incompatible =>
      nodeName ++ " runs a different Omdesky release. " ++ blocker.fix ++ " " ++ place ++ "."
  | .denied =>
      nodeName ++ " does not allow this computer. Run `" ++ blocker.fix ++ "` " ++ place ++ "."
  | .needsAccess =>
      "This computer does not accept shortcuts from " ++ nodeName ++ ". Run `" ++ blocker.fix ++
        "` " ++ place ++ "."

/-- `measured_latency_ms`. -/
def measuredLatencyMs (elapsed : Duration) (isLocal : Bool) : UInt32 :=
  if isLocal then 0 else UInt32.ofNat (max 1 (min (elapsed / 1000000) (2 ^ 32 - 1)))

/-! ### Probing a peer -/

/-- The address a peer is asked at: its first IPv4 address, or its first one. -/
def probeAddress (peer : MeshPeer) : Option IpAddr :=
  (peer.ips.find? IpAddr.isIpv4).or peer.ips.head?

/-- What a peer is called. -/
def probeName (peer : MeshPeer) : String :=
  (peer.hostname.or peer.dnsName).getD peer.tailnetNodeId

/-- The blockers of a peer whose agent has answered for its node information. -/
def probeBlockers (info : PortResult NodeInfoResponse) (remoteVersion : String)
    (context : DiscoveryContext) (node : DiscoveredNode) : List NodeBlocker :=
  match info with
  | .error ⟨"VERSION_INCOMPATIBLE", _, _⟩ => [incompatibleBlocker remoteVersion node.isLocal]
  | .error error =>
      if node.isLocal then []
      else accessBlockers (some error) context node.tailnetNodeId node.name
  | .ok _ =>
      if node.isLocal then [] else accessBlockers none context node.tailnetNodeId node.name

/-- `DiscoverNodes::probe`. -/
def probe (agentPort : UInt16) (peer : MeshPeer) (isLocal : Bool) (context : DiscoveryContext) :
    DiscoveryM (Option DiscoveredNode) := do
  match probeAddress peer with
  | none => return none
  | some address =>
      let node := DiscoveredNode.fromPeer peer (probeName peer) address isLocal
      if !peer.online then
        return if context.includeAll then some (node.withStatus .offline) else none
      let endpoint : AgentEndpoint := { address, port := agentPort }
      let probeStarted ← perform DiscoveryCall.now
      match ← perform (DiscoveryCall.health endpoint) with
      | .error _ => return if context.includeAll then some node else none
      | .ok health =>
          let answered ← perform DiscoveryCall.now
          let node := node.withHealth health (measuredLatencyMs (answered - probeStarted) isLocal)
          if (ensureCompatibleAgent health).isOk then
            let info ← perform (DiscoveryCall.nodeInfo endpoint)
            let blockers := probeBlockers info health.agentVersion context node
            return some ((node.withBlockers blockers).withInfo info.toOption)
          else
            return some (node.withBlockers [incompatibleBlocker health.agentVersion isLocal])

/-- The order of the result: this computer first, then by name. -/
def listedBefore (left right : DiscoveredNode) : Bool :=
  if left.isLocal == right.isLocal then left.name ≤ right.name else left.isLocal

/-- The probes of the peers. Each asks only its own agent, so they are asked one after another. -/
def probeAll (agentPort : UInt16) (context : DiscoveryContext) :
    List MeshPeer → DiscoveryM (List DiscoveredNode)
  | [] => return []
  | peer :: peers => do
      let node ← probe agentPort peer false context
      let nodes ← probeAll agentPort context peers
      return node.toList ++ nodes

/-- The peer this computer is to itself. -/
def localPeer (self : MeshNodeIdentity) : MeshPeer where
  tailnetNodeId := self.tailnetNodeId
  dnsName := none
  hostname := self.hostname
  ips := self.addresses
  online := true
  connection := .direct
  latencyMs := some 0

/-- The peers, unless there are too many. -/
def listPeers : ExceptT PortError DiscoveryM (List MeshPeer) := do
  let peers ← ExceptT.mk (perform DiscoveryCall.peers)
  if maxDiscoveryPeers < peers.length then
    throw
      { code := "DISCOVERY_PEER_LIMIT"
        message := "the tailnet contains too many peers to discover safely"
        retryable := false }
  else
    return peers

/-- The nodes, in the order in which they are shown. -/
def probeNodes (agentPort : UInt16) (context : DiscoveryContext) (self : MeshNodeIdentity)
    (peers : List MeshPeer) : DiscoveryM (List DiscoveredNode) := do
  let here ← probe agentPort (localPeer self) true context
  let probed ← probeAll agentPort context peers
  let completed ← perform (DiscoveryCall.completed probed)
  return (here.toList ++ completed.val).mergeSort listedBefore

/-- `DiscoverNodes::execute`. -/
def execute (agentPort : UInt16) (includeAllTailnet : Bool) :
    ExceptT PortError DiscoveryM (List DiscoveredNode) := do
  let self ← ExceptT.mk (perform DiscoveryCall.localNode)
  let peers ← listPeers
  let listed ← liftM (perform DiscoveryCall.list : DiscoveryM _)
  liftM (probeNodes agentPort (.gather self listed includeAllTailnet) self peers)

/-! ### What a probe finds -/

/-- The events of a discovery. -/
abbrev DiscoveryEvent := Event DiscoveryCall DiscoveryAnswer

/-- A node whose probe has not asked for the node information. -/
structure Unasked (peer : MeshPeer) (isLocal : Bool) (trace : List DiscoveryEvent)
    (node : DiscoveredNode) : Prop where
  isLocal_eq : node.isLocal = isLocal
  tailnetNodeId_eq : node.tailnetNodeId = peer.tailnetNodeId
  unready : node.status ≠ .ready
  blocked : node.status = .blocked ↔ node.blockers ≠ []
  unasked : ∀ endpoint info, (⟨.nodeInfo endpoint, info⟩ : DiscoveryEvent) ∉ trace
  admitted : ∀ blocker ∈ node.blockers, blocker.code = .incompatible

/-- A node whose probe has asked a compatible agent for the node information: the answer decides the
blockers. -/
structure Asked (peer : MeshPeer) (isLocal : Bool) (context : DiscoveryContext)
    (trace : List DiscoveryEvent) (node plain : DiscoveredNode) (endpoint : AgentEndpoint)
    (health : HealthResponse) (info : PortResult NodeInfoResponse) : Prop where
  online : peer.online = true
  address : endpoint.address ∈ peer.ips
  compatible : (ensureCompatibleAgent health).isOk = true
  calls : ∃ started answered, trace = [⟨.now, started⟩, ⟨.health endpoint, .ok health⟩,
    ⟨.now, answered⟩, ⟨.nodeInfo endpoint, info⟩]
  isLocal_eq : plain.isLocal = isLocal
  tailnetNodeId_eq : plain.tailnetNodeId = peer.tailnetNodeId
  name_eq : plain.name = probeName peer
  node_eq : node = (plain.withBlockers (probeBlockers info health.agentVersion context plain)).withInfo
    info.toOption

theorem incompatibleBlocker_code (remoteVersion : String) (isLocal : Bool) :
    (incompatibleBlocker remoteVersion isLocal).code = .incompatible := by
  unfold incompatibleBlocker
  dsimp only
  split_ifs <;> rfl

theorem ensureCompatibleAgent_isOk {health : HealthResponse} :
    (ensureCompatibleAgent health).isOk = true ↔
      health.protocol = protocol ∧ isCompatibleRelease health.agentVersion = true := by
  unfold ensureCompatibleAgent
  split
  · next current => simpa [Except.isOk, Except.toBool] using current
  · next current => simpa [Except.isOk, Except.toBool] using current

theorem probeAddress_mem {peer : MeshPeer} {address : IpAddr}
    (found : probeAddress peer = some address) : address ∈ peer.ips := by
  rcases Option.or_eq_some_iff.mp found with first | ⟨_, first⟩
  · exact List.mem_of_find?_eq_some first
  · exact List.mem_of_head? first

/-- The blocker of a missing callback names the peer. -/
theorem fix_of_mem_probeBlockers {info : PortResult NodeInfoResponse} {remoteVersion : String}
    {context : DiscoveryContext} {node : DiscoveredNode} {blocker : NodeBlocker}
    (member : blocker ∈ probeBlockers info remoteVersion context node)
    (needs : blocker.code = .needsAccess) : blocker.fix = allowCommand node.name := by
  have named {infoError : Option PortError}
      (member : blocker ∈ accessBlockers infoError context node.tailnetNodeId node.name) :
      blocker.fix = allowCommand node.name := by
    unfold accessBlockers at member
    rcases List.mem_append.mp member with denied | missing
    · split at denied
      all_goals simp at denied
      all_goals simp [denied] at needs
    · split at missing
      · cases missing
      · obtain rfl := List.mem_singleton.mp missing
        rfl
  unfold probeBlockers at member
  split at member
  · obtain rfl := List.mem_singleton.mp member
    rw [incompatibleBlocker_code] at needs
    cases needs
  · split at member
    · cases member
    · exact named member
  · split at member
    · cases member
    · exact named member

/-- The codes of the refusals that make a blocker. -/
def refusalCodes : List String := ["VERSION_INCOMPATIBLE", "UNAUTHORIZED", "CAPABILITY_DENIED"]

/-- Nothing blocks another computer exactly when both callbacks are granted to it and it did not
answer with one of the refusals. -/
theorem probeBlockers_eq_nil {info : PortResult NodeInfoResponse} {remoteVersion : String}
    {context : DiscoveryContext} {node : DiscoveredNode} (remote : node.isLocal = false) :
    probeBlockers info remoteVersion context node = [] ↔
      missingCallbackCapabilities context.allowlist node.tailnetNodeId = [] ∧
        ∀ error, info = .error error → error.code ∉ refusalCodes := by
  unfold probeBlockers
  split
  · simp [refusalCodes]
  · next error other =>
    have current : error.code ≠ "VERSION_INCOMPATIBLE" := by
      obtain ⟨code, message, retryable⟩ := error
      rintro rfl
      exact other message retryable rfl
    rw [remote]
    simp only [accessBlockers, Option.map_some, Bool.false_eq_true, if_false, List.append_eq_nil_iff]
    split
    · next denied => simp [refusalCodes, Option.some.inj denied]
    · next denied => simp [refusalCodes, Option.some.inj denied]
    · next unauthorized denied =>
      have listed : error.code ∉ refusalCodes := by
        simpa [refusalCodes, current] using And.intro unauthorized denied
      simp [listed]
  · rw [remote]
    simp [accessBlockers]

/-- What makes a node ready to connect to. -/
structure Earned (peer : MeshPeer) (isLocal : Bool) (listed : PortResult (List AllowedController))
    (trace : List DiscoveryEvent) : Prop where
  remote : isLocal = false
  online : peer.online = true
  compatible : ∃ endpoint health, (⟨.health endpoint, .ok health⟩ : DiscoveryEvent) ∈ trace ∧
    endpoint.address ∈ peer.ips ∧ health.protocol = protocol ∧
      isCompatibleRelease health.agentVersion = true
  answered : ∃ endpoint info, (⟨.nodeInfo endpoint, .ok info⟩ : DiscoveryEvent) ∈ trace ∧
    endpoint.address ∈ peer.ips
  allowed : ∃ controllers entry, listed = .ok controllers ∧
    controllers.find? (fun entry => entry.tailnetNodeId == peer.tailnetNodeId) = some entry ∧
      ∀ capability ∈ ControlCapability.callback, entry.allows capability = true

section Probe

variable {agentPort : UInt16} {peer : MeshPeer} {isLocal : Bool} {context : DiscoveryContext}
  {trace : List DiscoveryEvent} {node : DiscoveredNode}

theorem unasked_plain (here : node.isLocal = isLocal)
    (same : node.tailnetNodeId = peer.tailnetNodeId) (unready : node.status ≠ .ready)
    (unblocked : node.status ≠ .blocked) (free : node.blockers = [])
    (unasked : ∀ endpoint info, (⟨.nodeInfo endpoint, info⟩ : DiscoveryEvent) ∉ trace) :
    Unasked peer isLocal trace node where
  isLocal_eq := here
  tailnetNodeId_eq := same
  unready := unready
  blocked := iff_of_false unblocked (not_not_intro free)
  unasked := unasked
  admitted := by simp [free]

/-- **A probe that yields a node** has either not asked for the node information, and the node is not
ready, or it has asked a compatible agent of an online peer. -/
theorem probe_cases (run : Traces (probe agentPort peer isLocal context) trace (some node)) :
    Unasked peer isLocal trace node ∨ ∃ plain endpoint health info,
      Asked peer isLocal context trace node plain endpoint health info := by
  unfold probe at run
  cases found : probeAddress peer with
  | none =>
      rw [found] at run
      obtain ⟨_, ⟨⟩⟩ := run
  | some address =>
      rw [found] at run
      dsimp only at run
      cases online : peer.online with
      | false =>
          rw [online] at run
          obtain ⟨rfl, shown⟩ := run
          cases all : context.includeAll <;> rw [all] at shown <;> cases shown
          exact .inl (unasked_plain rfl rfl nofun nofun rfl fun _ _ => List.not_mem_nil)
      | true =>
          rw [online] at run
          obtain ⟨started, _, rfl, error | health, _, rfl, rest⟩ := run
          · obtain ⟨rfl, shown⟩ := rest
            cases all : context.includeAll <;> rw [all] at shown <;> cases shown
            exact .inl (unasked_plain rfl rfl nofun nofun rfl (by simp))
          · cases compatible : (ensureCompatibleAgent health).isOk with
            | false =>
                obtain ⟨answered, _, rfl, rest⟩ := rest
                rw [compatible] at rest
                obtain ⟨rfl, shown⟩ := rest
                cases shown
                exact .inl ⟨rfl, rfl, nofun, by simp [DiscoveredNode.withBlockers], by simp, by
                  simp [DiscoveredNode.withBlockers, incompatibleBlocker_code]⟩
            | true =>
                obtain ⟨answered, _, rfl, rest⟩ := rest
                rw [compatible] at rest
                obtain ⟨info, _, rfl, rfl, shown⟩ := rest
                cases shown
                exact .inr ⟨_, _, health, info,
                  { online := online
                    address := probeAddress_mem found
                    compatible := compatible
                    calls := ⟨started, answered, rfl⟩
                    isLocal_eq := rfl
                    tailnetNodeId_eq := rfl
                    name_eq := rfl
                    node_eq := rfl }⟩

/-- A compatible agent of an online peer is asked for its node information, whatever it answers. -/
theorem probe_asks {address : IpAddr} {health : HealthResponse} {plain : DiscoveredNode}
    (found : probeAddress peer = some address) (online : peer.online = true)
    (compatible : (ensureCompatibleAgent health).isOk = true) (started answered : Instant)
    (heard : plain = (DiscoveredNode.fromPeer peer (probeName peer) address isLocal).withHealth health
      (measuredLatencyMs (answered - started) isLocal)) (info : PortResult NodeInfoResponse) :
    Traces (probe agentPort peer isLocal context)
      [⟨.now, started⟩, ⟨.health ⟨address, agentPort⟩, .ok health⟩, ⟨.now, answered⟩,
        ⟨.nodeInfo ⟨address, agentPort⟩, info⟩]
      (some ((plain.withBlockers (probeBlockers info health.agentVersion context plain)).withInfo
        info.toOption)) := by
  subst heard
  unfold probe
  rw [found]
  dsimp only
  rw [online]
  refine ⟨started, _, rfl, .ok health, _, rfl, answered, _, rfl, ?_⟩
  dsimp only [Program.bind]
  rw [compatible]
  exact ⟨info, _, rfl, rfl, rfl⟩

/-- A node is the peer's. -/
theorem probe_identity (run : Traces (probe agentPort peer isLocal context) trace (some node)) :
    node.isLocal = isLocal ∧ node.tailnetNodeId = peer.tailnetNodeId := by
  obtain unasked | ⟨plain, endpoint, health, info, asked⟩ := probe_cases run
  · exact ⟨unasked.isLocal_eq, unasked.tailnetNodeId_eq⟩
  · rw [asked.node_eq, DiscoveredNode.withInfo_isLocal, DiscoveredNode.withInfo_tailnetNodeId]
    exact ⟨asked.isLocal_eq, asked.tailnetNodeId_eq⟩

/-- What a node is told to allow is the peer's name. -/
theorem fix_of_needsAccess (run : Traces (probe agentPort peer isLocal context) trace (some node))
    {blocker : NodeBlocker} (member : blocker ∈ node.blockers) (needs : blocker.code = .needsAccess) :
    blocker.fix = allowCommand (probeName peer) := by
  obtain unasked | ⟨plain, endpoint, health, info, asked⟩ := probe_cases run
  · cases (unasked.admitted blocker member).symm.trans needs
  · rw [asked.node_eq, DiscoveredNode.withInfo_blockers] at member
    rw [← asked.name_eq]
    exact fix_of_mem_probeBlockers member needs

/-- The remote nodes are found by the probes of the peers. -/
theorem probed_of_mem {peers : List MeshPeer} {nodes : List DiscoveredNode}
    (run : Traces (probeAll agentPort context peers) trace nodes) (member : node ∈ nodes) :
    ∃ peer ∈ peers, ∃ part, Traces (probe agentPort peer false context) part (some node) := by
  induction peers generalizing trace nodes with
  | nil =>
      obtain ⟨_, rfl⟩ := run
      cases member
  | cons peer peers ih =>
      obtain ⟨early, _, found, rfl, probed, rest⟩ := traces_bind.mp run
      obtain ⟨middle, last, others, rfl, later, _, rfl⟩ := traces_bind.mp rest
      rcases List.mem_append.mp member with here | there
      · exact ⟨peer, List.mem_cons_self, early, Option.mem_toList.mp here ▸ probed⟩
      · obtain ⟨other, listed, part, run⟩ := ih later there
        exact ⟨other, List.mem_cons_of_mem _ listed, part, run⟩

/-- **A node is blocked exactly when something blocks it.** -/
theorem probe_blocked_iff (run : Traces (probe agentPort peer isLocal context) trace (some node)) :
    node.status = .blocked ↔ node.blockers ≠ [] := by
  obtain unasked | ⟨plain, endpoint, health, info, asked⟩ := probe_cases run
  · exact unasked.blocked
  · rw [asked.node_eq]
    simp [DiscoveredNode.withBlockers]

theorem isConnectable_withInfo {plain : DiscoveredNode} {blockers : List NodeBlocker}
    {info : Option NodeInfoResponse} :
    ((plain.withBlockers blockers).withInfo info).isConnectable = true ↔
      plain.isLocal = false ∧ blockers = [] := by
  simp [DiscoveredNode.isConnectable, DiscoveredNode.withBlockers]

theorem Asked.isConnectable_iff {plain : DiscoveredNode} {endpoint : AgentEndpoint}
    {health : HealthResponse} {info : PortResult NodeInfoResponse}
    (asked : Asked peer isLocal context trace node plain endpoint health info) :
    node.isConnectable = true ↔
      isLocal = false ∧ probeBlockers info health.agentVersion context plain = [] := by
  rw [asked.node_eq, isConnectable_withInfo, asked.isLocal_eq]

/-- An answer, and an allowlist that grants both callbacks, have earned it. -/
theorem Asked.earned {plain : DiscoveredNode} {endpoint : AgentEndpoint} {health : HealthResponse}
    {answer : NodeInfoResponse} {self : MeshNodeIdentity}
    {listed : PortResult (List AllowedController)} {includeAll : Bool}
    (asked : Asked peer false (DiscoveryContext.gather self listed includeAll) trace node plain
      endpoint health (.ok answer))
    (granted : missingCallbackCapabilities (listed.toOption.getD []) peer.tailnetNodeId = []) :
    Earned peer false listed trace := by
  obtain ⟨started, answered, rfl⟩ := asked.calls
  obtain ⟨entry, found, allows⟩ := missingCallbackCapabilities_eq_nil.mp granted
  obtain ⟨current, release⟩ := ensureCompatibleAgent_isOk.mp asked.compatible
  exact
    { remote := rfl
      online := asked.online
      compatible := ⟨endpoint, health, by simp, asked.address, current, release⟩
      answered := ⟨endpoint, answer, by simp, asked.address⟩
      allowed := by
        cases listed with
        | error error => cases found
        | ok controllers => exact ⟨controllers, entry, rfl, found, allows⟩ }

/-- A refusal earns nothing. -/
theorem Asked.unearned {plain : DiscoveredNode} {endpoint : AgentEndpoint} {health : HealthResponse}
    {error : PortError} {listed : PortResult (List AllowedController)}
    (asked : Asked peer isLocal context trace node plain endpoint health (.error error)) :
    ¬ Earned peer isLocal listed trace := by
  obtain ⟨started, answered, rfl⟩ := asked.calls
  rintro ⟨_, _, _, ⟨_, _, member, _⟩, _⟩
  simp at member

/-- **A node is ready to connect to only when its peer has earned it**, exactly when no refusal is
overlooked: an agent that was asked for its node information answered, or refused with a code that
makes a blocker, or the peer could not be ready anyway. -/
theorem earned_iff {self : MeshNodeIdentity} {listed : PortResult (List AllowedController)}
    {includeAll : Bool} (run : Traces (probe agentPort peer isLocal
      (DiscoveryContext.gather self listed includeAll)) trace (some node)) :
    ((node.isConnectable = true → Earned peer isLocal listed trace) ∧
        (node.status = .blocked ↔ node.blockers ≠ [])) ↔
      isLocal = true ∨
        missingCallbackCapabilities (listed.toOption.getD []) peer.tailnetNodeId ≠ [] ∨
          ∀ endpoint error, (⟨.nodeInfo endpoint, .error error⟩ : DiscoveryEvent) ∈ trace →
            error.code ∈ refusalCodes := by
  rw [and_iff_left (probe_blocked_iff run)]
  obtain unasked | ⟨plain, endpoint, health, info, asked⟩ := probe_cases run
  · have unready : node.isConnectable = false := by
      simp [DiscoveredNode.isConnectable, unasked.unready]
    simp only [unready, Bool.false_eq_true, false_implies, true_iff]
    exact .inr (.inr fun endpoint error asked => absurd asked (unasked.unasked _ _))
  · cases isLocal with
    | true => simp [asked.isConnectable_iff]
    | false =>
        rw [asked.isConnectable_iff, and_iff_right rfl, probeBlockers_eq_nil asked.isLocal_eq,
          asked.tailnetNodeId_eq]
        cases info with
        | ok info =>
            obtain ⟨started, answered, rfl⟩ := asked.calls
            exact iff_of_true (fun ⟨granted, _⟩ => asked.earned granted) (.inr (.inr (by simp)))
        | error error =>
            simp only [asked.unearned, imp_false]
            obtain ⟨started, answered, rfl⟩ := asked.calls
            by_cases granted : missingCallbackCapabilities (listed.toOption.getD [])
                peer.tailnetNodeId = []
            · simp [DiscoveryContext.gather, granted]
            · simp [DiscoveryContext.gather, granted]

end Probe

/-- A computer of the tailnet. -/
private def desk : MeshPeer where
  tailnetNodeId := "nDesk"
  dnsName := none
  hostname := some "desk-b"
  ips := [.v4 100 64 0 2]
  online := true
  connection := .direct
  latencyMs := none

/-- This computer. -/
private def thisComputer : MeshNodeIdentity := ⟨"nHere", none, some "desk-a", []⟩

/-- This computer's allowlist, in which the desk has both callbacks. -/
private def allowingDesk : PortResult (List AllowedController) :=
  .ok [⟨"nDesk", some "desk-b", 0, ControlCapability.all⟩]

/-- What the desk answers for its health. -/
private def deskHealth : HealthResponse := ⟨"ok", protocol, release⟩

/-- The desk, before anything is said about what blocks it. -/
private def deskHeard : DiscoveredNode :=
  (DiscoveredNode.fromPeer desk "desk-b" (.v4 100 64 0 2) false).withHealth deskHealth 1

/-- The context of this computer. -/
private def hereContext : DiscoveryContext := .gather thisComputer allowingDesk false

/-- The node of the desk after its answer. -/
private def deskNode (info : PortResult NodeInfoResponse) : DiscoveredNode :=
  (deskHeard.withBlockers (probeBlockers info release hereContext deskHeard)).withInfo info.toOption

private theorem desk_asks (info : PortResult NodeInfoResponse) :
    Traces (probe 47991 desk false hereContext)
      [⟨.now, 0⟩, ⟨.health ⟨.v4 100 64 0 2, 47991⟩, .ok deskHealth⟩, ⟨.now, 0⟩,
        ⟨.nodeInfo ⟨.v4 100 64 0 2, 47991⟩, info⟩] (some (deskNode info)) :=
  probe_asks rfl rfl (ensureCompatibleAgent_isOk.mpr ⟨rfl, by decide⟩) 0 0 rfl info

private theorem deskNode_isConnectable {info : PortResult NodeInfoResponse}
    (fine : ∀ error, info = .error error → error.code ∉ refusalCodes) :
    (deskNode info).isConnectable = true :=
  isConnectable_withInfo.mpr ⟨rfl, (probeBlockers_eq_nil rfl).mpr ⟨by decide, fine⟩⟩

/-- The desk answers everything, and is ready because it has earned it. -/
theorem earned_iff_answered : ∃ trace node, Traces (probe 47991 desk false
    (DiscoveryContext.gather thisComputer allowingDesk false)) trace (some node) ∧
      node.isConnectable = true ∧ Earned desk false allowingDesk trace := by
  have run := desk_asks (.ok ⟨"nDesk", "desk-b", "4.0", release, []⟩)
  have connectable : (deskNode (.ok ⟨"nDesk", "desk-b", "4.0", release, []⟩)).isConnectable = true :=
    deskNode_isConnectable fun _ => nofun
  exact ⟨_, _, run, connectable, ((earned_iff run).mpr (.inr (.inr (by simp)))).1 connectable⟩

/-- **A refusal for another reason is overlooked.** The desk cannot confirm who is asking, and is shown
as ready. -/
theorem ready_unearned : ¬ ∀ (agentPort : UInt16) (peer : MeshPeer) (isLocal : Bool)
    (self : MeshNodeIdentity) (listed : PortResult (List AllowedController)) (includeAll : Bool)
    (trace : List DiscoveryEvent) (node : DiscoveredNode),
    Traces (probe agentPort peer isLocal (DiscoveryContext.gather self listed includeAll)) trace
        (some node) →
      (node.isConnectable = true → Earned peer isLocal listed trace) ∧
        (node.status = .blocked ↔ node.blockers ≠ []) := by
  intro claim
  have run := desk_asks (.error ⟨"IDENTITY_UNAVAILABLE", "", true⟩)
  have connectable : (deskNode (.error ⟨"IDENTITY_UNAVAILABLE", "", true⟩)).isConnectable = true :=
    deskNode_isConnectable (by rintro _ ⟨⟩; decide)
  obtain ⟨_, _, _, ⟨_, _, answered, _⟩, _⟩ := (claim _ _ _ _ _ _ _ _ run).1 connectable
  simp at answered

end Omdesky.Application
