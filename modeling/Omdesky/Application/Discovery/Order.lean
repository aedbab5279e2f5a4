/-
**The order of the discovered computers.**

Tailscale lists the peers in any order, and their probes end in any order; a stable sort by name is to
restore one. What is measured apart, the nodes are determined by the answers.

* `Tailnet`, `Tailnet.world`: what the discovery is told, in any order and at any pace.
* `Tailnet.shown`: the node of a peer, its latency apart; `shown_of_ends` proves it for every probe.
* `ends_probeNodes`: the result is this computer's node and the nodes of the peers, sorted by name.
* `shown_eq_iff`: two peers have the same node exactly when they are twins.
* `settled_iff`: **the result depends on no order** exactly when peers that are shown under one name are
  twins.
-/

import Mathlib.Data.List.Perm.Basic
import Omdesky.Application.Discovery
import Omdesky.Collections.StableSort
import Omdesky.Interaction.World

namespace Omdesky.Application

open Interaction Interaction.Program

/-- The node without its measured latency. -/
def DiscoveredNode.unmeasured (node : DiscoveredNode) : DiscoveredNode := { node with latencyMs := none }

/-- What the discovery is told by Tailscale, by the allowlist and by the agents. -/
structure Tailnet where
  self : MeshNodeIdentity
  peers : List MeshPeer
  listed : PortResult (List AllowedController)
  health : AgentEndpoint → PortResult HealthResponse
  nodeInfo : AgentEndpoint → PortResult NodeInfoResponse

namespace Tailnet

variable (tailnet : Tailnet) (agentPort : UInt16) (includeAll : Bool)

/-- The answers, when the peers come in any order, the clock shows anything, and the probes end in any
order. -/
def world : World DiscoveryCall DiscoveryAnswer Unit
  | .localNode, (), answer, () => answer = .ok tailnet.self
  | .peers, (), answer, () => ∃ order : List MeshPeer, order.Perm tailnet.peers ∧ answer = .ok order
  | .list, (), answer, () => answer = tailnet.listed
  | .now, (), _, () => True
  | .health endpoint, (), answer, () => answer = tailnet.health endpoint
  | .nodeInfo endpoint, (), answer, () => answer = tailnet.nodeInfo endpoint
  | .completed _, (), _, () => True

/-- The same answers in the given order, with a clock that stands still. -/
def answers : ∀ call, DiscoveryAnswer call
  | .localNode => .ok tailnet.self
  | .peers => .ok tailnet.peers
  | .list => tailnet.listed
  | .now => 0
  | .health endpoint => tailnet.health endpoint
  | .nodeInfo endpoint => tailnet.nodeInfo endpoint
  | .completed nodes => ⟨nodes, .refl nodes⟩

/-- The context of the probes. -/
def context : DiscoveryContext := .gather tailnet.self tailnet.listed includeAll

/-- The node that a probe yields, its latency apart. -/
def shown (isLocal : Bool) (peer : MeshPeer) : Option DiscoveredNode :=
  ((probe agentPort peer isLocal (tailnet.context includeAll)).under tailnet.answers).2.map
    DiscoveredNode.unmeasured

/-- The discovery can end so. -/
def Finds (result : PortResult (List DiscoveredNode)) : Prop :=
  Ends tailnet.world (execute agentPort includeAll).run () result ()

/-! ### One probe -/

/-- What a probe makes of the answers. -/
def nodeAt (isLocal : Bool) (peer : MeshPeer) (measured : UInt32) (address : IpAddr) :
    Option DiscoveredNode :=
  let context := tailnet.context includeAll
  let node := DiscoveredNode.fromPeer peer (probeName peer) address isLocal
  if !peer.online then
    if includeAll then some (node.withStatus .offline) else none
  else
    match tailnet.health ⟨address, agentPort⟩ with
    | .error _ => if includeAll then some node else none
    | .ok health =>
        let node := node.withHealth health measured
        if (ensureCompatibleAgent health).isOk then
          let info := tailnet.nodeInfo ⟨address, agentPort⟩
          some ((node.withBlockers (probeBlockers info health.agentVersion context node)).withInfo
            info.toOption)
        else some (node.withBlockers [incompatibleBlocker health.agentVersion isLocal])

variable {tailnet agentPort includeAll} {isLocal : Bool} {peer : MeshPeer}
  {found : Option DiscoveredNode}

/-- **Every probe** makes this of the answers. -/
theorem ends_probe
    (run : Ends tailnet.world (probe agentPort peer isLocal (tailnet.context includeAll)) () found ()) :
    ∃ measured, found =
      (probeAddress peer).bind (tailnet.nodeAt agentPort includeAll isLocal peer measured) := by
  unfold probe at run
  unfold nodeAt
  obtain ⟨trace, run⟩ := run
  cases located : probeAddress peer with
  | none =>
      rw [located] at run
      exact ⟨0, run.2.1⟩
  | some address =>
      rw [located] at run
      dsimp only [Option.bind_some] at run ⊢
      cases online : peer.online with
      | false =>
          rw [online] at run
          exact ⟨0, run.2.1⟩
      | true =>
          rw [online] at run
          obtain ⟨started, _, _, rfl, _, answer, _, _, rfl, heard, run⟩ := run
          obtain rfl : answer = tailnet.health ⟨address, agentPort⟩ := heard
          cases health : tailnet.health ⟨address, agentPort⟩ with
          | error error =>
              rw [health] at run
              exact ⟨0, run.2.1⟩
          | ok response =>
              rw [health] at run
              obtain ⟨answered, _, _, rfl, _, run⟩ := run
              refine ⟨measuredLatencyMs (answered - started) isLocal, ?_⟩
              dsimp only
              cases compatible : (ensureCompatibleAgent response).isOk with
              | false =>
                  rw [compatible] at run
                  exact run.2.1
              | true =>
                  rw [compatible] at run
                  obtain ⟨info, _, _, rfl, told, run⟩ := run
                  obtain rfl : info = tailnet.nodeInfo ⟨address, agentPort⟩ := told
                  exact run.2.1

theorem world_answers (call : DiscoveryCall) : tailnet.world call () (tailnet.answers call) () := by
  cases call with
  | peers => exact ⟨tailnet.peers, .refl _, rfl⟩
  | now | completed => trivial
  | localNode | list | health | nodeInfo => rfl

/-- The latency is all that is measured. -/
theorem unmeasured_nodeAt (measured other : UInt32) (address : IpAddr) :
    (tailnet.nodeAt agentPort includeAll isLocal peer measured address).map
        DiscoveredNode.unmeasured =
      (tailnet.nodeAt agentPort includeAll isLocal peer other address).map
        DiscoveredNode.unmeasured := by
  unfold nodeAt
  dsimp only
  cases peer.online with
  | false => rfl
  | true =>
      cases tailnet.health ⟨address, agentPort⟩ with
      | error error => rfl
      | ok response =>
          dsimp only
          cases (ensureCompatibleAgent response).isOk with
          | false => rfl
          | true => cases tailnet.nodeInfo ⟨address, agentPort⟩ <;> rfl

/-- The node of a peer, spelled out. -/
theorem shown_eq : tailnet.shown agentPort includeAll isLocal peer =
    ((probeAddress peer).bind (tailnet.nodeAt agentPort includeAll isLocal peer 0)).map
      DiscoveredNode.unmeasured := by
  obtain ⟨measured, same⟩ := ends_probe (ends_under world_answers
    (probe agentPort peer isLocal (tailnet.context includeAll)))
  rw [shown, same]
  cases probeAddress peer with
  | none => rfl
  | some address => exact unmeasured_nodeAt measured 0 address

/-- **Every probe yields the same node**, its latency apart. -/
theorem shown_of_ends
    (run : Ends tailnet.world (probe agentPort peer isLocal (tailnet.context includeAll)) () found ()) :
    found.map DiscoveredNode.unmeasured = tailnet.shown agentPort includeAll isLocal peer := by
  obtain ⟨measured, rfl⟩ := ends_probe run
  rw [shown_eq]
  cases probeAddress peer with
  | none => rfl
  | some address => exact unmeasured_nodeAt measured 0 address

/-! ### All probes -/

theorem ends_probeAll {peers : List MeshPeer} {nodes : List DiscoveredNode}
    (run : Ends tailnet.world (probeAll agentPort (tailnet.context includeAll) peers) () nodes ()) :
    nodes.map DiscoveredNode.unmeasured =
      peers.filterMap (tailnet.shown agentPort includeAll false) := by
  induction peers generalizing nodes with
  | nil =>
      rw [(ends_done.mp run).1]
      rfl
  | cons peer peers ih =>
      obtain ⟨found, ⟨⟩, probed, rest⟩ := ends_bind.mp run
      obtain ⟨others, ⟨⟩, later, done⟩ := ends_bind.mp rest
      rw [(ends_done.mp done).1, List.map_append, ih later, List.filterMap_cons, ← shown_of_ends probed]
      cases found <;> rfl

theorem exists_probeAll (peers : List MeshPeer) : ∃ nodes,
    Ends tailnet.world (probeAll agentPort (tailnet.context includeAll) peers) () nodes () :=
  ⟨_, ends_under world_answers _⟩

/-- The latency does not count for the order. -/
theorem unmeasured_mergeSort (nodes : List DiscoveredNode) :
    (nodes.mergeSort listedBefore).map DiscoveredNode.unmeasured =
      (nodes.map DiscoveredNode.unmeasured).mergeSort listedBefore :=
  List.map_mergeSort fun _ _ _ _ => rfl

/-- **What is shown**: this computer and the peers, in some order, and sorted. -/
theorem ends_probeNodes {peers : List MeshPeer} {nodes : List DiscoveredNode}
    (run : Ends tailnet.world
      (probeNodes agentPort (tailnet.context includeAll) tailnet.self peers) () nodes ()) :
    ∃ order : List DiscoveredNode,
      order.Perm (peers.filterMap (tailnet.shown agentPort includeAll false)) ∧
        nodes.map DiscoveredNode.unmeasured =
          ((tailnet.shown agentPort includeAll true (localPeer tailnet.self)).toList ++ order).mergeSort
            listedBefore := by
  obtain ⟨here, ⟨⟩, probed, rest⟩ := ends_bind.mp run
  obtain ⟨found, ⟨⟩, others, rest⟩ := ends_bind.mp rest
  obtain ⟨completed, ⟨⟩, _, done⟩ := ends_bind.mp rest
  refine ⟨completed.val.map DiscoveredNode.unmeasured, ?_, ?_⟩
  · rw [← ends_probeAll others]
    exact completed.property.map _
  · rw [(ends_done.mp done).1, unmeasured_mergeSort, List.map_append,
      ← shown_of_ends probed]
    cases here <;> rfl

/-- Every order of the peers' nodes can be what the sort gets. -/
theorem exists_probeNodes {peers : List MeshPeer} {order : List DiscoveredNode}
    (same : order.Perm (peers.filterMap (tailnet.shown agentPort includeAll false))) :
    ∃ nodes, Ends tailnet.world
        (probeNodes agentPort (tailnet.context includeAll) tailnet.self peers) () nodes () ∧
      nodes.map DiscoveredNode.unmeasured =
        ((tailnet.shown agentPort includeAll true (localPeer tailnet.self)).toList ++ order).mergeSort
          listedBefore := by
  obtain ⟨found, others⟩ := @exists_probeAll tailnet agentPort includeAll peers
  rw [← ends_probeAll others] at same
  obtain ⟨completed, rfl, perm⟩ : ∃ completed : List DiscoveredNode,
      order = completed.map DiscoveredNode.unmeasured ∧ completed.Perm found := by
    have split := congrFun (congrFun (List.eq_map_comp_perm DiscoveredNode.unmeasured) order) found
    exact split.mpr same
  have here := ends_under (@world_answers tailnet)
    (probe agentPort (localPeer tailnet.self) true (tailnet.context includeAll))
  refine ⟨_, ends_bind.mpr ⟨_, (), here, ends_bind.mpr ⟨found, (), others, ends_bind.mpr
    ⟨⟨completed, perm⟩, (), ends_perform.mpr trivial, ends_done.mpr ⟨rfl, rfl⟩⟩⟩⟩, ?_⟩
  rw [unmeasured_mergeSort, List.map_append, ← shown_of_ends here]
  cases (under tailnet.answers
    (probe agentPort (localPeer tailnet.self) true (tailnet.context includeAll))).2 <;> rfl

/-! ### The order -/

theorem listedBefore_trans (first second third : DiscoveredNode) (early : listedBefore first second = true)
    (late : listedBefore second third = true) : listedBefore first third = true := by
  unfold listedBefore at *
  cases here : first.isLocal <;> cases there : second.isLocal <;> cases last : third.isLocal <;>
    simp only [here, there, last, beq_self_eq_true, if_true, decide_eq_true_eq] at early late ⊢ <;>
    first | exact le_trans early late | simp_all

theorem listedBefore_total (first second : DiscoveredNode) :
    (listedBefore first second || listedBefore second first) = true := by
  unfold listedBefore
  cases here : first.isLocal <;> cases there : second.isLocal <;>
    simp [le_total first.name second.name]

/-- What a node says of its peer. -/
structure Describes (isLocal : Bool) (peer : MeshPeer) (node : DiscoveredNode) : Prop where
  isLocal_eq : node.isLocal = isLocal
  name_eq : node.name = probeName peer
  tailnetNodeId_eq : node.tailnetNodeId = peer.tailnetNodeId
  address_eq : probeAddress peer = some node.address
  connection_eq : node.connection = peer.connection
  offline_iff : node.status = .offline ↔ peer.online = false

theorem describes_of_shown {node : DiscoveredNode}
    (shown : tailnet.shown agentPort includeAll isLocal peer = some node) :
    Describes isLocal peer node := by
  rw [shown_eq, Option.map_eq_some_iff] at shown
  obtain ⟨plain, made, rfl⟩ := shown
  obtain ⟨address, located, made⟩ := Option.bind_eq_some_iff.mp made
  have blocked (blockers : List NodeBlocker) :
      (if blockers.isEmpty then NodeStatus.ready else .blocked) ≠ .offline := by
    cases blockers <;> nofun
  unfold nodeAt at made
  cases online : peer.online with
  | false =>
      rw [online] at made
      cases includeAll with
      | false => cases made
      | true =>
          cases made
          exact ⟨rfl, rfl, rfl, located, rfl, iff_of_true rfl online⟩
  | true =>
      rw [online] at made
      have offline {status : NodeStatus} (other : status ≠ .offline) :
          status = .offline ↔ peer.online = false := iff_of_false other (by simp [online])
      cases health : tailnet.health ⟨address, agentPort⟩ with
      | error error =>
          rw [health] at made
          cases includeAll with
          | false => cases made
          | true =>
              cases made
              exact ⟨rfl, rfl, rfl, located, rfl, offline nofun⟩
      | ok response =>
          rw [health] at made
          dsimp only at made
          cases compatible : (ensureCompatibleAgent response).isOk with
          | false =>
              rw [compatible] at made
              cases made
              exact ⟨rfl, rfl, rfl, located, rfl, offline nofun⟩
          | true =>
              rw [compatible] at made
              obtain rfl := (Option.some.inj made).symm
              cases tailnet.nodeInfo ⟨address, agentPort⟩ with
              | error error => exact ⟨rfl, rfl, rfl, located, rfl, offline (blocked _)⟩
              | ok info => exact ⟨rfl, rfl, rfl, located, rfl, offline (blocked _)⟩

/-- Two peers that no node tells apart. -/
structure Twins (first second : MeshPeer) : Prop where
  tailnetNodeId_eq : first.tailnetNodeId = second.tailnetNodeId
  address_eq : probeAddress first = probeAddress second
  connection_eq : first.connection = second.connection
  online_eq : first.online = second.online

/-- Twins under one name have the same node. -/
theorem shown_congr {first second : MeshPeer} (named : probeName first = probeName second)
    (twins : Twins first second) :
    tailnet.shown agentPort includeAll isLocal first =
      tailnet.shown agentPort includeAll isLocal second := by
  rw [shown_eq, shown_eq, twins.address_eq]
  cases probeAddress second with
  | none => rfl
  | some address =>
      rw [Option.bind_some, Option.bind_some]
      unfold nodeAt DiscoveredNode.fromPeer
      rw [named, twins.tailnetNodeId_eq, twins.connection_eq, twins.online_eq]
      dsimp only
      cases second.online with
      | false => cases includeAll <;> rfl
      | true =>
          cases tailnet.health ⟨address, agentPort⟩ with
          | error error => cases includeAll <;> rfl
          | ok response =>
              dsimp only
              cases (ensureCompatibleAgent response).isOk with
              | false => rfl
              | true => cases tailnet.nodeInfo ⟨address, agentPort⟩ <;> rfl

/-- **Nodes of one name are equal** exactly when their peers are twins. -/
theorem shown_eq_iff {first second : MeshPeer} {left right : DiscoveredNode}
    (shownLeft : tailnet.shown agentPort includeAll isLocal first = some left)
    (shownRight : tailnet.shown agentPort includeAll isLocal second = some right) :
    left = right ↔ probeName first = probeName second ∧ Twins first second := by
  constructor
  · rintro rfl
    have here := describes_of_shown shownLeft
    have there := describes_of_shown shownRight
    refine ⟨here.name_eq.symm.trans there.name_eq, here.tailnetNodeId_eq.symm.trans there.tailnetNodeId_eq,
      here.address_eq.trans there.address_eq.symm, here.connection_eq.symm.trans there.connection_eq, ?_⟩
    have same := here.offline_iff.symm.trans there.offline_iff
    cases online : first.online <;> cases other : second.online <;> simp_all
  · rintro ⟨named, twins⟩
    rw [shown_congr named twins] at shownLeft
    exact Option.some.inj (shownLeft.symm.trans shownRight)

variable (tailnet agentPort includeAll) in
/-- The peer is shown: it has an address, and its agent answers for its health unless every computer of
the tailnet is asked for. -/
def Shown (peer : MeshPeer) : Prop :=
  ∃ address, probeAddress peer = some address ∧
    (includeAll = true ∨ peer.online = true ∧ (tailnet.health ⟨address, agentPort⟩).isOk = true)

theorem shown_iff : tailnet.Shown agentPort includeAll peer ↔
    ∃ node, tailnet.shown agentPort includeAll isLocal peer = some node := by
  rw [shown_eq]
  unfold Shown
  cases probeAddress peer with
  | none => simp
  | some address =>
      simp only [Option.some.injEq, Option.bind_some, exists_eq_left']
      unfold nodeAt
      cases peer.online with
      | false => cases includeAll <;> simp
      | true =>
          cases tailnet.health ⟨address, agentPort⟩ with
          | error error => cases includeAll <;> simp [Except.isOk, Except.toBool]
          | ok response =>
              have answered : (Except.ok response : PortResult HealthResponse).isOk = true := rfl
              dsimp only
              rw [answered]
              cases (ensureCompatibleAgent response).isOk <;> simp

/-! ### The whole discovery -/

/-- The error of too many peers. -/
def tooMany : PortError where
  code := "DISCOVERY_PEER_LIMIT"
  message := "the tailnet contains too many peers to discover safely"
  retryable := false

theorem ends_listPeers {listed : PortResult (List MeshPeer)} :
    Ends tailnet.world listPeers.run () listed () ↔ ∃ order : List MeshPeer,
      order.Perm tailnet.peers ∧
        listed = if maxDiscoveryPeers < tailnet.peers.length then .error tooMany else .ok order := by
  unfold listPeers
  rw [ends_run_bind]
  simp only [ExceptT.run_mk, ends_perform]
  constructor
  · rintro (⟨error, _, order, _, ⟨⟩⟩ | ⟨value, ⟨⟩, ⟨order, same, ⟨⟩⟩, run⟩)
    refine ⟨value, same, ?_⟩
    rw [same.length_eq] at run
    split_ifs at run ⊢ <;> exact (ends_done.mp run).1
  · rintro ⟨order, same, rfl⟩
    refine .inr ⟨order, (), ⟨order, same, rfl⟩, ?_⟩
    rw [same.length_eq]
    split_ifs <;> exact ends_done.mpr ⟨rfl, rfl⟩

/-- The discovery fails for too many peers, or shows the nodes of the peers. -/
theorem finds_iff {result : PortResult (List DiscoveredNode)} :
    tailnet.Finds agentPort includeAll result ↔
      if maxDiscoveryPeers < tailnet.peers.length then result = .error tooMany
      else ∃ order nodes, order.Perm tailnet.peers ∧ result = .ok nodes ∧
        Ends tailnet.world
          (probeNodes agentPort (tailnet.context includeAll) tailnet.self order) () nodes () := by
  have asked : ∀ outcome reached, Ends tailnet.world
      (ExceptT.mk (perform DiscoveryCall.localNode) : ExceptT PortError DiscoveryM _).run () outcome
        reached ↔ outcome = .ok tailnet.self ∧ reached = () :=
    fun outcome reached => ends_perform.trans (by simp [world])
  have told : ∀ outcome reached, Ends tailnet.world
      (liftM (perform DiscoveryCall.list : DiscoveryM _) : ExceptT PortError DiscoveryM _).run ()
        outcome reached ↔ outcome = .ok tailnet.listed ∧ reached = () :=
    fun outcome reached => ends_map.trans (by simp [ends_perform, world])
  unfold Finds execute
  rw [ends_run_ok asked, ends_run_bind]
  split_ifs with crowded
  · constructor
    · rintro (⟨error, rfl, early⟩ | ⟨peers, ⟨⟩, early, _⟩)
      · obtain ⟨order, _, same⟩ := ends_listPeers.mp early
        rw [if_pos crowded] at same
        cases same
        rfl
      · obtain ⟨order, _, same⟩ := ends_listPeers.mp early
        rw [if_pos crowded] at same
        cases same
    · rintro rfl
      exact .inl ⟨_, rfl, ends_listPeers.mpr ⟨tailnet.peers, .refl _, (if_pos crowded).symm⟩⟩
  · constructor
    · rintro (⟨error, rfl, early⟩ | ⟨peers, ⟨⟩, early, run⟩)
      · obtain ⟨order, _, same⟩ := ends_listPeers.mp early
        rw [if_neg crowded] at same
        cases same
      · obtain ⟨order, perm, same⟩ := ends_listPeers.mp early
        rw [if_neg crowded] at same
        cases same
        have late := (ends_run_ok told).mp run
        obtain ⟨nodes, rfl, probed⟩ := ends_map.mp late
        exact ⟨peers, nodes, perm, rfl, probed⟩
    · rintro ⟨order, nodes, perm, rfl, run⟩
      have early := ends_listPeers.mpr ⟨order, perm, (if_neg crowded).symm⟩
      exact .inr ⟨order, (), early, (ends_run_ok told).mpr (ends_map.mpr ⟨nodes, rfl, run⟩)⟩

variable (tailnet agentPort includeAll) in
/-- This computer's own node. -/
def here : List DiscoveredNode :=
  (tailnet.shown agentPort includeAll true (localPeer tailnet.self)).toList

variable (tailnet agentPort includeAll) in
/-- The nodes of the other computers. -/
def others : List DiscoveredNode :=
  tailnet.peers.filterMap (tailnet.shown agentPort includeAll false)

theorem isLocal_of_mem_others {node : DiscoveredNode}
    (member : node ∈ tailnet.others agentPort includeAll) : node.isLocal = false := by
  obtain ⟨peer, _, shown⟩ := List.mem_filterMap.mp member
  exact (describes_of_shown shown).isLocal_eq

/-- Among the other computers, the names decide. -/
theorem listedBefore_others {first second : DiscoveredNode}
    (left : first ∈ tailnet.others agentPort includeAll)
    (right : second ∈ tailnet.others agentPort includeAll) :
    listedBefore first second = true ↔ first.name ≤ second.name := by
  simp [listedBefore, isLocal_of_mem_others left, isLocal_of_mem_others right]

/-- This computer is always first. -/
theorem mergeSort_here {order : List DiscoveredNode}
    (same : order.Perm (tailnet.others agentPort includeAll)) :
    (tailnet.here agentPort includeAll ++ order).mergeSort listedBefore =
      tailnet.here agentPort includeAll ++ order.mergeSort listedBefore := by
  unfold here
  cases own : tailnet.shown agentPort includeAll true (localPeer tailnet.self) with
  | none => rfl
  | some node =>
      refine Collections.mergeSort_cons_of_first listedBefore_trans listedBefore_total ?_
      intro item member
      have isLocal := (describes_of_shown own).isLocal_eq
      simp [listedBefore, isLocal, isLocal_of_mem_others (same.mem_iff.mp member)]

/-- **What can be shown**: this computer, and the others in any order, sorted. -/
theorem finds_ok_iff (few : ¬ maxDiscoveryPeers < tailnet.peers.length)
    {listing : List DiscoveredNode} :
    (∃ nodes, tailnet.Finds agentPort includeAll (.ok nodes) ∧
        nodes.map DiscoveredNode.unmeasured = listing) ↔
      ∃ order : List DiscoveredNode, order.Perm (tailnet.others agentPort includeAll) ∧
        listing = tailnet.here agentPort includeAll ++ order.mergeSort listedBefore := by
  constructor
  · rintro ⟨nodes, finds, rfl⟩
    rw [finds_iff, if_neg few] at finds
    obtain ⟨peers, _, same, ⟨⟩, run⟩ := finds
    obtain ⟨order, found, sorted⟩ := ends_probeNodes run
    have all := found.trans (same.filterMap _)
    exact ⟨order, all, sorted.trans (mergeSort_here all)⟩
  · rintro ⟨order, same, rfl⟩
    obtain ⟨nodes, run, sorted⟩ := exists_probeNodes same
    refine ⟨nodes, ?_, sorted.trans (mergeSort_here same)⟩
    rw [finds_iff, if_neg few]
    exact ⟨tailnet.peers, nodes, .refl _, rfl, run⟩

/-! ### What is independent of the order -/

variable (tailnet agentPort includeAll) in
/-- The list of nodes is settled by the answers: the order of the peers and the pace of the probes do not
matter, and it is this computer's node and then each peer's, by name. -/
structure Settled : Prop where
  same : ∀ result result' : PortResult (List DiscoveredNode),
    tailnet.Finds agentPort includeAll result → tailnet.Finds agentPort includeAll result' →
      result.map (List.map DiscoveredNode.unmeasured) =
        result'.map (List.map DiscoveredNode.unmeasured)
  listed : ∀ nodes, tailnet.Finds agentPort includeAll (.ok nodes) →
    ∃ listing, nodes.map DiscoveredNode.unmeasured = tailnet.here agentPort includeAll ++ listing ∧
      listing.Perm (tailnet.others agentPort includeAll) ∧
      listing.Pairwise fun first second => first.name ≤ second.name

/-- What is shown is always sorted. -/
theorem listed_of_finds {nodes : List DiscoveredNode}
    (finds : tailnet.Finds agentPort includeAll (.ok nodes)) :
    ∃ listing, nodes.map DiscoveredNode.unmeasured = tailnet.here agentPort includeAll ++ listing ∧
      listing.Perm (tailnet.others agentPort includeAll) ∧
      listing.Pairwise fun first second => first.name ≤ second.name := by
  by_cases few : maxDiscoveryPeers < tailnet.peers.length
  · rw [finds_iff, if_pos few] at finds
    cases finds
  obtain ⟨order, same, sorted⟩ := (finds_ok_iff few).mp ⟨nodes, finds, rfl⟩
  have all := (List.mergeSort_perm order listedBefore).trans same
  refine ⟨order.mergeSort listedBefore, sorted, all, ?_⟩
  have pairwise := List.pairwise_mergeSort listedBefore_trans listedBefore_total order
  refine pairwise.imp_of_mem fun left right before => ?_
  exact (listedBefore_others (all.mem_iff.mp left) (all.mem_iff.mp right)).mp before

/-- The other computers can be sorted in one way only exactly when equal names mean twins. -/
theorem sorts_iff :
    (∀ order : List DiscoveredNode, order.Perm (tailnet.others agentPort includeAll) →
        order.mergeSort listedBefore =
          (tailnet.others agentPort includeAll).mergeSort listedBefore) ↔
      tailnet.peers.Pairwise fun first second =>
        tailnet.Shown agentPort includeAll first → tailnet.Shown agentPort includeAll second →
          probeName first = probeName second → Twins first second := by
  rw [Collections.mergeSort_perm_iff listedBefore_trans listedBefore_total, others,
    List.pairwise_filterMap]
  refine List.Pairwise.iff fun first second => ?_
  have tied {node other : DiscoveredNode}
      (left : tailnet.shown agentPort includeAll false first = some node)
      (right : tailnet.shown agentPort includeAll false second = some other) :
      listedBefore node other = true ∧ listedBefore other node = true ↔
        probeName first = probeName second := by
    have one := describes_of_shown left
    have two := describes_of_shown right
    simp only [listedBefore, one.isLocal_eq, two.isLocal_eq, one.name_eq, two.name_eq,
      beq_self_eq_true, if_true, decide_eq_true_eq]
    exact le_antisymm_iff.symm
  constructor
  · intro equal left right named
    obtain ⟨node, left⟩ := shown_iff.mp left
    obtain ⟨other, right⟩ := shown_iff.mp right
    obtain ⟨before, after⟩ := (tied left right).mpr named
    exact ((shown_eq_iff left right).mp (equal node left other right before after)).2
  · intro twins node left other right before after
    have named := (tied left right).mp ⟨before, after⟩
    exact (shown_eq_iff left right).mpr
      ⟨named, twins (shown_iff.mpr ⟨node, left⟩) (shown_iff.mpr ⟨other, right⟩) named⟩

/-- The list is settled exactly when the sort forgets the order of the other computers. -/
theorem settled_iff_sorts (few : ¬ maxDiscoveryPeers < tailnet.peers.length) :
    tailnet.Settled agentPort includeAll ↔
      ∀ order : List DiscoveredNode, order.Perm (tailnet.others agentPort includeAll) →
        order.mergeSort listedBefore =
          (tailnet.others agentPort includeAll).mergeSort listedBefore := by
  constructor
  · intro settled order same
    obtain ⟨nodes, finds, sorted⟩ := (finds_ok_iff few).mpr ⟨order, same, rfl⟩
    obtain ⟨nodes', finds', sorted'⟩ :=
      (@finds_ok_iff tailnet agentPort includeAll few _).mpr ⟨_, .refl _, rfl⟩
    have equal := Except.ok.inj (settled.same _ _ finds finds')
    rw [sorted, sorted'] at equal
    exact List.append_cancel_left equal
  · intro forgets
    have settles : ∀ result, tailnet.Finds agentPort includeAll result →
        result.map (List.map DiscoveredNode.unmeasured) = .ok (tailnet.here agentPort includeAll ++
          (tailnet.others agentPort includeAll).mergeSort listedBefore) := by
      intro result finds
      have found := finds
      rw [finds_iff, if_neg few] at found
      obtain ⟨_, nodes, _, rfl, _⟩ := found
      obtain ⟨order, same, sorted⟩ := (finds_ok_iff few).mp ⟨nodes, finds, rfl⟩
      exact congrArg Except.ok (sorted.trans (congrArg _ (forgets order same)))
    exact
      { same := fun result result' finds finds' =>
          (settles result finds).trans (settles result' finds').symm
        listed := fun nodes => listed_of_finds }

/-- **The list is settled** exactly when there are too many peers to list, or no two different computers
are shown under one name. -/
theorem settled_iff : tailnet.Settled agentPort includeAll ↔
    maxDiscoveryPeers < tailnet.peers.length ∨
      tailnet.peers.Pairwise fun first second =>
        tailnet.Shown agentPort includeAll first → tailnet.Shown agentPort includeAll second →
          probeName first = probeName second → Twins first second := by
  by_cases many : maxDiscoveryPeers < tailnet.peers.length
  · refine iff_of_true ⟨?_, fun nodes => listed_of_finds⟩ (.inl many)
    intro result result' finds finds'
    rw [finds_iff, if_pos many] at finds finds'
    rw [finds, finds']
  · rw [or_iff_right many, settled_iff_sorts many, sorts_iff]

/-- A laptop that is switched off. -/
private def laptop (tailnetNodeId : String) (lastByte : UInt8) : MeshPeer where
  tailnetNodeId := tailnetNodeId
  dnsName := none
  hostname := some "laptop"
  ips := [.v4 100 64 0 lastByte]
  online := false
  connection := .direct
  latencyMs := none

/-- A tailnet with two laptops of one name. -/
private def twoLaptops : Tailnet where
  self := ⟨"nDesk", none, some "desk", [.v4 100 64 0 1]⟩
  peers := [laptop "nOld" 2, laptop "nNew" 3]
  listed := .ok []
  health _ := .error ⟨"AGENT_UNREACHABLE", "", true⟩
  nodeInfo _ := .error ⟨"AGENT_UNREACHABLE", "", true⟩

/-- **Two laptops of one name change places**, as the one or the other is probed first. -/
theorem laptops_change_places : ¬ ∀ (tailnet : Tailnet) (agentPort : UInt16) (includeAll : Bool),
    tailnet.Settled agentPort includeAll := by
  intro claim
  have forgets := (settled_iff_sorts (by decide)).mp (claim twoLaptops 47991 true)
  have twins := List.pairwise_pair.mp (sorts_iff.mp forgets)
    ⟨.v4 100 64 0 2, rfl, .inl rfl⟩ ⟨.v4 100 64 0 3, rfl, .inl rfl⟩ rfl
  exact absurd twins.tailnetNodeId_eq (by decide)

end Tailnet

end Omdesky.Application
