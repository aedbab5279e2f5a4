/-
**The command a blocked node is fixed with (`omdesky-application/src/discovery.rs`, `target.rs`).**

* `tailnet`: a discovery in which the mesh lists given peers. Everything else it asks is open.
* `Fixes`: the text of a fix, read by a shell, is the command that allows a node.
* `words_allowCommand`: the shell reads the command as it reads the name in it.
* `fixes_iff`: the fix printed for a node allows that node exactly when the shell reads the peer's
  name as one literal word, and that word means the peer and no other.
-/

import Omdesky.Application.Discovery
import Omdesky.Interaction.World
import Omdesky.Platform.Tailscale
import Omdesky.Shell.Words

namespace Omdesky.Cli

open Application Interaction Interaction.Program Platform

/-- A discovery in a tailnet of these peers. -/
def tailnet (peers : List MeshPeer) : World DiscoveryCall DiscoveryAnswer Unit
  | .peers, _, answer, _ => answer = .ok peers
  | _, _, _, _ => True

/-- The text of a fix is the command that allows the node, and nothing else. -/
def Fixes (peers : List MeshPeer) (fix tailnetNodeId : String) : Prop :=
  ∃ target peer, Shell.words fix = some ["omdesky", "access", "allow", target] ∧
    findPeer peers target = .ok peer ∧ peer.tailnetNodeId = tailnetNodeId

/-! ### The nodes of a discovery -/

section Execute

variable {peers : List MeshPeer} {agentPort : UInt16} {includeAll : Bool}
  {nodes : List DiscoveredNode} {node : DiscoveredNode}

theorem ends_listPeers {listed : List MeshPeer} :
    Ends (tailnet peers) listPeers.run () (.ok listed) () ↔
      listed = peers ∧ peers.length ≤ maxDiscoveryPeers := by
  have answered : ∀ given reached, tailnet peers .peers () given reached ↔
      given = .ok peers ∧ reached = () := fun given reached => by simp [tailnet]
  refine (ends_ask_of_eq answered).trans ?_
  dsimp only [Program.bind, ExceptT.bindCont]
  split
  · next above => exact ends_done.trans (iff_of_false nofun fun ⟨_, below⟩ => absurd above (by omega))
  · next below => exact ends_done.trans (by simp [Nat.not_lt.mp below])

/-- Every remote node was found by the probe of a peer of the list. -/
theorem discovered (run : Ends (tailnet peers) (execute agentPort includeAll).run () (.ok nodes) ())
    (member : node ∈ nodes) (remote : node.isLocal = false) :
    ∃ peer ∈ peers, ∃ context trace,
      Traces (probe agentPort peer false context) trace (some node) := by
  obtain ⟨self, _, _, onward⟩ := ends_run_bind_ok.mp run
  obtain ⟨listed, _, mesh, named⟩ := ends_run_bind_ok.mp onward
  obtain ⟨rfl, _⟩ := ends_listPeers.mp mesh
  obtain ⟨allowed, _, _, probing⟩ := ends_run_bind_ok.mp named
  obtain ⟨found, same, trace, probes⟩ := ends_map.mp probing
  cases same
  unfold probeNodes at probes
  obtain ⟨early, _, here, rfl, probedHere, rest⟩ := traces_bind.mp probes.traces
  obtain ⟨middle, _, probed, rfl, probedAll, order, _, _, _, rfl⟩ := traces_bind.mp rest
  rcases List.mem_append.mp (List.mem_mergeSort.mp member) with own | other
  · rw [Option.mem_toList.mp own] at probedHere
    cases remote.symm.trans (probe_identity probedHere).1
  · obtain ⟨peer, listed, part, run⟩ := probed_of_mem probedAll (order.property.mem_iff.mp other)
    exact ⟨peer, listed, _, part, run⟩

end Execute

/-! ### What a fix means -/

/-- **The shell reads the command as it reads the name in it.** -/
theorem words_allowCommand (name : String) : Shell.words (allowCommand name) =
    (["omdesky", "access", "allow"] ++ ·) <$> Shell.words name := by
  have split : allowCommand name = "omdesky" ++ " " ++ ("access" ++ " " ++ ("allow" ++ " " ++ name)) := by
    rw [← String.append_assoc, ← String.append_assoc]
    rfl
  rw [split, Shell.words_cons (List.all_eq_true.mp (by decide)) (by decide),
    Shell.words_cons (List.all_eq_true.mp (by decide)) (by decide),
    Shell.words_cons (List.all_eq_true.mp (by decide)) (by decide)]
  cases Shell.words name <;> rfl

/-- A fix allows a node exactly when the shell reads its name as one literal word, and that word means
one peer, with the node's identifier. -/
theorem fixes_allowCommand {peers : List MeshPeer} {name tailnetNodeId : String} :
    Fixes peers (allowCommand name) tailnetNodeId ↔ ∃ word other, Shell.words name = some [word] ∧
      peers.filter (targets word) = [other] ∧ other.tailnetNodeId = tailnetNodeId := by
  unfold Fixes
  simp only [findPeer_eq_ok_iff, words_allowCommand]
  cases Shell.words name with
  | none => simp
  | some words => simp

/-- What this comes to for a name without quotes: it has to be one literal word between blanks. -/
theorem fixes_unquoted {peers : List MeshPeer} {name tailnetNodeId : String}
    (unquoted : ∀ c ∈ name.toList, Shell.isQuoting c = false) :
    Fixes peers (allowCommand name) tailnetNodeId ↔ ∃ word other, Shell.IsWord name word ∧
      peers.filter (targets word) = [other] ∧ other.tailnetNodeId = tailnetNodeId := by
  simp only [fixes_allowCommand, Shell.words_eq_word_iff unquoted]

/-- **The printed fix allows the node it is printed for** exactly when the shell reads the name of the
node's peer as one literal word, and that word means one peer, with the same identifier. -/
theorem fixes_iff {peers : List MeshPeer} {agentPort : UInt16} {includeAll : Bool}
    {nodes : List DiscoveredNode} {node : DiscoveredNode} {blocker : NodeBlocker}
    (run : Ends (tailnet peers) (execute agentPort includeAll).run () (.ok nodes) ())
    (member : node ∈ nodes) (remote : node.isLocal = false) (blocks : blocker ∈ node.blockers)
    (needs : blocker.code = .needsAccess) :
    ∃ peer ∈ peers, peer.tailnetNodeId = node.tailnetNodeId ∧
      (Fixes peers blocker.fix node.tailnetNodeId ↔ ∃ word other,
        Shell.words (probeName peer) = some [word] ∧ peers.filter (targets word) = [other] ∧
          other.tailnetNodeId = peer.tailnetNodeId) := by
  obtain ⟨peer, listed, context, trace, probed⟩ := discovered run member remote
  have same := (probe_identity probed).2
  refine ⟨peer, listed, same.symm, ?_⟩
  rw [fix_of_needsAccess probed blocks needs, fixes_allowCommand, same]

/-- A device as Tailscale reports it. -/
private def rawDevice (hostName : String) : RawPeer where
  id := "nDevice"
  dnsName := none
  hostName := some hostName
  tailscaleIps := ["100.64.0.2"]
  online := true
  curAddr := none
  relay := none

/-- A status with one device. -/
private def oneDevice (hostName : String) : TailscaleStatus where
  selfNode := ⟨"nHere", none, some "desk-a", ["100.64.0.1"], true, none, none⟩
  peers := [rawDevice hostName]

/-- The device, before anything is said about what blocks it. -/
private def heardDevice (hostName : String) : DiscoveredNode :=
  (DiscoveredNode.fromPeer (rawPeerToDomain (rawDevice hostName))
    (probeName (rawPeerToDomain (rawDevice hostName))) (.v4 100 64 0 2) false).withHealth
      ⟨"ok", protocol, release⟩ 1

/-- What the device answers for its node information. -/
private def deviceInfo : NodeInfoResponse := ⟨"nDevice", "device", "4.0", release, []⟩

/-- The node of a device this computer does not list. -/
private def unlistedNode (hostName : String) : DiscoveredNode :=
  ((heardDevice hostName).withBlockers
    [⟨.needsAccess, .local, allowCommand (probeName (rawPeerToDomain (rawDevice hostName)))⟩]).withInfo
      (some deviceInfo)

/-- The device is found while the agent of this computer is down. -/
private theorem executes (hostName : String) : Ends (tailnet (meshPeers (oneDevice hostName)))
    (execute 47991 false).run () (.ok [unlistedNode hostName]) () := by
  have own : probeAddress (localPeer (localNode (oneDevice hostName))) = some (.v4 100 64 0 1) := by
    have parsed : ["100.64.0.1"].filterMap IpAddr.parse = [.v4 100 64 0 1] := by decide
    simp only [probeAddress, localPeer, localNode, oneDevice, parsed]
    rfl
  have found : probeAddress (rawPeerToDomain (rawDevice hostName)) = some (.v4 100 64 0 2) := by
    have parsed : ["100.64.0.2"].filterMap IpAddr.parse = [.v4 100 64 0 2] := by decide
    simp only [probeAddress, rawPeerToDomain, rawDevice, parsed]
    rfl
  have down : Traces (probe 47991 (localPeer (localNode (oneDevice hostName))) true
      (.gather (localNode (oneDevice hostName)) (.ok []) false))
      [⟨.now, 0⟩, ⟨.health ⟨.v4 100 64 0 1, 47991⟩, .error ⟨"AGENT_UNREACHABLE", "", true⟩⟩] none := by
    unfold probe
    rw [own]
    exact ⟨0, _, rfl, _, _, rfl, rfl, rfl⟩
  have asked : Traces (probe 47991 (rawPeerToDomain (rawDevice hostName)) false
      (.gather (localNode (oneDevice hostName)) (.ok []) false)) _ (some (unlistedNode hostName)) :=
    probe_asks found rfl (ensureCompatibleAgent_isOk.mpr ⟨rfl, by decide⟩) 0 0 rfl (.ok deviceInfo)
  have all : Traces (probeAll 47991 (.gather (localNode (oneDevice hostName)) (.ok []) false)
      (meshPeers (oneDevice hostName))) _ [unlistedNode hostName] :=
    traces_bind.mpr ⟨_, _, _, rfl, asked, traces_bind.mpr ⟨[], [], [], rfl, ⟨rfl, rfl⟩, rfl, rfl⟩⟩
  have probes : Traces (probeNodes 47991 (.gather (localNode (oneDevice hostName)) (.ok []) false)
      (localNode (oneDevice hostName)) (meshPeers (oneDevice hostName))) _ [unlistedNode hostName] :=
    traces_bind.mpr ⟨_, _, _, rfl, down, traces_bind.mpr ⟨_, _, _, rfl, all,
      ⟨[unlistedNode hostName], .refl _⟩, [], rfl, rfl, (List.mergeSort_singleton _).symm⟩⟩
  refine ends_run_bind_ok.mpr ⟨localNode (oneDevice hostName), (), ends_ask.mpr ⟨.ok _, (), trivial,
    ends_done.mpr ⟨rfl, rfl⟩⟩, ?_⟩
  refine ends_run_bind_ok.mpr ⟨meshPeers (oneDevice hostName), (), ends_listPeers.mpr ⟨rfl,
    by simp [meshPeers, oneDevice, maxDiscoveryPeers]⟩, ?_⟩
  refine ends_run_bind_ok.mpr ⟨.ok [], (), ends_ask.mpr ⟨.ok [], (), trivial,
    ends_done.mpr ⟨rfl, rfl⟩⟩, ends_map.mpr ⟨_, rfl, _, probes.runs ?_⟩⟩
  simp [tailnet]

/-- A name without anything a shell minds is fixed as printed. -/
theorem fixes_iff_bare : Fixes (meshPeers (oneDevice "desk-b")) "omdesky access allow desk-b" "nDevice" := by
  obtain ⟨peer, listed, _, fixes⟩ := fixes_iff (executes "desk-b") List.mem_cons_self rfl
    List.mem_cons_self rfl
  obtain rfl := List.mem_singleton.mp listed
  exact fixes.mpr ⟨"desk-b", rawPeerToDomain (rawDevice "desk-b"), by decide, by decide,
    rfl⟩

/-- **A name with blanks is printed unquoted**, and the shell reads several words. -/
theorem fix_of_spaced_name : ¬ ∀ (status : TailscaleStatus) (agentPort : UInt16) (includeAll : Bool)
    (nodes : List DiscoveredNode) (node : DiscoveredNode) (blocker : NodeBlocker),
    validateStatus status = .ok () →
      Ends (tailnet (meshPeers status)) (execute agentPort includeAll).run () (.ok nodes) () →
        node ∈ nodes → node.isLocal = false → blocker ∈ node.blockers →
          blocker.code = .needsAccess →
            Fixes (meshPeers status) blocker.fix node.tailnetNodeId := by
  intro claim
  have accepted : validateStatus (oneDevice "POCO X3 Pro") = .ok () := by decide
  obtain ⟨target, _, read, _⟩ := claim _ _ _ _ _ _ accepted (executes "POCO X3 Pro")
    List.mem_cons_self rfl List.mem_cons_self rfl
  have words : Shell.words (allowCommand (probeName (rawPeerToDomain (rawDevice "POCO X3 Pro")))) =
      some ["omdesky", "access", "allow", "POCO", "X3", "Pro"] := by decide
  cases words.symm.trans read

end Omdesky.Cli
