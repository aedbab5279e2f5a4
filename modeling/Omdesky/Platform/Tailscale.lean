/-
**What Tailscale reports (`omdesky-platform/src/tailscale.rs`).**

* `TailscaleStatus`, `parseStatus`: the decoded status and the limits it has to meet.
* `localNode`, `peers`: this computer and the others, with their names made fit for display.
-/

import Omdesky.Application.Target
import Omdesky.Ports

namespace Omdesky.Platform

/-- `MAX_PEERS`. -/
def maxPeers : Nat := 1024

/-- `MAX_ID_BYTES`. -/
def maxIdBytes : Nat := 256

/-- `MAX_NAME_BYTES`. -/
def maxNameBytes : Nat := 255

/-- `MAX_IPS_PER_NODE`. -/
def maxIpsPerNode : Nat := 16

/-- `RawPeer`. -/
structure RawPeer where
  id : String
  dnsName : Option String
  hostName : Option String
  tailscaleIps : List String
  online : Bool
  curAddr : Option String
  relay : Option String

/-- `TailscaleStatus`, with the peers as the map enumerates them. -/
structure TailscaleStatus where
  selfNode : RawPeer
  peers : List RawPeer

/-- `validate_peer`. -/
def validatePeer (peer : RawPeer) : PortResult Unit :=
  if peer.id.utf8ByteSize ≤ maxIdBytes && peer.dnsName.all (·.utf8ByteSize ≤ maxNameBytes) &&
      peer.hostName.all (·.utf8ByteSize ≤ maxNameBytes) &&
        peer.tailscaleIps.length ≤ maxIpsPerNode then .ok ()
  else .error
    { code := "TAILSCALE_FIELD_LIMIT"
      message := "tailscale status contained an oversized node field"
      retryable := false }

/-- `validate_status`. -/
def validateStatus (status : TailscaleStatus) : PortResult Unit := do
  if maxPeers < status.peers.length then
    .error
      { code := "TAILSCALE_PEER_LIMIT"
        message := "tailscale status contained too many peers"
        retryable := false }
  validatePeer status.selfNode
  status.peers.forM validatePeer

/-- `dns_hostname`. -/
def dnsHostname (dnsName : String) : String :=
  sanitizeForDisplay (firstSegment (trimEndMatches dnsName '.') '.') displayNameLimit

/-- `connection_kind`. -/
def connectionKind (currentAddress relay : Option String) : ConnectionKind :=
  if currentAddress.any (!·.isEmpty) then .direct
  else if relay.any (!·.isEmpty) then .relay
  else .unknown

/-- `raw_peer_to_domain`. -/
def rawPeerToDomain (peer : RawPeer) : MeshPeer where
  tailnetNodeId := peer.id
  dnsName := sanitizeOptional peer.dnsName displayNameLimit
  hostname := sanitizeOptional peer.hostName displayNameLimit
  ips := peer.tailscaleIps.filterMap IpAddr.parse
  online := peer.online
  connection := connectionKind peer.curAddr peer.relay
  latencyMs := none

/-- `MeshNetwork::local_node`, from a status that was accepted. -/
def localNode (status : TailscaleStatus) : MeshNodeIdentity where
  tailnetNodeId := status.selfNode.id
  user := none
  hostname :=
    (status.selfNode.hostName.map (sanitizeForDisplay · displayNameLimit)).or
      (status.selfNode.dnsName.map dnsHostname)
  addresses := status.selfNode.tailscaleIps.filterMap IpAddr.parse

/-- `MeshNetwork::peers`, from a status that was accepted. -/
def meshPeers (status : TailscaleStatus) : List MeshPeer := status.peers.map rawPeerToDomain

end Omdesky.Platform
