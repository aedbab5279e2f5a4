/-
**Which peer a name means (`omdesky-application/src/target.rs`).**

* `findPeer`: the one peer a target names, by its address, its node identifier, its hostname or its
  MagicDNS name.
* `displayName`, `uniqueName`: what a peer is called.
* `findPeer_eq_ok_iff`: a peer is found exactly when it alone is named.
-/

import Omdesky.Text

namespace Omdesky.Application

/-- `PeerLookupError`. -/
inductive PeerLookupError
  | notFound
  | ambiguous (candidates : List String)
  deriving DecidableEq, Repr

/-- `full_dns_name`. -/
def fullDnsName (dnsName : String) : String := trimEndMatches dnsName '.'

/-- `display_name`. -/
def displayName (peer : MeshPeer) : String :=
  (peer.hostname.or (peer.dnsName.map fullDnsName)).getD peer.tailnetNodeId

/-- `unique_name`. -/
def uniqueName (peer : MeshPeer) : String :=
  (peer.dnsName.map fullDnsName).getD peer.tailnetNodeId

/-- `names_peer`. -/
def namesPeer (peer : MeshPeer) (target : String) : Bool :=
  if target.isEmpty then false
  else if peer.tailnetNodeId == target then true
  else
    let hostnameMatches := peer.hostname.any fun hostname => eqIgnoreAsciiCase hostname target
    let dnsMatches := peer.dnsName.any fun dnsName =>
      let full := fullDnsName dnsName
      eqIgnoreAsciiCase full (trimEndMatches target '.') ||
        eqIgnoreAsciiCase (firstSegment full '.') target
    hostnameMatches || dnsMatches

/-- Whether a target, as it was typed, names the peer: by an address of its, or by a name. -/
def targets (target : String) (peer : MeshPeer) : Bool :=
  match IpAddr.parse (trim target) with
  | some address => peer.ips.contains address
  | none => namesPeer peer (trim target)

/-- `find_peer`. -/
def findPeer (peers : List MeshPeer) (target : String) : Except PeerLookupError MeshPeer :=
  match peers.filter (targets target) with
  | [] => .error .notFound
  | [peer] => .ok peer
  | candidates => .error (.ambiguous (candidates.map uniqueName))

/-- **A peer is found exactly when it alone is named.** -/
theorem findPeer_eq_ok_iff {peers : List MeshPeer} {target : String} {peer : MeshPeer} :
    findPeer peers target = .ok peer ↔ peers.filter (targets target) = [peer] := by
  unfold findPeer
  cases peers.filter (targets target) with
  | nil => simp
  | cons first rest => cases rest <;> simp

end Omdesky.Application
