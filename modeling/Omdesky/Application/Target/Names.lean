/-
**What a name stands for (`omdesky-application/src/target.rs`).**

Hostnames are chosen by the devices themselves, and more devices can join at any time.

* `Calls`: a target is the whole of a name of a device, or a spelling of one of its addresses.
* `newcomer_law`: a device that joins never takes over a name. The name selects the device it selected
  before, or is ambiguous, and then the device's own unique name is offered.
* `advice_iff`: the names that are offered for an ambiguous target select their devices exactly when
  each is its device's own and no other device has taken it.
-/

import Mathlib.Data.List.Forall2
import Mathlib.Data.List.Pairwise
import Omdesky.Application.Target

namespace Omdesky.Application

/-! ### The names of a device -/

/-- A text up to the case of ASCII letters and trailing dots. -/
def folded (text : String) : List Char := (trimEndMatches text '.').toList.map Char.toLower

/-- The first label of a DNS name. -/
def firstLabel (dnsName : String) : String := firstSegment (fullDnsName dnsName) '.'

/-- The node identifier of a device, its hostname, its DNS name and the first label of that. -/
def peerNames (peer : MeshPeer) : List String :=
  peer.tailnetNodeId :: (peer.hostname.toList ++
    peer.dnsName.toList.flatMap fun dnsName => [fullDnsName dnsName, firstLabel dnsName])

/-- The target is the whole of a name of the device, or a spelling of one of its addresses. -/
def Calls (target : String) (peer : MeshPeer) : Prop :=
  (∃ name ∈ peerNames peer, folded name = folded (trim target)) ∨
    ∃ address ∈ peer.ips, IpAddr.parse (trim target) = some address

/-! ### Three devices -/

/-- A device of the tailnet. -/
private def device (tailnetNodeId hostname dnsName : String) : MeshPeer where
  tailnetNodeId := tailnetNodeId
  dnsName := some dnsName
  hostname := some hostname
  ips := []
  online := true
  connection := .direct
  latencyMs := none

/-- Two desks of one name. -/
private def desks : List MeshPeer :=
  [device "nDesk" "desk" "desk.ts.net.", device "nOther" "desk" "desk-1.ts.net."]

/-- A device that calls itself what the first desk is called by the tailnet. -/
private def pretender : MeshPeer := device "nGuest" "desk.ts.net" "guest.ts.net."

/-! ### Texts up to the case of letters -/

section Folded

variable {first second : String}

theorem rdropWhile_map {α β : Type} (change : α → β) (drops : β → Bool) (text : List α) :
    (text.map change).rdropWhile drops = (text.rdropWhile (drops ∘ change)).map change := by
  simp only [List.rdropWhile, ← List.map_reverse, List.dropWhile_map]

theorem toLower_beq_dot (c : Char) : (c.toLower == '.') = (c == '.') := by
  have same : c.toLower = '.' ↔ c = '.' := by
    unfold Char.toLower
    split
    · next upper =>
        obtain ⟨above, below⟩ := upper
        have low : 65 ≤ c.val.toNat := UInt32.le_iff_toNat_le.mp above
        have high : c.val.toNat ≤ 90 := UInt32.le_iff_toNat_le.mp below
        constructor
        · intro lowered
          have code : (c.val + 32).toNat = 46 := congrArg (fun c : Char => c.val.toNat) lowered
          have offset : (32 : UInt32).toNat = 32 := rfl
          rw [UInt32.toNat_add, offset] at code
          omega
        · rintro rfl
          exact absurd low (by decide)
    · exact Iff.rfl
  rw [Bool.eq_iff_iff, beq_iff_eq, beq_iff_eq, same]

theorem toLower_trimEndMatches (text : String) :
    (trimEndMatches text '.').toList.map Char.toLower =
      (text.toList.map Char.toLower).rdropWhile (· == '.') := by
  have drops : ((· == '.') ∘ Char.toLower) = (· == '.') := funext toLower_beq_dot
  rw [rdropWhile_map, drops, trimEndMatches, String.toList_ofList]

theorem folded_eq (text : String) :
    folded text = (text.toList.map Char.toLower).rdropWhile (· == '.') := toLower_trimEndMatches text

theorem eqIgnoreAsciiCase_iff :
    eqIgnoreAsciiCase first second = true ↔
      first.toList.map Char.toLower = second.toList.map Char.toLower := beq_iff_eq

/-- Texts that differ in the case of letters only. -/
theorem folded_of_eqIgnoreAsciiCase (same : eqIgnoreAsciiCase first second = true) :
    folded first = folded second := by
  rw [folded_eq, folded_eq, eqIgnoreAsciiCase_iff.mp same]

theorem folded_trimEndMatches (text : String) : folded (trimEndMatches text '.') = folded text := by
  rw [folded_eq, folded_eq, toLower_trimEndMatches, List.rdropWhile_idempotent]

end Folded

section Calls

variable {peers larger others : List MeshPeer} {target : String} {peer : MeshPeer}

/-- A peer is only targeted by the whole of a name or by an address. -/
theorem calls_of_targets (targeted : targets target peer = true) : Calls target peer := by
  unfold targets at targeted
  split at targeted
  · next address parsed =>
      exact .inr ⟨address, List.contains_iff_mem.mp targeted, parsed⟩
  · refine .inl ?_
    unfold namesPeer at targeted
    split at targeted
    · cases targeted
    split at targeted
    · next same => exact ⟨_, List.mem_cons_self, congrArg folded (beq_iff_eq.mp same)⟩
    simp only [Bool.or_eq_true, Option.any_eq_true] at targeted
    obtain ⟨hostname, host, same⟩ | ⟨dnsName, dns, same | same⟩ := targeted
    · exact ⟨hostname, by simp [peerNames, host], folded_of_eqIgnoreAsciiCase same⟩
    · refine ⟨fullDnsName dnsName, by simp [peerNames, dns], ?_⟩
      rw [folded_of_eqIgnoreAsciiCase same, folded_trimEndMatches]
    · exact ⟨firstLabel dnsName, by simp [peerNames, dns, firstLabel],
        folded_of_eqIgnoreAsciiCase same⟩

/-! ### Newcomers -/

/-- The outcome is decided by the peers that are targeted. -/
theorem findPeer_cases (peers : List MeshPeer) (target : String) :
    (peers.filter (targets target) = [] ∧ findPeer peers target = .error .notFound) ∨
    (∃ peer, peers.filter (targets target) = [peer] ∧ findPeer peers target = .ok peer) ∨
    (2 ≤ (peers.filter (targets target)).length ∧ findPeer peers target =
      .error (.ambiguous ((peers.filter (targets target)).map uniqueName))) := by
  unfold findPeer
  match peers.filter (targets target) with
  | [] => exact .inl ⟨rfl, rfl⟩
  | [peer] => exact .inr (.inl ⟨peer, rfl, rfl⟩)
  | _ :: _ :: _ => exact .inr (.inr ⟨by simp, rfl⟩)

/-- Two outcomes that differ in the order of the names at most. -/
inductive SameOutcome : Except PeerLookupError MeshPeer → Except PeerLookupError MeshPeer → Prop
  | found (peer : MeshPeer) : SameOutcome (.ok peer) (.ok peer)
  | notFound : SameOutcome (.error .notFound) (.error .notFound)
  | ambiguous {names others : List String} (same : names.Perm others) :
      SameOutcome (.error (.ambiguous names)) (.error (.ambiguous others))

theorem sameOutcome_of_perm (same : peers.Perm others) :
    SameOutcome (findPeer peers target) (findPeer others target) := by
  have candidates := same.filter (targets target)
  obtain ⟨none, outcome⟩ | ⟨peer, one, outcome⟩ | ⟨several, outcome⟩ := findPeer_cases peers target
  · have otherNone : others.filter (targets target) = [] := List.perm_nil.mp (none ▸ candidates.symm)
    rw [outcome, findPeer, otherNone]
    exact .notFound
  · have otherOne : others.filter (targets target) = [peer] :=
      List.perm_singleton.mp (one ▸ candidates.symm)
    rw [outcome, findPeer_eq_ok_iff.mpr otherOne]
    exact .found peer
  · obtain ⟨none, _⟩ | ⟨peer, one, _⟩ | ⟨_, otherOutcome⟩ := findPeer_cases others target
    · rw [candidates.length_eq, none] at several
      cases several
    · rw [candidates.length_eq, one] at several
      exact absurd several (by simp)
    · rw [outcome, otherOutcome]
      exact .ambiguous (candidates.map uniqueName)

/-- Among more peers, the peer is still the only one, or one of several. -/
theorem findPeer_of_subset (more : peers ⊆ larger) (found : findPeer peers target = .ok peer) :
    findPeer larger target = .ok peer ∨ ∃ names,
      findPeer larger target = .error (.ambiguous names) ∧ uniqueName peer ∈ names := by
  rw [findPeer_eq_ok_iff] at found
  have among : peer ∈ larger.filter (targets target) :=
    List.filter_subset (targets target) more (found ▸ List.mem_singleton_self peer)
  obtain ⟨none, _⟩ | ⟨other, one, outcome⟩ | ⟨_, outcome⟩ := findPeer_cases larger target
  · rw [none] at among
    cases among
  · rw [one, List.mem_singleton] at among
    exact .inl (among ▸ outcome)
  · exact .inr ⟨_, outcome, List.mem_map_of_mem among⟩

/-- **A newcomer never captures a name**, the order of the devices does not matter, and a part of a name
selects nothing. -/
theorem newcomer_law (peers : List MeshPeer) (target : String) :
    (∀ larger peer, peers ⊆ larger → findPeer peers target = .ok peer →
      findPeer larger target = .ok peer ∨ ∃ names,
        findPeer larger target = .error (.ambiguous names) ∧ uniqueName peer ∈ names) ∧
    (∀ others, peers.Perm others →
      SameOutcome (findPeer peers target) (findPeer others target)) ∧
    ∀ peer, findPeer peers target = .ok peer → peer ∈ peers ∧ Calls target peer := by
  refine ⟨fun larger peer => findPeer_of_subset, fun others => sameOutcome_of_perm,
    fun peer found => ?_⟩
  have among : peer ∈ peers.filter (targets target) :=
    findPeer_eq_ok_iff.mp found ▸ List.mem_singleton_self peer
  obtain ⟨listed, targeted⟩ := List.mem_filter.mp among
  exact ⟨listed, calls_of_targets targeted⟩

end Calls

/-- The second desk keeps its name when the pretender joins. -/
theorem newcomer_law_guest :
    findPeer desks "desk-1" = .ok (device "nOther" "desk" "desk-1.ts.net.") ∧
      (findPeer (pretender :: desks) "desk-1" = .ok (device "nOther" "desk" "desk-1.ts.net.") ∨
        ∃ names, findPeer (pretender :: desks) "desk-1" = .error (.ambiguous names) ∧
          uniqueName (device "nOther" "desk" "desk-1.ts.net.") ∈ names) := by
  have found : findPeer desks "desk-1" = .ok (device "nOther" "desk" "desk-1.ts.net.") := by
    decide +kernel
  exact ⟨found, (newcomer_law desks "desk-1").1 _ _ (List.subset_cons_self _ _) found⟩

/-! ### The advice for an ambiguous target -/

/-- The text is a name of the device: its node identifier, its hostname, its DNS name or the first label
of that. -/
def Bears (name : String) (peer : MeshPeer) : Prop :=
  peer.tailnetNodeId = name ∨
    (∃ hostname ∈ peer.hostname, eqIgnoreAsciiCase hostname name = true) ∨
    (∃ dnsName ∈ peer.dnsName,
      eqIgnoreAsciiCase (fullDnsName dnsName) (trimEndMatches name '.') = true) ∨
    ∃ dnsName ∈ peer.dnsName, eqIgnoreAsciiCase (firstLabel dnsName) name = true

/-- The text is an address of the device. -/
def Locates (name : String) (peer : MeshPeer) : Prop :=
  ∃ address ∈ peer.ips, IpAddr.parse name = some address

/-- The unique name of a device is its own, white space aside: one of its addresses if it reads as an
address, and else a name. -/
def Owned (peer : MeshPeer) : Prop :=
  let name := trim (uniqueName peer)
  Locates name peer ∨
    IpAddr.parse name = none ∧ name ≠ "" ∧ (name = uniqueName peer ∨ Bears name peer)

/-- Another device has the unique name of a device too: as an address, as its hostname, as the first
label of its DNS name, or in another way than the device has it. -/
def Taken (peer other : MeshPeer) : Prop :=
  let name := trim (uniqueName peer)
  Locates name other ∨ IpAddr.parse name = none ∧
    ((peer.dnsName ≠ none ∨ name ≠ uniqueName peer) ∧ other.tailnetNodeId = name ∨
      (∃ hostname ∈ other.hostname, eqIgnoreAsciiCase hostname name = true) ∨
      ((peer.dnsName = none ∨ name ≠ uniqueName peer) ∧ ∃ dnsName ∈ other.dnsName,
        eqIgnoreAsciiCase (fullDnsName dnsName) (trimEndMatches name '.') = true) ∨
      ∃ dnsName ∈ other.dnsName, eqIgnoreAsciiCase (firstLabel dnsName) name = true)

section Advice

variable {peers : List MeshPeer} {target name : String} {peer other : MeshPeer}

theorem namesPeer_iff : namesPeer peer name = true ↔ name ≠ "" ∧ Bears name peer := by
  unfold namesPeer Bears firstLabel
  by_cases empty : name = ""
  · simp [empty]
  by_cases same : peer.tailnetNodeId = name
  · simp [empty, same]
  · simp [empty, same, Option.any_eq_true, and_or_left, exists_or]

theorem targets_iff : targets target peer = true ↔ Locates (trim target) peer ∨
    IpAddr.parse (trim target) = none ∧ trim target ≠ "" ∧ Bears (trim target) peer := by
  unfold targets Locates
  cases IpAddr.parse (trim target) with
  | none => simp [namesPeer_iff]
  | some address => simp

/-- Trailing dots are gone from a full DNS name. -/
theorem trimEndMatches_fullDnsName (dnsName : String) :
    trimEndMatches (fullDnsName dnsName) '.' = fullDnsName dnsName := by
  simp [fullDnsName, trimEndMatches, List.rdropWhile_idempotent]

theorem uniqueName_of_none (dns : peer.dnsName = none) : uniqueName peer = peer.tailnetNodeId := by
  simp [uniqueName, dns]

theorem uniqueName_of_some {dnsName : String} (dns : peer.dnsName = some dnsName) :
    uniqueName peer = fullDnsName dnsName := by simp [uniqueName, dns]

/-- A device bears its unique name. -/
theorem bears_uniqueName (peer : MeshPeer) : Bears (uniqueName peer) peer := by
  cases dns : peer.dnsName with
  | none => exact .inl (uniqueName_of_none dns).symm
  | some dnsName =>
      refine .inr (.inr (.inl ⟨dnsName, dns, ?_⟩))
      rw [uniqueName_of_some dns, trimEndMatches_fullDnsName, eqIgnoreAsciiCase_iff]

theorem targets_own_iff : targets (uniqueName peer) peer = true ↔ Owned peer := by
  rw [targets_iff, Owned]
  refine or_congr_right (and_congr_right fun _ => and_congr_right fun _ => ⟨.inr, ?_⟩)
  rintro (same | bears)
  · rw [same]
    exact bears_uniqueName peer
  · exact bears

/-- Devices with other node identifiers and other DNS names. -/
structure Distinct (peer other : MeshPeer) : Prop where
  tailnetNodeId : peer.tailnetNodeId ≠ other.tailnetNodeId
  dnsName : ∀ dnsName ∈ peer.dnsName, ∀ otherName ∈ other.dnsName,
    eqIgnoreAsciiCase (fullDnsName dnsName) (fullDnsName otherName) = false

theorem Distinct.symm (distinct : Distinct peer other) : Distinct other peer where
  tailnetNodeId := distinct.tailnetNodeId.symm
  dnsName otherName otherDns dnsName dns := by
    have differ := distinct.dnsName dnsName dns otherName otherDns
    rwa [eqIgnoreAsciiCase, BEq.comm] at differ

instance : Std.Symm Distinct := ⟨fun _ _ => Distinct.symm⟩

/-- What another device can share with the unique name of a device. -/
theorem bears_foreign_iff (distinct : Distinct peer other) : Bears (uniqueName peer) other ↔
    (peer.dnsName ≠ none ∧ other.tailnetNodeId = uniqueName peer ∨
    (∃ hostname ∈ other.hostname, eqIgnoreAsciiCase hostname (uniqueName peer) = true) ∨
    (peer.dnsName = none ∧ ∃ dnsName ∈ other.dnsName,
      eqIgnoreAsciiCase (fullDnsName dnsName) (trimEndMatches (uniqueName peer) '.') = true) ∨
    ∃ dnsName ∈ other.dnsName, eqIgnoreAsciiCase (firstLabel dnsName) (uniqueName peer) = true) := by
  unfold Bears
  cases dns : peer.dnsName with
  | none =>
      have foreign : other.tailnetNodeId ≠ uniqueName peer :=
        uniqueName_of_none dns ▸ distinct.tailnetNodeId.symm
      simp only [foreign, ne_eq, not_true_eq_false, false_and, true_and]
  | some dnsName =>
      have foreign : ¬ ∃ otherName ∈ other.dnsName, eqIgnoreAsciiCase (fullDnsName otherName)
          (trimEndMatches (uniqueName peer) '.') = true := by
        rintro ⟨otherName, otherDns, same⟩
        rw [uniqueName_of_some dns, trimEndMatches_fullDnsName,
          distinct.symm.dnsName otherName otherDns dnsName dns] at same
        cases same
      simp only [foreign, ne_eq, reduceCtorEq, not_false_eq_true, true_and, false_and]

theorem targets_other_iff (distinct : Distinct peer other) (owned : Owned peer) :
    targets (uniqueName peer) other = true ↔ Taken peer other := by
  rw [targets_iff, Taken]
  refine or_congr_right (and_congr_right fun parsed => ?_)
  have some : trim (uniqueName peer) ≠ "" := by
    obtain ⟨address, _, located⟩ | ⟨_, some, _⟩ := owned
    · rw [parsed] at located
      cases located
    · exact some
  rw [and_iff_right some]
  by_cases trimmed : trim (uniqueName peer) = uniqueName peer
  · rw [trimmed, bears_foreign_iff distinct]
    simp only [ne_eq, not_true_eq_false, or_false]
  · simp only [Bears, ne_eq, trimmed, not_false_eq_true, or_true, true_and]

/-- A device that alone is targeted, in a list of different devices. -/
theorem filter_eq_singleton_iff {holds : MeshPeer → Bool} (member : peer ∈ peers)
    (nodup : peers.Nodup) : peers.filter holds = [peer] ↔
      holds peer = true ∧ ∀ other ∈ peers, other ≠ peer → ¬ holds other = true := by
  constructor
  · intro alone
    have kept : peer ∈ peers.filter holds := alone ▸ List.mem_singleton_self peer
    refine ⟨(List.mem_filter.mp kept).2, fun other listed differs held => differs ?_⟩
    exact List.mem_singleton.mp (alone ▸ List.mem_filter.mpr ⟨listed, held⟩)
  · rintro ⟨held, others⟩
    have once := nodup.filter holds
    refine List.perm_singleton.mp ((List.perm_ext_iff_of_nodup once (List.pairwise_singleton _ peer)).mpr
      fun other => ?_)
    rw [List.mem_filter, List.mem_singleton]
    constructor
    · rintro ⟨listed, holdsOther⟩
      by_contra differs
      exact others other listed differs holdsOther
    · rintro rfl
      exact ⟨member, held⟩

/-- **Every name offered for an ambiguous target selects the device it was listed for, exactly when** each
of these names is its device's own and no other device has taken it. -/
theorem advice_iff {names : List String} (distinct : peers.Pairwise Distinct)
    (ambiguous : findPeer peers target = .error (.ambiguous names)) :
    List.Forall₂ (fun name peer => findPeer peers name = .ok peer) names
        (peers.filter (targets target)) ↔
      ∀ peer ∈ peers, targets target peer = true →
        Owned peer ∧ ∀ other ∈ peers, other ≠ peer → ¬ Taken peer other := by
  have listed : names = (peers.filter (targets target)).map uniqueName := by
    obtain ⟨_, outcome⟩ | ⟨_, _, outcome⟩ | ⟨_, outcome⟩ := findPeer_cases peers target
    · cases ambiguous.symm.trans outcome
    · cases ambiguous.symm.trans outcome
    · exact PeerLookupError.ambiguous.inj (Except.error.inj (ambiguous.symm.trans outcome))
  have nodup : peers.Nodup := distinct.imp fun differ same =>
    differ.tailnetNodeId (congrArg MeshPeer.tailnetNodeId same)
  have apart : ∀ peer ∈ peers, ∀ other ∈ peers, other ≠ peer → Distinct peer other :=
    fun peer member other otherMember differs =>
      distinct.forall member otherMember differs.symm
  rw [listed, List.forall₂_map_left_iff, List.forall₂_same]
  simp only [List.mem_filter, and_imp]
  refine forall₃_congr fun peer member _ => ?_
  rw [findPeer_eq_ok_iff, filter_eq_singleton_iff member nodup, targets_own_iff]
  refine and_congr_right fun owned => forall₃_congr fun other otherMember differs => ?_
  rw [targets_other_iff (apart peer member other otherMember differs) owned]

end Advice

private theorem distinct_devices {tailnetNodeId otherId hostname otherHostname dnsName otherName : String}
    (ids : tailnetNodeId ≠ otherId)
    (names : eqIgnoreAsciiCase (fullDnsName dnsName) (fullDnsName otherName) = false) :
    Distinct (device tailnetNodeId hostname dnsName) (device otherId otherHostname otherName) where
  tailnetNodeId := ids
  dnsName := by
    rintro _ ⟨⟩ _ ⟨⟩
    exact names

private theorem distinct_desks : (desks ++ [pretender]).Pairwise Distinct := by
  have other : Distinct (device "nDesk" "desk" "desk.ts.net.")
      (device "nOther" "desk" "desk-1.ts.net.") :=
    distinct_devices (by decide) (by decide +kernel)
  have guest : Distinct (device "nDesk" "desk" "desk.ts.net.") pretender :=
    distinct_devices (by decide) (by decide +kernel)
  have otherGuest : Distinct (device "nOther" "desk" "desk-1.ts.net.") pretender :=
    distinct_devices (by decide) (by decide +kernel)
  simp [desks, other, guest, otherGuest]

/-- **A hostname can take the advice away.** A third device calls itself by the DNS name that is offered
for the first desk. -/
theorem advice_taken : ¬ ∀ (peers : List MeshPeer) (target : String) (names : List String),
    peers.Pairwise Distinct → findPeer peers target = .error (.ambiguous names) →
      List.Forall₂ (fun name peer => findPeer peers name = .ok peer) names
        (peers.filter (targets target)) := by
  intro claim
  have advice := claim _ "desk" ["desk.ts.net", "desk-1.ts.net"] distinct_desks (by decide +kernel)
  have candidates : (desks ++ [pretender]).filter (targets "desk") = desks := by decide +kernel
  have missed : findPeer (desks ++ [pretender]) "desk.ts.net" =
      .error (.ambiguous ["desk.ts.net", "guest.ts.net"]) := by decide +kernel
  rw [candidates] at advice
  cases advice with
  | cons first _ => cases missed.symm.trans first

/-- Two desks of one name, each selected by the DNS name that is offered for it. -/
theorem advice_iff_desks :
    List.Forall₂ (fun name peer => findPeer desks name = .ok peer)
        ["desk.ts.net", "desk-1.ts.net"] (desks.filter (targets "desk")) ↔
      ∀ peer ∈ desks, targets "desk" peer = true →
        Owned peer ∧ ∀ other ∈ desks, other ≠ peer → ¬ Taken peer other :=
  advice_iff (List.pairwise_append.mp distinct_desks).1 (by decide +kernel)

end Omdesky.Application
