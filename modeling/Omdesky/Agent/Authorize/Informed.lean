/-
**The authorizer, when it is informed.**

Tailscale knows the source in time and under one name, the source is not over its rate, and every read
of the allowlist ends alike.

* `informedWorld`: these surroundings, within those of the authorizer.
* `Consistent`: the caches hold nothing else than these answers. Empty caches are consistent.
* `ends_authenticate`: **the first entry of the node decides** what the source may do.
* `ends_authorize`: a command is authorized exactly when that entry has its capability.
* `exists_authenticate`: with empty caches the judgement is reached.
-/

import Omdesky.Agent.Authorize.Evidence

namespace Omdesky.Agent

open Collections Interaction Interaction.Program

/-- What is answered about a source. -/
def Informed (listed : PortResult (List AllowedController)) (node : String) (source : IpAddr) :
    (request : AuthorizerRequest) → AuthorizerAnswer request → Prop
  | .limit limited, admitted => limited = source → admitted = true
  | .acquire, granted => granted = true
  | .endLookup asked _, result => asked = source →
      ∃ identity, result = .found (some identity) ∧ identity.tailnetNodeId = node
  | .endRead _, read => read = listed
  | _, _ => True

/-- The surroundings of the authorizer, with these answers. -/
def informedWorld (listed : PortResult (List AllowedController)) (node : String) (source : IpAddr) :
    World AuthorizerRequest AuthorizerAnswer AuthorizerState := fun request state answer after =>
  authorizerWorld (fun _ => listed.toOption.getD []) request state answer after ∧
    Informed listed node source request answer

/-- No cache says anything else. -/
structure Consistent (listed : PortResult (List AllowedController)) (node : String) (source : IpAddr)
    (state : AuthorizerState) : Prop where
  identity : ∀ cached, state.identities.lookup source = some cached → cached.tailnetNodeId = node
  allowlist : ∀ cached, state.allowlist = some cached → listed = .ok cached.entries

/-- What the first entry of the node makes of the source. -/
def judged (listed : PortResult (List AllowedController)) (node : String) :
    Except AuthorizationError AuthorizedPeer :=
  match listed with
  | .error _ => .error .accessStoreFailed
  | .ok entries =>
      match entryOf entries node with
      | none => .error .unauthorized
      | some entry =>
          .ok { tailnetNodeId := entry.tailnetNodeId, capabilities := entry.capabilities }

variable {listed : PortResult (List AllowedController)} {node : String} {source : IpAddr}
  {state after : AuthorizerState}

/-- Empty caches are consistent. -/
theorem consistent_of_empty (identities : state.identities.lookup source = none)
    (allowlist : state.allowlist = none) : Consistent listed node source state where
  identity cached found := by cases identities.symm.trans found
  allowlist cached found := by cases allowlist.symm.trans found

theorem Consistent.tick (consistent : Consistent listed node source state) (now : Instant) :
    Consistent listed node source (state.tick now) :=
  ⟨consistent.identity, consistent.allowlist⟩

theorem Consistent.remembered (consistent : Consistent listed node source state)
    (resolvedAt : Instant) :
    Consistent listed node source (state.remembered source ⟨node, resolvedAt⟩) where
  identity cached found := by
    obtain old | ⟨_, rfl⟩ := lookup_rememberIdentity found
    · exact consistent.identity cached old
    · rfl
  allowlist := consistent.allowlist

theorem ends_lookUp {now : Instant} {result : Except AuthorizationError String} (named : node ≠ "")
    (consistent : Consistent listed node source state)
    (run : Ends (informedWorld listed node source) (lookUp source now) state result after) :
    result = .ok node ∧ Consistent listed node source after := by
  obtain ⟨trace, granted, _, _, rfl, ⟨rfl, permitted⟩, run⟩ := run
  obtain rfl : granted = true := permitted
  obtain ⟨started, _, _, rfl, ⟨⟨_, rfl⟩, _⟩, run⟩ := run
  obtain ⟨answer, _, _, rfl, ⟨⟨finished, _, rfl⟩, found⟩, run⟩ := run
  obtain ⟨identity, rfl, rfl⟩ := found rfl
  obtain ⟨_, _, _, rfl, ⟨rfl, _⟩, run⟩ := run
  have nonempty : identity.tailnetNodeId.isEmpty = false := by simpa using named
  dsimp only at run
  rw [nonempty] at run
  obtain ⟨_, _, _, rfl, ⟨rfl, _⟩, _, rfl, rfl⟩ := run
  refine ⟨rfl, Consistent.remembered ?_ now⟩
  exact ⟨consistent.identity, consistent.allowlist⟩

theorem ends_identify {result : Except AuthorizationError String} (named : node ≠ "")
    (consistent : Consistent listed node source state)
    (run : Ends (informedWorld listed node source) (identify source) state result after) :
    result = .ok node ∧ Consistent listed node source after := by
  obtain ⟨trace, now, _, _, rfl, ⟨⟨_, rfl⟩, _⟩, run⟩ := run
  obtain ⟨cached, _, _, rfl, ⟨⟨found, rfl⟩, _⟩, run⟩ := run
  have ticked := consistent.tick now
  dsimp only [Program.bind] at run
  cases fresh : cached.filter fun cached => now - cached.resolvedAt < identityCacheTtl with
  | none =>
      rw [fresh] at run
      exact ends_lookUp named ticked ⟨_, run⟩
  | some hit =>
      rw [fresh] at run
      obtain ⟨_, rfl, rfl⟩ := run
      have held := (Option.filter_eq_some_iff.mp fresh).1
      rw [consistent.identity hit (found.symm.trans held)]
      exact ⟨rfl, ticked⟩

theorem ends_allowlist {result : Except AuthorizationError (List AllowedController)}
    (consistent : Consistent listed node source state)
    (run : Ends (informedWorld listed node source) allowlist state result after) :
    result = listed.mapError (fun _ => .accessStoreFailed) ∧ Consistent listed node source after := by
  obtain ⟨trace, now, _, _, rfl, ⟨⟨_, rfl⟩, _⟩, run⟩ := run
  obtain ⟨cached, _, _, rfl, ⟨⟨found, rfl⟩, _⟩, run⟩ := run
  have ticked := consistent.tick now
  dsimp only [Program.bind] at run
  cases fresh : cached.filter fun cached => now - cached.readAt < allowlistCacheTtl with
  | some hit =>
      rw [fresh] at run
      obtain ⟨_, rfl, rfl⟩ := run
      have held := (Option.filter_eq_some_iff.mp fresh).1
      refine ⟨?_, ticked⟩
      rw [consistent.allowlist hit (found.symm.trans held)]
      rfl
  | none =>
      rw [fresh] at run
      obtain ⟨started, _, _, rfl, ⟨⟨_, rfl⟩, _⟩, run⟩ := run
      obtain ⟨answer, _, _, rfl, ⟨read, same⟩, run⟩ := run
      obtain rfl : answer = listed := same
      cases answer with
      | error error =>
          obtain ⟨_, _, rfl⟩ := read
          obtain ⟨_, rfl, rfl⟩ := run
          exact ⟨rfl, ticked.identity, ticked.allowlist⟩
      | ok entries =>
          obtain ⟨_, _, _, _, _, _, rfl⟩ := read
          obtain ⟨_, _, _, rfl, ⟨rfl, _⟩, _, rfl, rfl⟩ := run
          refine ⟨rfl, ticked.identity, ?_⟩
          rintro cached ⟨⟩
          rfl

/-- A source inside the tailnet passes either way. -/
theorem admissible_of_inside {strictTailnetOnly : Bool}
    (inside : strictTailnetOnly = true → isTailscaleAddress source = true) :
    (strictTailnetOnly && !isTailscaleAddress source) = false := by
  cases strictTailnetOnly with
  | false => rfl
  | true =>
      rw [inside rfl]
      rfl

/-- **The first entry of the node decides** what the source may do. -/
theorem ends_authenticate {strictTailnetOnly : Bool} {result : Except AuthorizationError AuthorizedPeer}
    (named : node ≠ "") (inside : strictTailnetOnly = true → isTailscaleAddress source = true)
    (consistent : Consistent listed node source state)
    (run : Ends (informedWorld listed node source) (authenticate strictTailnetOnly source) state result
      after) :
    result = judged listed node ∧ Consistent listed node source after := by
  unfold authenticate at run
  rw [admissible_of_inside inside] at run
  obtain ⟨trace, admitted, _, _, rfl, ⟨⟨now, _, _, rfl⟩, free⟩, run⟩ := run
  obtain rfl : admitted = true := free rfl
  have limited : Consistent listed node source ((state.tick now).limited
      (state.limiter.admitSource source now).2) := ⟨consistent.identity, consistent.allowlist⟩
  dsimp only [Program.bind] at run
  obtain ⟨_, middle, identified, run⟩ := ends_bind.mp ⟨_, run⟩
  obtain ⟨rfl, known⟩ := ends_identify named limited identified
  obtain ⟨_, reached, read, run⟩ := ends_bind.mp run
  obtain ⟨rfl, kept⟩ := ends_allowlist known read
  unfold judged
  cases listed with
  | error error =>
      obtain ⟨rfl, rfl⟩ := ends_done.mp run
      exact ⟨rfl, kept⟩
  | ok entries =>
      dsimp only [Except.mapError] at run ⊢
      cases found : entryOf entries node with
      | none =>
          rw [found] at run
          obtain ⟨rfl, rfl⟩ := ends_done.mp run
          exact ⟨rfl, kept⟩
      | some entry =>
          rw [found] at run
          obtain ⟨rfl, rfl⟩ := ends_done.mp run
          exact ⟨rfl, kept⟩

/-- A command is authorized exactly when the first entry of the node has its capability. -/
theorem ends_authorize {strictTailnetOnly : Bool} {required : ControlCapability}
    {result : Except AuthorizationError AuthorizedPeer}
    (named : node ≠ "") (inside : strictTailnetOnly = true → isTailscaleAddress source = true)
    (consistent : Consistent listed node source state)
    (run : Ends (informedWorld listed node source) (authorize strictTailnetOnly source required) state
      result after) :
    (result = (judged listed node).bind fun peer =>
      if peer.capabilities.contains required then .ok peer else .error .forbidden) ∧
        Consistent listed node source after := by
  obtain ⟨_, middle, authenticated, run⟩ := ends_bind.mp run
  obtain ⟨rfl, kept⟩ := ends_authenticate named inside consistent authenticated
  cases decided : judged listed node with
  | error error =>
      rw [decided] at run
      obtain ⟨rfl, rfl⟩ := ends_done.mp run
      exact ⟨rfl, kept⟩
  | ok peer =>
      rw [decided] at run
      dsimp only [Except.bind] at run ⊢
      cases granted : peer.capabilities.contains required with
      | true =>
          rw [granted] at run
          obtain ⟨rfl, rfl⟩ := ends_done.mp run
          exact ⟨rfl, kept⟩
      | false =>
          rw [granted] at run
          obtain ⟨rfl, rfl⟩ := ends_done.mp run
          exact ⟨rfl, kept⟩

/-! ### The judgement is reached -/

/-- A lookup while the clock stands still. -/
theorem exists_lookUp (named : node ≠ "") (now : Instant) :
    ∃ after, Ends (informedWorld listed node source) (lookUp source now) state (.ok node) after ∧
      after.allowlist = state.allowlist := by
  let found : LookupResult := .found (some ⟨node, none, none, []⟩)
  let looked := (state.tick state.clock).looked ⟨source, state.clock, found⟩
  have nonempty : node.isEmpty = false := by simpa using named
  have remembers : Ends (informedWorld listed node source) (do
      consult (.remember source ⟨node, now⟩)
      return .ok node) looked (.ok node : Except AuthorizationError String)
        (looked.remembered source ⟨node, now⟩) :=
    ends_ask.mpr ⟨(), _, ⟨rfl, trivial⟩, ends_done.mpr ⟨rfl, rfl⟩⟩
  refine ⟨looked.remembered source ⟨node, now⟩, ends_ask.mpr ⟨true, state, ⟨rfl, rfl⟩, ends_ask.mpr
    ⟨state.clock, state, ⟨⟨Nat.le_refl _, rfl⟩, trivial⟩, ends_ask.mpr ⟨found, looked,
      ⟨⟨state.clock, Nat.le_refl _, rfl⟩, fun _ => ⟨_, rfl, rfl⟩⟩, ends_ask.mpr
        ⟨(), looked, ⟨rfl, trivial⟩, ?_⟩⟩⟩⟩, rfl⟩
  dsimp only [found, Program.bind]
  rw [nonempty]
  exact remembers

theorem exists_identify (named : node ≠ "") (identities : state.identities.lookup source = none) :
    ∃ after, Ends (informedWorld listed node source) (identify source) state (.ok node) after ∧
      after.allowlist = state.allowlist := by
  obtain ⟨after, run, kept⟩ := @exists_lookUp listed node source state named state.clock
  refine ⟨after, ends_ask.mpr ⟨state.clock, state, ⟨⟨Nat.le_refl _, rfl⟩, trivial⟩, ends_ask.mpr
    ⟨none, state, ⟨⟨identities.symm, rfl⟩, trivial⟩, ?_⟩⟩, kept⟩
  exact run

theorem exists_allowlist (unread : state.allowlist = none) :
    ∃ after, Ends (informedWorld listed node source) allowlist state
      (listed.mapError fun _ => .accessStoreFailed) after := by
  cases listed with
  | error error =>
      exact ⟨state, ends_ask.mpr ⟨state.clock, state, ⟨⟨Nat.le_refl _, rfl⟩, trivial⟩, ends_ask.mpr
        ⟨none, state, ⟨⟨unread.symm, rfl⟩, trivial⟩, ends_ask.mpr
          ⟨state.clock, state, ⟨⟨Nat.le_refl _, rfl⟩, trivial⟩, ends_ask.mpr
            ⟨.error error, state, ⟨⟨state.clock, Nat.le_refl _, rfl⟩, rfl⟩,
              ends_done.mpr ⟨rfl, rfl⟩⟩⟩⟩⟩⟩
  | ok entries =>
      let read := state.returned ⟨state.clock, entries⟩
      exact ⟨read.stored ⟨entries, state.clock⟩, ends_ask.mpr ⟨state.clock, state,
        ⟨⟨Nat.le_refl _, rfl⟩, trivial⟩, ends_ask.mpr ⟨none, state, ⟨⟨unread.symm, rfl⟩, trivial⟩,
          ends_ask.mpr ⟨state.clock, state, ⟨⟨Nat.le_refl _, rfl⟩, trivial⟩, ends_ask.mpr
            ⟨.ok entries, read, ⟨⟨state.clock, state.clock, Nat.le_refl _, Nat.le_refl _,
              Nat.le_refl _, rfl, rfl⟩, rfl⟩, ends_ask.mpr
                ⟨(), _, ⟨rfl, trivial⟩, ends_done.mpr ⟨rfl, rfl⟩⟩⟩⟩⟩⟩⟩

/-- **Empty caches and a free limiter** reach the judgement. -/
theorem exists_authenticate {strictTailnetOnly : Bool} (named : node ≠ "")
    (inside : strictTailnetOnly = true → isTailscaleAddress source = true)
    (identities : state.identities.lookup source = none) (unread : state.allowlist = none)
    (free : (state.limiter.admitSource source state.clock).1 = true) :
    ∃ after, Ends (informedWorld listed node source) (authenticate strictTailnetOnly source) state
      (judged listed node) after := by
  let admitted := state.limited (state.limiter.admitSource source state.clock).2
  obtain ⟨known, identified, kept⟩ := @exists_identify listed node source admitted named identities
  obtain ⟨after, read⟩ := @exists_allowlist listed node source known (kept.trans unread)
  refine ⟨after, ?_⟩
  unfold authenticate
  rw [admissible_of_inside inside]
  refine ends_ask.mpr ⟨true, admitted, ⟨⟨state.clock, Nat.le_refl _, free.symm, rfl⟩, fun _ => rfl⟩, ?_⟩
  dsimp only [Program.bind]
  refine ends_bind.mpr ⟨_, known, identified, ends_bind.mpr ⟨_, after, read, ?_⟩⟩
  unfold judged
  cases listed with
  | error error => exact ends_done.mpr ⟨rfl, rfl⟩
  | ok entries =>
      dsimp only [Except.mapError]
      cases entryOf entries node with
      | none => exact ends_done.mpr ⟨rfl, rfl⟩
      | some entry => exact ends_done.mpr ⟨rfl, rfl⟩

end Omdesky.Agent
