/-
**What an authenticated peer rests on.**

Whatever the interleaving of `authenticate` calls on one authorizer, and whatever the mesh, the
access store and time do:

* `Backed`: the invariant. A cached identity comes from a lookup for its own address that began no
  earlier than its timestamp, a cached allowlist from a read that did, and the identity cache stays
  within its capacity.
* `Evidence`: what a successful call rests on, in terms of the two clock readings it made.
* `authenticate_evidence`: every successful call has its evidence, so that what the allowlist no
  longer grants is refused from two seconds after the change (`Honours`).
-/

import Omdesky.Agent.Authorize
import Omdesky.Interaction.Pool

namespace Omdesky.Agent

open Collections Interaction Interaction.Program

/-! ### Evidence -/

/-- The clock readings of a trace, in order. -/
def instants (trace : List (Event AuthorizerRequest AuthorizerAnswer)) : List Instant :=
  trace.filterMap fun
    | ⟨.instant, now⟩ => some now
    | _ => none

/-- The node a lookup found. -/
def LookupResult.node : LookupResult → Option String
  | .found (some identity) => some identity.tailnetNodeId
  | _ => none

/-- `now` is less than `ttl` after `started`. -/
def Within (now started : Instant) (ttl : Duration) : Prop := now < started + ttl

/-- A finished lookup answered the node for the source, and began less than the identity lifetime
before `identified`. -/
def Identified (state : AuthorizerState) (source : IpAddr) (node : String)
    (identified : Instant) : Prop :=
  node ≠ "" ∧ ∃ lookup ∈ state.lookups, lookup.source = source ∧ lookup.result.node = some node ∧
    Within identified lookup.started identityCacheTtl

/-- A finished read returned the entries, and began less than the allowlist lifetime before
`listed`. -/
def Listed (state : AuthorizerState) (entries : List AllowedController) (listed : Instant) : Prop :=
  ∃ read ∈ state.reads, read.entries = entries ∧ Within listed read.started allowlistCacheTtl

/-! ### The invariant -/

variable (store : Instant → List AllowedController)

/-- **The invariant of the shared state.** -/
structure Backed (state : AuthorizerState) : Prop where
  identities : ∀ source cached, state.identities.lookup source = some cached →
    cached.tailnetNodeId ≠ "" ∧ ∃ lookup ∈ state.lookups, lookup.source = source ∧
      lookup.result.node = some cached.tailnetNodeId ∧ cached.resolvedAt ≤ lookup.started
  allowlist : ∀ cached, state.allowlist = some cached →
    ∃ read ∈ state.reads, read.entries = cached.entries ∧ cached.readAt ≤ read.started
  reads : ∀ read ∈ state.reads, ∃ moment, read.started ≤ moment ∧ moment ≤ state.clock ∧
    read.entries = store moment
  capacity : state.identities.size ≤ identityCacheCapacity

/-- The clock and the logs only grow. -/
structure Grows (first second : AuthorizerState) : Prop where
  clock : first.clock ≤ second.clock
  lookups : first.lookups ⊆ second.lookups
  reads : first.reads ⊆ second.reads

variable {store}

theorem Grows.refl (state : AuthorizerState) : Grows state state :=
  ⟨le_refl _, List.Subset.refl _, List.Subset.refl _⟩

theorem Grows.trans (first second third : AuthorizerState) (early : Grows first second)
    (late : Grows second third) : Grows first third :=
  ⟨le_trans early.clock late.clock, List.Subset.trans early.lookups late.lookups,
    List.Subset.trans early.reads late.reads⟩

theorem Identified.grow {first second : AuthorizerState} {source : IpAddr} {node : String}
    {identified : Instant} (found : Identified first source node identified)
    (grows : Grows first second) : Identified second source node identified := by
  obtain ⟨nonempty, lookup, member, rest⟩ := found
  exact ⟨nonempty, lookup, grows.lookups member, rest⟩

theorem Listed.grow {first second : AuthorizerState} {entries : List AllowedController}
    {listed : Instant} (found : Listed first entries listed) (grows : Grows first second) :
    Listed second entries listed := by
  obtain ⟨read, member, rest⟩ := found
  exact ⟨read, grows.reads member, rest⟩

/-- A younger timestamp is within any lifetime the older one is. -/
theorem within_of_sub_lt {now stamp started ttl : Nat} (young : now - stamp < ttl)
    (later : stamp ≤ started) : Within now started ttl := by
  have before : now < started + ttl := by omega
  exact before

/-- What began after `now` is within any lifetime. -/
theorem within_of_le {now started ttl : Nat} (positive : 0 < ttl) (later : now ≤ started) :
    Within now started ttl := by
  have before : now < started + ttl := by omega
  exact before

namespace Backed

theorem new (clock : Instant) : Backed store (.new clock) where
  identities := by
    intro source cached found
    rw [AuthorizerState.new, AList.lookup_empty] at found
    cases found
  allowlist := by rintro cached ⟨⟩
  reads := by rintro read ⟨⟩
  capacity := Nat.zero_le _

end Backed

theorem size_rememberIdentity_le {identities : Table IpAddr CachedIdentity}
    (within : identities.size ≤ identityCacheCapacity) (source : IpAddr) (cached : CachedIdentity) :
    (rememberIdentity identities source cached).size ≤ identityCacheCapacity := by
  unfold rememberIdentity
  dsimp only
  split <;> rename_i full <;> split <;> rename_i room
  · exact le_trans (Table.size_insert_le _ _ _) room
  · exact le_trans (Table.size_retain_le _ _) within
  · exact le_trans (Table.size_insert_le _ _ _) room
  · exact within

/-- The cache holds what it held, or the new answer. -/
theorem lookup_rememberIdentity {identities : Table IpAddr CachedIdentity} {source : IpAddr}
    {cached : CachedIdentity} {other : IpAddr} {found : CachedIdentity}
    (looked : (rememberIdentity identities source cached).lookup other = some found) :
    identities.lookup other = some found ∨ other = source ∧ found = cached := by
  have inserted (table : Table IpAddr CachedIdentity)
      (looked : (table.insert source cached).lookup other = some found) :
      table.lookup other = some found ∨ other = source ∧ found = cached := by
    by_cases same : other = source
    · subst same
      rw [AList.lookup_insert, Option.some.injEq] at looked
      exact .inr ⟨rfl, looked.symm⟩
    · rw [AList.lookup_insert_ne same] at looked
      exact .inl looked
  have kept (looked : (identities.retain fun _ earlier =>
      cached.resolvedAt - earlier.resolvedAt < identityCacheTtl).lookup other = some found) :
      identities.lookup other = some found :=
    (Table.lookup_retain_eq_some.mp looked).1
  unfold rememberIdentity at looked
  dsimp only at looked
  split at looked <;> split at looked
  · exact (inserted _ looked).imp_left kept
  · exact .inl (kept looked)
  · exact inserted _ looked
  · exact .inl looked

namespace Backed

variable {state after : AuthorizerState}

/-- A step that only lets time pass and the logs grow. -/
theorem grow (backed : Backed store state) (grows : Grows state after)
    (identities : after.identities = state.identities)
    (allowlist : after.allowlist = state.allowlist)
    (reads : ∀ read ∈ after.reads, read ∈ state.reads ∨ ∃ moment, read.started ≤ moment ∧
      moment ≤ after.clock ∧ read.entries = store moment) : Backed store after where
  identities := by
    intro source cached found
    rw [identities] at found
    obtain ⟨nonempty, lookup, member, rest⟩ := backed.identities source cached found
    exact ⟨nonempty, lookup, grows.lookups member, rest⟩
  allowlist := by
    intro cached found
    rw [allowlist] at found
    obtain ⟨read, member, rest⟩ := backed.allowlist cached found
    exact ⟨read, grows.reads member, rest⟩
  reads := by
    intro read member
    obtain old | new := reads read member
    · obtain ⟨moment, early, late, same⟩ := backed.reads read old
      exact ⟨moment, early, le_trans late grows.clock, same⟩
    · exact new
  capacity := identities ▸ backed.capacity

theorem tick (backed : Backed store state) {now : Instant} (later : state.clock ≤ now) :
    Backed store (state.tick now) ∧ Grows state (state.tick now) := by
  have grows : Grows state (state.tick now) := ⟨later, List.Subset.refl _, List.Subset.refl _⟩
  exact ⟨backed.grow grows rfl rfl fun read member => .inl member, grows⟩

/-- A lookup finishes. -/
theorem looked (backed : Backed store state) {now : Instant} (later : state.clock ≤ now)
    (lookup : Lookup) : Backed store ((state.tick now).looked lookup) ∧
      Grows state ((state.tick now).looked lookup) := by
  have grows : Grows state ((state.tick now).looked lookup) :=
    ⟨later, List.subset_cons_self _ _, List.Subset.refl _⟩
  exact ⟨backed.grow grows rfl rfl fun read member => .inl member, grows⟩

/-- A read finishes with what the file held at some moment of it. -/
theorem returned (backed : Backed store state) {now started moment : Instant}
    (later : state.clock ≤ now) (early : started ≤ moment) (late : moment ≤ now) :
    Backed store ((state.tick now).returned ⟨started, store moment⟩) ∧
      Grows state ((state.tick now).returned ⟨started, store moment⟩) := by
  have grows : Grows state ((state.tick now).returned ⟨started, store moment⟩) :=
    ⟨later, List.Subset.refl _, List.subset_cons_self _ _⟩
  refine ⟨backed.grow grows rfl rfl fun read member => ?_, grows⟩
  obtain rfl | member := List.mem_cons.mp member
  · exact .inr ⟨moment, early, late, rfl⟩
  · exact .inl member

/-- The limiter decides. -/
theorem limited (backed : Backed store state) {now : Instant} (later : state.clock ≤ now)
    (limiter : RateLimiter) : Backed store ((state.tick now).limited limiter) ∧
      Grows state ((state.tick now).limited limiter) := by
  have grows : Grows state ((state.tick now).limited limiter) :=
    ⟨later, List.Subset.refl _, List.Subset.refl _⟩
  exact ⟨backed.grow grows rfl rfl fun read member => .inl member, grows⟩

/-- A backed answer is remembered. -/
theorem remembered (backed : Backed store state) {source : IpAddr} {cached : CachedIdentity}
    (nonempty : cached.tailnetNodeId ≠ "") (answered : ∃ lookup ∈ state.lookups,
      lookup.source = source ∧ lookup.result.node = some cached.tailnetNodeId ∧
        cached.resolvedAt ≤ lookup.started) :
    Backed store (state.remembered source cached) ∧
      Grows state (state.remembered source cached) := by
  refine ⟨⟨fun other found looked => ?_, backed.allowlist, backed.reads,
    size_rememberIdentity_le backed.capacity source cached⟩, ⟨le_refl _, List.Subset.refl _,
      List.Subset.refl _⟩⟩
  obtain old | ⟨rfl, rfl⟩ := lookup_rememberIdentity looked
  · exact backed.identities other found old
  · exact ⟨nonempty, answered⟩

/-- A backed allowlist is stored. -/
theorem stored (backed : Backed store state) {cached : CachedAllowlist}
    (returned : ∃ read ∈ state.reads, read.entries = cached.entries ∧
      cached.readAt ≤ read.started) :
    Backed store (state.stored cached) ∧ Grows state (state.stored cached) := by
  refine ⟨⟨backed.identities, ?_, backed.reads, backed.capacity⟩, ⟨le_refl _, List.Subset.refl _,
    List.Subset.refl _⟩⟩
  rintro found ⟨⟩
  exact returned

end Backed

/-! ### The programs -/

/-- Sound in the surroundings of the authorizer. -/
abbrev SoundHere (store : Instant → List AllowedController) {α : Type}
    (post : List (Event AuthorizerRequest AuthorizerAnswer) → α → AuthorizerState → Prop)
    (trace : List (Event AuthorizerRequest AuthorizerAnswer)) (program : AuthorizerM α)
    (state : AuthorizerState) : Prop :=
  Sound (authorizerWorld store) (Backed store) Grows post trace program state

variable {trace : List (Event AuthorizerRequest AuthorizerAnswer)} {state : AuthorizerState}
  {source : IpAddr}

/-- What `identify` establishes for the clock it read. -/
def IdentifyPost (source : IpAddr) (now : Instant) (clocks : List Instant)
    (trace : List (Event AuthorizerRequest AuthorizerAnswer))
    (result : Except AuthorizationError String) (state : AuthorizerState) : Prop :=
  instants trace = clocks ∧ ∀ node, result = .ok node → Identified state source node now

/-- A lookup that began after `now` and found a node identifies the source as of `now`. -/
theorem sound_lookUp {now : Instant} (past : now ≤ state.clock) :
    SoundHere store (IdentifyPost source now (instants trace)) trace (lookUp source now) state := by
  unfold lookUp
  intro middle granted _ grown backed answered
  obtain rfl := answered
  refine ⟨backed, .refl _, ?_⟩
  have past := le_trans past grown.clock
  cases granted with
  | false => exact ⟨by simp [instants], by rintro node ⟨⟩⟩
  | true =>
      -- the lookup begins after the clock reading that will stamp its answer
      rintro begun started _ grown backed ⟨later, rfl⟩
      obtain ⟨backed, grows⟩ := backed.tick later
      refine ⟨backed, grows, ?_⟩
      have before : now ≤ started := le_trans past (le_trans grown.clock later)
      rintro ended result _ grown backed ⟨finished, later, rfl⟩
      obtain ⟨backed, grows⟩ := backed.looked later ⟨source, started, result⟩
      refine ⟨backed, grows, ?_⟩
      rintro _ ⟨⟩ freed logged backed rfl
      refine ⟨backed, .refl _, ?_⟩
      have member : (⟨source, started, result⟩ : Lookup) ∈ freed.lookups :=
        logged.lookups List.mem_cons_self
      match result with
      | .timedOut | .failed _ | .found none => exact ⟨by simp [instants], by rintro node ⟨⟩⟩
      | .found (some identity) =>
          dsimp only
          split
          · exact ⟨by simp [instants], by rintro node ⟨⟩⟩
          · rename_i nonempty
            let cached : CachedIdentity := ⟨identity.tailnetNodeId, now⟩
            have named : cached.tailnetNodeId ≠ "" := by simpa using nonempty
            rintro middle ⟨⟩ _ grown backed rfl
            have member := grown.lookups member
            obtain ⟨backed, grows⟩ := backed.remembered named ⟨_, member, rfl, rfl, before⟩
            refine ⟨backed, grows, by simp [instants], ?_⟩
            rintro node ⟨⟩
            exact ⟨named, _, grows.lookups member, rfl, rfl, within_of_le (by decide) before⟩

/-- `identify` reads the clock once and identifies the source as of that reading. -/
theorem sound_identify :
    SoundHere store (fun trace' result state => ∃ now,
      IdentifyPost source now (instants trace ++ [now]) trace' result state) trace
      (identify source) state := by
  simp only [identify, consult, perform_bind]
  rintro middle now _ grown backed ⟨later, rfl⟩
  obtain ⟨backed, grows⟩ := backed.tick later
  refine ⟨backed, grows, ?_⟩
  rintro _ cached looked grown backed ⟨rfl, rfl⟩
  refine ⟨backed, .refl _, ?_⟩
  have past : now ≤ looked.clock := grown.clock
  dsimp only
  split <;> rename_i fresh
  · obtain ⟨held, young⟩ := Option.filter_eq_some_iff.mp fresh
    obtain ⟨nonempty, lookup, member, own, answered, before⟩ := backed.identities _ _ held
    refine ⟨now, by simp [instants], ?_⟩
    rintro node ⟨⟩
    exact ⟨nonempty, lookup, member, own, answered,
      within_of_sub_lt (of_decide_eq_true young) before⟩
  · refine (sound_lookUp past).weaken fun trace' result state post => ?_
    obtain ⟨clocks, identified⟩ := post
    exact ⟨now, by simpa [instants] using clocks, identified⟩

/-- `allowlist` reads the clock once and lists entries as of that reading. -/
theorem sound_allowlist :
    SoundHere store (fun trace' result state => ∃ now, instants trace' = instants trace ++ [now] ∧
      ∀ entries, result = .ok entries → Listed state entries now) trace allowlist state := by
  simp only [allowlist, consult, perform_bind]
  rintro middle now _ grown backed ⟨later, rfl⟩
  obtain ⟨backed, grows⟩ := backed.tick later
  refine ⟨backed, grows, ?_⟩
  rintro _ cached held grown backed ⟨rfl, rfl⟩
  refine ⟨backed, .refl _, ?_⟩
  have past : now ≤ held.clock := grown.clock
  dsimp only
  split <;> rename_i fresh
  · obtain ⟨found, young⟩ := Option.filter_eq_some_iff.mp fresh
    obtain ⟨read, member, same, before⟩ := backed.allowlist _ found
    refine ⟨now, by simp [instants], ?_⟩
    rintro entries ⟨⟩
    exact ⟨read, member, same, within_of_sub_lt (of_decide_eq_true young) before⟩
  · rintro begun started _ grown backed ⟨later, rfl⟩
    obtain ⟨backed, grows⟩ := backed.tick later
    refine ⟨backed, grows, ?_⟩
    have before : now ≤ started := le_trans past (le_trans grown.clock later)
    rintro ended (error | entries) _ grown backed answered
    · obtain ⟨finished, later, rfl⟩ := answered
      obtain ⟨backed, grows⟩ := backed.tick later
      exact ⟨backed, grows, now, by simp [instants], by rintro entries ⟨⟩⟩
    · obtain ⟨finished, moment, later, early, late, rfl, rfl⟩ := answered
      obtain ⟨backed, grows⟩ := backed.returned later early late
      refine ⟨backed, grows, ?_⟩
      rintro kept ⟨⟩ _ grown backed rfl
      have member : (⟨started, store moment⟩ : Read) ∈ kept.reads :=
        grown.reads List.mem_cons_self
      let cached : CachedAllowlist := ⟨store moment, now⟩
      have returned : ∃ read ∈ kept.reads, read.entries = cached.entries ∧
          cached.readAt ≤ read.started := ⟨_, member, rfl, before⟩
      obtain ⟨backed, grows⟩ := backed.stored returned
      refine ⟨backed, grows, now, by simp [instants], ?_⟩
      rintro entries ⟨⟩
      exact ⟨_, grows.reads member, rfl, within_of_le (by decide) before⟩

/-! ### The evidence of a successful call -/

/-- **What a successful call rests on**: an identity as of one clock reading, and the first entry of
that node in an allowlist as of a later one. -/
structure Evidence (state : AuthorizerState) (source : IpAddr) (peer : AuthorizedPeer)
    (identified listed : Instant) : Prop where
  identity : Identified state source peer.tailnetNodeId identified
  listing : ∃ entries, Listed state entries listed ∧
    (entryOf entries peer.tailnetNodeId).map AllowedController.capabilities =
      some peer.capabilities

/-- What `authenticate` establishes. -/
def AuthenticatePost (strict : Bool) (source : IpAddr)
    (trace : List (Event AuthorizerRequest AuthorizerAnswer))
    (result : Except AuthorizationError AuthorizedPeer) (state : AuthorizerState) : Prop :=
  ∀ peer, result = .ok peer → (strict = true → isTailscaleAddress source = true) ∧
    ∃ identified listed, instants trace = [identified, listed] ∧
      Evidence state source peer identified listed

theorem sound_authenticate (strict : Bool) :
    SoundHere store (AuthenticatePost strict source) [] (authenticate strict source) state := by
  simp only [authenticate, consult, perform_bind]
  split <;> rename_i outside
  · rintro peer ⟨⟩
  have inside : strict = true → isTailscaleAddress source = true := by
    intro isStrict
    simpa [isStrict] using outside
  rintro middle admitted _ grown backed ⟨now, later, _, rfl⟩
  obtain ⟨backed, grows⟩ := backed.limited later (middle.limiter.admitSource source now).2
  refine ⟨backed, grows, ?_⟩
  cases admitted with
  | false => rintro peer ⟨⟩
  | true =>
      simp only [Bool.not_true, Bool.false_eq_true, if_false]
      refine sound_bind ((sound_identify).weaken ?_)
      rintro trace' (error | node) state ⟨identified, clocks, identity⟩
      · rintro peer ⟨⟩
      have identity := identity node rfl
      refine sound_bind ((sound_allowlist.remember Grows.trans (Grows.refl state)).weaken ?_)
      rintro trace (error | entries) final ⟨since, listed, times, listing⟩
      · rintro peer ⟨⟩
      have listing := listing entries rfl
      dsimp only
      split <;> rename_i entry found
      · rintro peer ⟨⟩
      rintro peer ⟨⟩
      have named : entry.tailnetNodeId = node := by simpa using List.find?_some found
      refine ⟨inside, identified, listed, ?_, ?_, entries, listing, ?_⟩
      · rw [times, clocks]
        simp [instants]
      · rw [named]
        exact identity.grow since
      · rw [named, found, Option.map_some]

theorem AuthenticatePost.grow {strict : Bool} {result : Except AuthorizationError AuthorizedPeer}
    {first second : AuthorizerState} (grows : Grows first second)
    (post : AuthenticatePost strict source trace result first) :
    AuthenticatePost strict source trace result second := by
  intro peer ok
  obtain ⟨inside, identified, listed, clocks, identity, entries, listing, entry⟩ := post peer ok
  exact ⟨inside, identified, listed, clocks, identity.grow grows, entries, listing.grow grows,
    entry⟩

/-- Every `authenticate` call is sound in any company. -/
theorem disciplined_authenticate (store : Instant → List AllowedController) (strict : Bool) :
    Disciplined (authenticate strict) (authorizerWorld store) elapse (Backed store) Grows
      (AuthenticatePost strict) where
  refl := Grows.refl
  trans := Grows.trans
  stable := fun _ _ _ _ _ grows post => post.grow grows
  acts := by
    rintro first second backed ⟨now, later, rfl⟩
    exact backed.tick later
  sound := fun _ _ => sound_authenticate strict

/-- If from `revoked` on the file no longer lists exactly these capabilities for the node, then the
call read its second clock less than two seconds after `revoked`. -/
def Honours (store : Instant → List AllowedController) (peer : AuthorizedPeer)
    (listed : Instant) : Prop :=
  ∀ revoked, (∀ moment, revoked ≤ moment →
    (entryOf (store moment) peer.tailnetNodeId).map AllowedController.capabilities ≠
      some peer.capabilities) → Within listed revoked allowlistCacheTtl

theorem Evidence.honours {peer : AuthorizedPeer} {identified listed : Instant}
    (evidence : Evidence state source peer identified listed) (backed : Backed store state) :
    Honours store peer listed := by
  intro revoked gone
  obtain ⟨entries, ⟨read, member, rfl, young⟩, entry⟩ := evidence.listing
  obtain ⟨moment, early, _, same⟩ := backed.reads read member
  rw [same] at entry
  -- the file still listed the capabilities while the read ran, so the read began before
  have before : moment < revoked := by
    by_contra later
    exact gone moment (Nat.le_of_not_lt later) entry
  exact lt_of_lt_of_le young (Nat.add_le_add_right (le_of_lt (lt_of_le_of_lt early before)) _)

/-- **Every authenticated peer rests on fresh evidence**, in every interleaving of calls. -/
theorem authenticate_evidence {strict : Bool} {began : Instant}
    {pool : Pool IpAddr AuthorizerRequest AuthorizerAnswer
      (Except AuthorizationError AuthorizedPeer) AuthorizerState}
    (reached : pool.Reachable (authenticate strict) (authorizerWorld store) elapse (.new began)) :
    (∀ task ∈ pool.tasks, ∀ peer, task.program = .done (.ok peer) →
      ∃ identified listed, instants task.trace = [identified, listed] ∧
        Evidence pool.shared task.input peer identified listed ∧ Honours store peer listed) ∧
      pool.shared.identities.size ≤ identityCacheCapacity := by
  have disciplined := disciplined_authenticate store strict
  obtain ⟨backed, _⟩ := disciplined.reachable (Backed.new began) reached
  refine ⟨fun task member peer done => ?_, backed.capacity⟩
  obtain ⟨_, identified, listed, clocks, evidence⟩ :=
    disciplined.finished (Backed.new began) reached member done peer rfl
  exact ⟨identified, listed, clocks, evidence, evidence.honours backed⟩

/-- The law at one successful call that had to look everything up. -/
theorem authenticate_evidence_desk :
    let store : Instant → List AllowedController := fun _ => [⟨"desk", none, 0, [.readMetadata]⟩]
    ∃ pool : Pool IpAddr AuthorizerRequest AuthorizerAnswer
        (Except AuthorizationError AuthorizedPeer) AuthorizerState,
      (∃ task ∈ pool.tasks, task.program = .done (.ok ⟨"desk", [.readMetadata]⟩)) ∧
      (∀ task ∈ pool.tasks, ∀ peer, task.program = .done (.ok peer) →
        ∃ identified listed, instants task.trace = [identified, listed] ∧
          Evidence pool.shared task.input peer identified listed ∧ Honours store peer listed) ∧
      pool.shared.identities.size ≤ identityCacheCapacity := by
  intro store
  have run : Runs (authorizerWorld store) (authenticate true (.v4 100 64 0 1)) (.new 0) _
      (.ok ⟨"desk", [.readMetadata]⟩) _ :=
    ⟨true, _, _, rfl, ⟨0, Nat.le_refl _, by decide +kernel, rfl⟩,
      0, _, _, rfl, ⟨Nat.le_refl _, rfl⟩,
      none, _, _, rfl, ⟨rfl, rfl⟩,
      true, _, _, rfl, rfl,
      0, _, _, rfl, ⟨Nat.le_refl _, rfl⟩,
      .found (some ⟨"desk", none, none, []⟩), _, _, rfl, ⟨0, Nat.le_refl _, rfl⟩,
      (), _, _, rfl, rfl,
      (), _, _, rfl, rfl,
      1, _, _, rfl, ⟨Nat.zero_le _, rfl⟩,
      none, _, _, rfl, ⟨rfl, rfl⟩,
      1, _, _, rfl, ⟨Nat.le_refl _, rfl⟩,
      .ok [⟨"desk", none, 0, [.readMetadata]⟩], _, _, rfl,
        ⟨1, 1, Nat.le_refl _, Nat.le_refl _, Nat.le_refl _, rfl, rfl⟩,
      (), _, _, rfl, rfl, rfl, rfl, rfl⟩
  exact ⟨_, ⟨_, List.mem_cons_self, rfl⟩, authenticate_evidence (Pool.Reachable.call .refl run)⟩

end Omdesky.Agent
