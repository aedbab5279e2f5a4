/-
**The authorizer (`omdesky-agent/src/authorize.rs`).**

A source address is rate limited, identified through the mesh, and looked up in the allowlist. Both
answers are cached, and any number of requests do this at the same time.

* `RateLimiter.admitSource`: the token buckets, in exact rational arithmetic.
* `identify`, `allowlist`, `authenticate`, `authorize`: the programs, over the requests they make of
  the caches, the mesh, the access store and the clock.
* `authorizerWorld`: the surroundings. The allowlist file is any function of time, a read returns
  what it held at some moment while the read ran, and lookups and reads are logged when they finish.
-/

import Mathlib.Algebra.Order.Ring.Unbundled.Rat
import Omdesky.Collections.Table
import Omdesky.Interaction.World
import Omdesky.Protocol

namespace Omdesky.Agent

open Collections Interaction Interaction.Program

/-! ### The rate limiter -/

/-- `IDENTITY_CACHE_TTL`. -/
def identityCacheTtl : Duration := .fromSecs 15

/-- `IDENTITY_CACHE_CAPACITY`. -/
def identityCacheCapacity : Nat := 512

/-- `ALLOWLIST_CACHE_TTL`. -/
def allowlistCacheTtl : Duration := .fromSecs 2

/-- `RATE_LIMIT_BURST`. -/
def rateLimitBurst : Nat := 60

/-- `RATE_LIMIT_PER_SECOND`. -/
def rateLimitPerSecond : Rat := 5

/-- `RATE_LIMIT_TRACKED_SOURCES`. -/
def rateLimitTrackedSources : Nat := 1024

/-- `Bucket`. -/
structure Bucket where
  tokens : Rat
  updatedAt : Instant
  deriving DecidableEq, Repr

/-- `RateLimiter`. -/
structure RateLimiter where
  buckets : Table IpAddr Bucket
  burst : Rat
  perSecond : Rat
  capacity : Nat

/-- The tokens of a bucket at `now`, before the cap. -/
def Bucket.refilled (bucket : Bucket) (perSecond : Rat) (now : Instant) : Rat :=
  bucket.tokens + Duration.asSecsExact (now - bucket.updatedAt) * perSecond

namespace RateLimiter

/-- `RateLimiter::new`. -/
def new (burst : Nat) (perSecond : Rat) (capacity : Nat) : RateLimiter :=
  { buckets := ∅, burst, perSecond, capacity }

/-- `RateLimiter::prune`. -/
def prune (limiter : RateLimiter) (now : Instant) : RateLimiter :=
  { limiter with
    buckets := limiter.buckets.retain fun _ bucket =>
      bucket.refilled limiter.perSecond now < limiter.burst }

/-- No bucket for the source and no room for another. -/
def full (limiter : RateLimiter) (source : IpAddr) : Bool :=
  limiter.capacity ≤ limiter.buckets.size && !(limiter.buckets.lookup source).isSome

/-- `RateLimiter::admit`. -/
def admitSource (limiter : RateLimiter) (source : IpAddr) (now : Instant) : Bool × RateLimiter :=
  let limiter := if limiter.full source then limiter.prune now else limiter
  if limiter.full source then
    (false, limiter)
  else
    let bucket := (limiter.buckets.lookup source).getD { tokens := limiter.burst, updatedAt := now }
    let tokens := min (bucket.refilled limiter.perSecond now) limiter.burst
    if tokens < 1 then
      (false, { limiter with buckets := limiter.buckets.insert source ⟨tokens, now⟩ })
    else
      (true, { limiter with buckets := limiter.buckets.insert source ⟨tokens - 1, now⟩ })

end RateLimiter

/-! ### The data -/

/-- `AuthorizedPeer`. -/
structure AuthorizedPeer where
  tailnetNodeId : String
  capabilities : List ControlCapability
  deriving DecidableEq, Repr

/-- `AuthorizedPeer::allows`. -/
def AuthorizedPeer.allows (peer : AuthorizedPeer) (capability : ControlCapability) : Bool :=
  peer.capabilities.contains capability

/-- `AuthorizationError`. -/
inductive AuthorizationError
  | rateLimited
  | unavailable
  | unauthorized
  | forbidden
  | accessStoreFailed
  | outsideTailnet
  deriving DecidableEq, Repr

/-- `CachedIdentity`. -/
structure CachedIdentity where
  tailnetNodeId : String
  resolvedAt : Instant
  deriving DecidableEq, Repr

/-- `CachedAllowlist`. -/
structure CachedAllowlist where
  entries : List AllowedController
  readAt : Instant
  deriving DecidableEq, Repr

/-- How an identity lookup ends: in time or not, and with what. -/
inductive LookupResult
  | timedOut
  | failed (error : PortError)
  | found (identity : Option MeshNodeIdentity)
  deriving DecidableEq, Repr

/-- The last step of `identify`: expired entries make room only when the cache is full. -/
def rememberIdentity (identities : Table IpAddr CachedIdentity) (source : IpAddr)
    (cached : CachedIdentity) : Table IpAddr CachedIdentity :=
  let identities :=
    if identityCacheCapacity ≤ identities.size then
      identities.retain fun _ earlier => cached.resolvedAt - earlier.resolvedAt < identityCacheTtl
    else identities
  if identities.size < identityCacheCapacity then identities.insert source cached else identities

/-! ### The programs -/

/-- What the authorizer asks of its surroundings. An identity lookup and a read of the allowlist
begin and end in two requests, with anything in between; the moment they began is handed on. -/
inductive AuthorizerRequest
  | instant
  | limit (source : IpAddr)
  | cachedIdentity (source : IpAddr)
  | acquire
  | release
  | beginLookup (source : IpAddr)
  | endLookup (source : IpAddr) (started : Instant)
  | remember (source : IpAddr) (cached : CachedIdentity)
  | cachedAllowlist
  | beginRead
  | endRead (started : Instant)
  | storeAllowlist (cached : CachedAllowlist)

/-- The answer to each request. -/
abbrev AuthorizerAnswer : AuthorizerRequest → Type
  | .instant => Instant
  | .limit _ => Bool
  | .cachedIdentity _ => Option CachedIdentity
  | .acquire => Bool
  | .release => Unit
  | .beginLookup _ => Instant
  | .endLookup _ _ => LookupResult
  | .remember _ _ => Unit
  | .cachedAllowlist => Option CachedAllowlist
  | .beginRead => Instant
  | .endRead _ => PortResult (List AllowedController)
  | .storeAllowlist _ => Unit

/-- A program of the authorizer. -/
abbrev AuthorizerM := Program AuthorizerRequest AuthorizerAnswer

/-- One request of the authorizer. -/
abbrev consult (request : AuthorizerRequest) : AuthorizerM (AuthorizerAnswer request) :=
  perform request

/-- The lookup of `identify`, when the cache has no answer. -/
def lookUp (source : IpAddr) (now : Instant) : AuthorizerM (Except AuthorizationError String) := do
  if !(← consult .acquire) then
    return .error .unavailable
  let started ← consult (.beginLookup source)
  let result ← consult (.endLookup source started)
  consult .release
  match result with
  | .timedOut => return .error .unavailable
  | .failed _ => return .error .unauthorized
  | .found none => return .error .unauthorized
  | .found (some identity) =>
      if identity.tailnetNodeId.isEmpty then
        return .error .unauthorized
      consult (.remember source { tailnetNodeId := identity.tailnetNodeId, resolvedAt := now })
      return .ok identity.tailnetNodeId

/-- `Authorizer::identify`. -/
def identify (source : IpAddr) : AuthorizerM (Except AuthorizationError String) := do
  let now ← consult .instant
  let cached ← consult (.cachedIdentity source)
  match cached.filter fun cached => now - cached.resolvedAt < identityCacheTtl with
  | some cached => return .ok cached.tailnetNodeId
  | none => lookUp source now

/-- `Authorizer::allowlist`. -/
def allowlist : AuthorizerM (Except AuthorizationError (List AllowedController)) := do
  let now ← consult .instant
  let cached ← consult .cachedAllowlist
  match cached.filter fun cached => now - cached.readAt < allowlistCacheTtl with
  | some cached => return .ok cached.entries
  | none =>
      let started ← consult .beginRead
      match ← consult (.endRead started) with
      | .error _ => return .error .accessStoreFailed
      | .ok entries =>
          consult (.storeAllowlist { entries, readAt := now })
          return .ok entries

/-- The entry of a node, as `authenticate` finds it. -/
def entryOf (entries : List AllowedController) (nodeId : String) : Option AllowedController :=
  entries.find? fun entry => entry.tailnetNodeId == nodeId

/-- `Authorizer::authenticate`. -/
def authenticate (strictTailnetOnly : Bool) (source : IpAddr) :
    AuthorizerM (Except AuthorizationError AuthorizedPeer) := do
  if strictTailnetOnly && !isTailscaleAddress source then
    return .error .outsideTailnet
  if !(← consult (.limit source)) then
    return .error .rateLimited
  match ← identify source with
  | .error error => return .error error
  | .ok nodeId =>
      match ← allowlist with
      | .error error => return .error error
      | .ok entries =>
          match entryOf entries nodeId with
          | none => return .error .unauthorized
          | some entry =>
              return .ok
                { tailnetNodeId := entry.tailnetNodeId, capabilities := entry.capabilities }

/-- `Authorizer::authorize`. -/
def authorize (strictTailnetOnly : Bool) (source : IpAddr) (required : ControlCapability) :
    AuthorizerM (Except AuthorizationError AuthorizedPeer) := do
  match ← authenticate strictTailnetOnly source with
  | .error error => return .error error
  | .ok peer =>
      if !peer.capabilities.contains required then
        return .error .forbidden
      return .ok peer

/-! ### The surroundings -/

/-- A finished identity lookup. -/
structure Lookup where
  source : IpAddr
  started : Instant
  result : LookupResult
  deriving DecidableEq, Repr

/-- A finished read of the allowlist. -/
structure Read where
  started : Instant
  entries : List AllowedController
  deriving DecidableEq, Repr

/-- The authorizer's own state, the clock, and what has been looked up and read so far. -/
structure AuthorizerState where
  identities : Table IpAddr CachedIdentity
  allowlist : Option CachedAllowlist
  limiter : RateLimiter
  clock : Instant
  lookups : List Lookup
  reads : List Read

namespace AuthorizerState

/-- The state of `Authorizer::with_strict_tailnet_only`. -/
def new (clock : Instant) : AuthorizerState where
  identities := ∅
  allowlist := none
  limiter := .new rateLimitBurst rateLimitPerSecond rateLimitTrackedSources
  clock := clock
  lookups := []
  reads := []

/-- The clock read at `now`. -/
def tick (state : AuthorizerState) (now : Instant) : AuthorizerState := { state with clock := now }

/-- The limiter after a decision. -/
def limited (state : AuthorizerState) (limiter : RateLimiter) : AuthorizerState :=
  { state with limiter }

/-- One more finished lookup. -/
def looked (state : AuthorizerState) (lookup : Lookup) : AuthorizerState :=
  { state with lookups := lookup :: state.lookups }

/-- One more finished read. -/
def returned (state : AuthorizerState) (read : Read) : AuthorizerState :=
  { state with reads := read :: state.reads }

/-- An identity remembered. -/
def remembered (state : AuthorizerState) (source : IpAddr) (cached : CachedIdentity) :
    AuthorizerState :=
  { state with identities := rememberIdentity state.identities source cached }

/-- An allowlist stored. -/
def stored (state : AuthorizerState) (cached : CachedAllowlist) : AuthorizerState :=
  { state with allowlist := some cached }

end AuthorizerState

/-- The surroundings of the authorizer, when the allowlist file holds `store t` at time `t`. Permits
and locks are granted at any moment: they only remove interleavings. -/
def authorizerWorld (store : Instant → List AllowedController) :
    World AuthorizerRequest AuthorizerAnswer AuthorizerState
  | .instant, state, now, after => state.clock ≤ now ∧ after = state.tick now
  | .limit source, state, admitted, after => ∃ now, state.clock ≤ now ∧
      admitted = (state.limiter.admitSource source now).1 ∧
      after = (state.tick now).limited (state.limiter.admitSource source now).2
  | .cachedIdentity source, state, cached, after =>
      cached = state.identities.lookup source ∧ after = state
  | .acquire, state, _, after => after = state
  | .release, state, (), after => after = state
  | .beginLookup _, state, started, after => state.clock ≤ started ∧ after = state.tick started
  | .endLookup source started, state, result, after => ∃ now, state.clock ≤ now ∧
      after = (state.tick now).looked { source, started, result }
  | .remember source cached, state, (), after => after = state.remembered source cached
  | .cachedAllowlist, state, cached, after => cached = state.allowlist ∧ after = state
  | .beginRead, state, started, after => state.clock ≤ started ∧ after = state.tick started
  | .endRead started, state, .ok entries, after => ∃ now moment, state.clock ≤ now ∧
      started ≤ moment ∧ moment ≤ now ∧ entries = store moment ∧
      after = (state.tick now).returned { started, entries }
  | .endRead _, state, .error _, after => ∃ now, state.clock ≤ now ∧ after = state.tick now
  | .storeAllowlist cached, state, (), after => after = state.stored cached

/-- Time passes. -/
def elapse (state after : AuthorizerState) : Prop :=
  ∃ now, state.clock ≤ now ∧ after = state.tick now

end Omdesky.Agent
