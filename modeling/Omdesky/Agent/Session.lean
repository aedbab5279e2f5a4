/-
**The session coordinator (`omdesky-agent/src/session.rs`).**

Every operation of `SessionCoordinator` is a program over the requests it makes of its
surroundings: the state's mutex, the clock, a fresh identifier, and the two effects on the desktop.
The mutex is held from the first request to the end, so a finished operation is atomic.

* `attach`, `detach`, `renew`, `expireDue`, `release`, `snapshot`, `reconcile`: the operations.
* `Desk`, `sessionWorld`: the surroundings. Clocks do not run backwards, identifiers are fresh, an
  effect succeeds or fails, and a failed install may leave the keybindings either way
  (`keybindsInstalled`).
* `Performs`: a call runs to its end in these surroundings.
-/

import Omdesky.Interaction.World
import Omdesky.Protocol

namespace Omdesky.Agent

open Interaction Interaction.Program

/-! ### The data -/

/-- `DEFAULT_LEASE`. -/
def defaultLease : Duration := .fromSecs 45

/-- `ActiveSession`. -/
structure ActiveSession where
  id : SessionId
  generation : Nat
  owner : String
  role : SessionRole
  controller : Option AgentEndpoint
  window : WindowSelector
  deriving DecidableEq, Repr

/-- The controller of a session in which this computer is the remote one. -/
def controllerOf (session : Option ActiveSession) : Option AgentEndpoint :=
  session.bind fun session =>
    match session.role with
    | .remote => session.controller
    | .controller => none

/-- The keybindings of a session, as `KeybindSessionEffects` installs them. -/
def ActiveSession.keybinds (session : ActiveSession) : SessionKeybindConfig :=
  { role := session.role, controller := session.controller, window := session.window }

/-- The claim that names this session. -/
def ActiveSession.claim (session : ActiveSession) : SessionClaim :=
  { id := session.id, generation := session.generation }

/-- `SessionOutcome`. -/
inductive SessionOutcome
  | applied
  | ignored
  deriving DecidableEq, Repr

/-- `SessionError`. -/
inductive SessionError
  | ownedByAnotherController
  | notOwner
  | notFound
  | effectsFailed
  deriving DecidableEq, Repr

/-- `SessionError::code`. -/
def SessionError.code : SessionError → ErrorCode
  | .ownedByAnotherController => .sessionAlreadyOwned
  | .notOwner => .sessionNotOwned
  | .notFound => .sessionNotFound
  | .effectsFailed => .sessionEffectsFailed

/-- `SessionError::message`. -/
def SessionError.message : SessionError → String
  | .ownedByAnotherController => "Another device already owns this desktop session."
  | .notOwner => "This device does not own the desktop session."
  | .notFound => "There is no desktop session to update."
  | .effectsFailed => "The desktop session could not be updated. Please try again."

/-- `CoordinatorState`. -/
structure CoordinatorState where
  active : Option ActiveSession
  expiresAt : Option Instant
  generation : Nat
  deriving DecidableEq, Repr

/-- The state of `SessionCoordinator::new`. -/
def CoordinatorState.new : CoordinatorState :=
  { active := none, expiresAt := none, generation := 0 }

/-- The state with its session record removed. -/
def CoordinatorState.cleared (state : CoordinatorState) : CoordinatorState :=
  { state with active := none, expiresAt := none }

/-- `u64::saturating_add`. -/
def saturatingAdd (first second : Nat) : Nat := min (first + second) (2 ^ 64 - 1)

/-- `lease_elapsed`: a missing deadline counts as elapsed. -/
def leaseElapsed (state : CoordinatorState) (now : Instant) : Bool :=
  match state.expiresAt with
  | none => true
  | some deadline => deadline ≤ now

/-- The session is another owner's and its deadline is in the future. -/
def heldByOther (state : CoordinatorState) (owner : String) (now : Instant) : Bool :=
  match state.active with
  | none => false
  | some active => active.owner != owner && state.expiresAt.any fun deadline => now < deadline

/-! ### The operations -/

/-- What an operation asks of its surroundings. -/
inductive SessionRequest
  | lock
  | instant
  | newId
  | store (state : CoordinatorState)
  | install (session : ActiveSession)
  | clear

/-- The answer to each request. -/
abbrev SessionAnswer : SessionRequest → Type
  | .lock => CoordinatorState
  | .instant => Instant
  | .newId => SessionId
  | .store _ => Unit
  | .install _ => PortResult Unit
  | .clear => PortResult Unit

/-- A program of the coordinator. -/
abbrev SessionM := Program SessionRequest SessionAnswer

/-- `self.state.lock()`. -/
abbrev lock : SessionM CoordinatorState := perform SessionRequest.lock

/-- `Instant::now()`. -/
abbrev instant : SessionM Instant := perform SessionRequest.instant

/-- `SessionId::new()`. -/
abbrev newSessionId : SessionM SessionId := perform SessionRequest.newId

/-- A write through the mutex guard. -/
abbrev store (state : CoordinatorState) : SessionM Unit := perform (SessionRequest.store state)

/-- `self.effects.install()`. -/
abbrev install (session : ActiveSession) : SessionM (PortResult Unit) :=
  perform (SessionRequest.install session)

/-- `self.effects.clear()`. -/
abbrev clear : SessionM (PortResult Unit) := perform SessionRequest.clear

/-- `SessionCoordinator::snapshot`. -/
def snapshot : SessionM (Option ActiveSession) := do
  let state ← lock
  let now ← instant
  if leaseElapsed state now then
    return none
  return state.active

/-- `SessionCoordinator::reconcile`. -/
def reconcile : SessionM (PortResult Unit) := do
  let state ← lock
  store state.cleared
  clear

/-- `SessionCoordinator::attach`. The generation is written before the first effect; the record is
published after the last one. -/
def attach (lease : Duration) (owner : String) (role : SessionRole)
    (controller : Option AgentEndpoint) (window : WindowSelector) :
    SessionM (Except SessionError SessionGrant) := do
  let state ← lock
  let now ← instant
  if heldByOther state owner now then
    return .error .ownedByAnotherController
  let state := { state with generation := saturatingAdd state.generation 1 }
  store state
  let id ← newSessionId
  let candidate : ActiveSession :=
    { id, generation := state.generation, owner, role, controller, window }
  let _ ← clear
  match ← install candidate with
  | .error _ =>
      let _ ← clear
      store state.cleared
      return .error .effectsFailed
  | .ok () =>
      store { state with expiresAt := some (now + lease), active := some candidate }
      return .ok { id, generation := candidate.generation, leaseSeconds := lease.asSecs }

/-- `SessionCoordinator::detach`. -/
def detach (owner : String) (claim : SessionClaim) :
    SessionM (Except SessionError SessionOutcome) := do
  let state ← lock
  match state.active with
  | none => return .ok .ignored
  | some active =>
      if active.owner != owner then
        return .error .notOwner
      if active.id != claim.id || active.generation != claim.generation then
        return .ok .ignored
      match ← clear with
      | .error _ => return .error .effectsFailed
      | .ok () =>
          store state.cleared
          return .ok .applied

/-- `SessionCoordinator::renew`. -/
def renew (lease : Duration) (owner : String) (claim : SessionClaim) :
    SessionM (Except SessionError SessionGrant) := do
  let state ← lock
  match state.active with
  | none => return .error .notFound
  | some active =>
      if active.owner != owner then
        return .error .notOwner
      if active.id != claim.id || active.generation != claim.generation then
        return .error .notFound
      let now ← instant
      if leaseElapsed state now then
        return .error .notFound
      store { state with expiresAt := some (now + lease) }
      return .ok { id := active.id, generation := active.generation, leaseSeconds := lease.asSecs }

/-- `SessionCoordinator::expire_due`. -/
def expireDue : SessionM SessionOutcome := do
  let state ← lock
  if state.active.isNone then
    return .ignored
  let now ← instant
  if !leaseElapsed state now then
    return .ignored
  match ← clear with
  | .error _ => return .ignored
  | .ok () =>
      store state.cleared
      return .applied

/-- `SessionCoordinator::release`. -/
def release : SessionM Unit := do
  let state ← lock
  if state.active.isNone then
    return
  let _ ← clear
  store state.cleared

/-- A call of one operation. -/
inductive Call
  | snapshot
  | reconcile
  | attach (owner : String) (role : SessionRole) (controller : Option AgentEndpoint)
      (window : WindowSelector)
  | detach (owner : String) (claim : SessionClaim)
  | renew (owner : String) (claim : SessionClaim)
  | expireDue
  | release
  deriving DecidableEq, Repr

/-- What a call returns. -/
inductive Reply
  | snapshot (session : Option ActiveSession)
  | reconciled (result : PortResult Unit)
  | attached (result : Except SessionError SessionGrant)
  | detached (result : Except SessionError SessionOutcome)
  | renewed (result : Except SessionError SessionGrant)
  | expired (outcome : SessionOutcome)
  | released

/-- The program of a call. -/
def Call.program (lease : Duration) : Call → SessionM Reply
  | .snapshot => do return .snapshot (← Agent.snapshot)
  | .reconcile => do return .reconciled (← Agent.reconcile)
  | .attach owner role controller window => do
      return .attached (← Agent.attach lease owner role controller window)
  | .detach owner claim => do return .detached (← Agent.detach owner claim)
  | .renew owner claim => do return .renewed (← Agent.renew lease owner claim)
  | .expireDue => do return .expired (← Agent.expireDue)
  | .release => do
      Agent.release
      return .released

/-! ### The surroundings -/

/-- What happened on the desktop: each effect with its outcome. A failed install has left the
keybindings installed or not. -/
inductive Effect
  | installed (session : ActiveSession)
  | installFailed (left : Bool)
  | cleared
  | clearFailed
  deriving DecidableEq, Repr

/-- Any outcome of any effect. -/
abbrev anyEffect : Effect → Prop := fun _ => True

/-- The effects that succeed. -/
def Effect.Succeeds : Effect → Prop
  | .installed _ | .cleared => True
  | _ => False

/-- Whether session keybindings are installed after these effects, newest first. -/
def keybindsInstalled : List Effect → Bool
  | [] => false
  | .installed _ :: _ => true
  | .installFailed left :: _ => left
  | .cleared :: _ => false
  | .clearFailed :: earlier => keybindsInstalled earlier

/-- The coordinator's state and everything around it: the clock, the identifiers drawn so far and
the effects on the desktop, newest first. -/
structure Desk where
  state : CoordinatorState
  clock : Instant
  minted : List SessionId
  effects : List Effect

namespace Desk

/-- The surroundings an agent starts in. -/
def new (clock : Instant) : Desk := { state := .new, clock, minted := [], effects := [] }

/-- The desk of an agent that has just cleared leftover keybindings at startup. -/
def started : Desk := { new 0 with effects := [.cleared] }

/-- The coordinator's state replaced. -/
def hold (desk : Desk) (state : CoordinatorState) : Desk := { desk with state }

/-- The clock read at `now`. -/
def tick (desk : Desk) (now : Instant) : Desk := { desk with clock := now }

/-- One more identifier drawn. -/
def mint (desk : Desk) (id : SessionId) : Desk := { desk with minted := id :: desk.minted }

/-- One more effect. -/
def record (desk : Desk) (effect : Effect) : Desk := { desk with effects := effect :: desk.effects }

section Fields

variable (desk : Desk) (state : CoordinatorState) (now : Instant) (id : SessionId) (effect : Effect)

@[simp] theorem hold_state : (desk.hold state).state = state := rfl
@[simp] theorem hold_clock : (desk.hold state).clock = desk.clock := rfl
@[simp] theorem hold_minted : (desk.hold state).minted = desk.minted := rfl
@[simp] theorem hold_effects : (desk.hold state).effects = desk.effects := rfl
@[simp] theorem tick_state : (desk.tick now).state = desk.state := rfl
@[simp] theorem tick_clock : (desk.tick now).clock = now := rfl
@[simp] theorem tick_minted : (desk.tick now).minted = desk.minted := rfl
@[simp] theorem tick_effects : (desk.tick now).effects = desk.effects := rfl
@[simp] theorem mint_state : (desk.mint id).state = desk.state := rfl
@[simp] theorem mint_clock : (desk.mint id).clock = desk.clock := rfl
@[simp] theorem mint_minted : (desk.mint id).minted = id :: desk.minted := rfl
@[simp] theorem mint_effects : (desk.mint id).effects = desk.effects := rfl
@[simp] theorem record_state : (desk.record effect).state = desk.state := rfl
@[simp] theorem record_clock : (desk.record effect).clock = desk.clock := rfl
@[simp] theorem record_minted : (desk.record effect).minted = desk.minted := rfl
@[simp] theorem record_effects : (desk.record effect).effects = effect :: desk.effects := rfl

end Fields

/-- Whether session keybindings are installed on the desktop. -/
def bound (desk : Desk) : Bool := keybindsInstalled desk.effects

end Desk

/-- The record and its deadline are as they were. -/
def SameRecord (desk after : Desk) : Prop :=
  after.state.active = desk.state.active ∧ after.state.expiresAt = desk.state.expiresAt

/-- The effect of clearing, by its outcome. -/
def clearEffect : PortResult Unit → Effect
  | .ok () => .cleared
  | .error _ => .clearFailed

/-- The surroundings of the coordinator, with only the `possible` effects. -/
def sessionWorld (possible : Effect → Prop) : World SessionRequest SessionAnswer Desk
  | .lock, desk, state, after => state = desk.state ∧ after = desk
  | .instant, desk, now, after => desk.clock ≤ now ∧ after = desk.tick now
  | .newId, desk, id, after => id ∉ desk.minted ∧ after = desk.mint id
  | .store state, desk, (), after => after = desk.hold state
  | .install session, desk, .ok (), after =>
      possible (.installed session) ∧ after = desk.record (.installed session)
  | .install _, desk, .error _, after =>
      ∃ left, possible (.installFailed left) ∧ after = desk.record (.installFailed left)
  | .clear, desk, result, after =>
      possible (clearEffect result) ∧ after = desk.record (clearEffect result)

/-- A call runs to its end and returns. -/
def Performs (lease : Duration) (possible : Effect → Prop) (desk : Desk) (call : Call)
    (reply : Reply) (after : Desk) : Prop :=
  Ends (sessionWorld possible) (call.program lease) desk reply after

end Omdesky.Agent
