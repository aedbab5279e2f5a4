/-
**What a finished call of the coordinator can do.**

* `Outcome`: one constructor for each way through the operations, with everything it checks, its
  reply and the desk it leaves.
* `performs_iff`: these are exactly the complete runs of the programs.

Every later result about finished calls splits on `Outcome` and never unfolds a program.
-/

import Omdesky.Agent.Session

namespace Omdesky.Agent

open Interaction Interaction.Program

/-! ### Running the programs step by step -/

section Requests

variable {possible : Effect → Prop} {desk after : Desk} {α : Type} {value : α}

@[simp] theorem ends_lock {next : CoordinatorState → SessionM α} :
    Ends (sessionWorld possible) (ask .lock next) desk value after ↔
      Ends (sessionWorld possible) (next desk.state) desk value after := by
  simp [ends_ask, sessionWorld]

@[simp] theorem ends_instant {next : Instant → SessionM α} :
    Ends (sessionWorld possible) (ask .instant next) desk value after ↔
      ∃ now, desk.clock ≤ now ∧
        Ends (sessionWorld possible) (next now) (desk.tick now) value after := by
  simp [ends_ask, sessionWorld]

@[simp] theorem ends_newId {next : SessionId → SessionM α} :
    Ends (sessionWorld possible) (ask .newId next) desk value after ↔
      ∃ id, id ∉ desk.minted ∧
        Ends (sessionWorld possible) (next id) (desk.mint id) value after := by
  simp [ends_ask, sessionWorld]

@[simp] theorem ends_store {state : CoordinatorState} {next : Unit → SessionM α} :
    Ends (sessionWorld possible) (ask (.store state) next) desk value after ↔
      Ends (sessionWorld possible) (next ()) (desk.hold state) value after := by
  rw [ends_ask]
  constructor
  · rintro ⟨_, _, rfl, run⟩
    exact run
  · intro run
    exact ⟨(), _, rfl, run⟩

@[simp] theorem ends_install {session : ActiveSession} {next : PortResult Unit → SessionM α} :
    Ends (sessionWorld possible) (ask (.install session) next) desk value after ↔
      (possible (.installed session) ∧
        Ends (sessionWorld possible) (next (.ok ())) (desk.record (.installed session))
          value after) ∨
      ∃ error left, possible (.installFailed left) ∧
        Ends (sessionWorld possible) (next (.error error)) (desk.record (.installFailed left))
          value after := by
  rw [ends_ask]
  constructor
  · rintro ⟨error | _, _, answered, run⟩
    · obtain ⟨left, can, rfl⟩ := answered
      exact .inr ⟨error, left, can, run⟩
    · obtain ⟨can, rfl⟩ := answered
      exact .inl ⟨can, run⟩
  · rintro (⟨can, run⟩ | ⟨error, left, can, run⟩)
    · exact ⟨.ok (), _, ⟨can, rfl⟩, run⟩
    · exact ⟨.error error, _, ⟨left, can, rfl⟩, run⟩

@[simp] theorem ends_clear {next : PortResult Unit → SessionM α} :
    Ends (sessionWorld possible) (ask .clear next) desk value after ↔
      ∃ result, possible (clearEffect result) ∧
        Ends (sessionWorld possible) (next result) (desk.record (clearEffect result))
          value after := by
  simp [ends_ask, sessionWorld]

end Requests

/-! ### The ways through the code -/

/-- The record `attach` installs. -/
def candidate (state : CoordinatorState) (id : SessionId) (owner : String) (role : SessionRole)
    (controller : Option AgentEndpoint) (window : WindowSelector) : ActiveSession :=
  { id, generation := saturatingAdd state.generation 1, owner, role, controller, window }

/-- The state after `attach` has counted one more generation. -/
def CoordinatorState.advanced (state : CoordinatorState) : CoordinatorState :=
  { state with generation := saturatingAdd state.generation 1 }

/-- The ways through the coordinator's operations, each with its reply and the desk it leaves. -/
inductive Outcome (lease : Duration) (possible : Effect → Prop) :
    Desk → Call → Reply → Desk → Prop
  | snapshotted {desk now} (later : desk.clock ≤ now) :
      Outcome lease possible desk .snapshot
        (.snapshot (if leaseElapsed desk.state now then none else desk.state.active))
        (desk.tick now)
  | reconciled {desk result} (can : possible (clearEffect result)) :
      Outcome lease possible desk .reconcile (.reconciled result)
        ((desk.hold desk.state.cleared).record (clearEffect result))
  | refused {desk owner role controller window now} (later : desk.clock ≤ now)
      (held : heldByOther desk.state owner now = true) :
      Outcome lease possible desk (.attach owner role controller window)
        (.attached (.error .ownedByAnotherController)) (desk.tick now)
  | granted {desk owner role controller window now id cleanup} (later : desk.clock ≤ now)
      (free : heldByOther desk.state owner now = false) (fresh : id ∉ desk.minted)
      (canClear : possible (clearEffect cleanup))
      (can : possible (.installed (candidate desk.state id owner role controller window))) :
      Outcome lease possible desk (.attach owner role controller window)
        (.attached (.ok
          { id, generation := desk.state.advanced.generation, leaseSeconds := lease.asSecs }))
        (((((desk.tick now).mint id).record (clearEffect cleanup)).record
            (.installed (candidate desk.state id owner role controller window))).hold
          { generation := desk.state.advanced.generation, expiresAt := some (now + lease),
            active := some (candidate desk.state id owner role controller window) })
  | rolledBack {desk owner role controller window now id cleanup left rollback}
      (later : desk.clock ≤ now) (free : heldByOther desk.state owner now = false)
      (fresh : id ∉ desk.minted) (canClear : possible (clearEffect cleanup))
      (can : possible (.installFailed left)) (canRollBack : possible (clearEffect rollback)) :
      Outcome lease possible desk (.attach owner role controller window)
        (.attached (.error .effectsFailed))
        ((((((desk.tick now).mint id).record (clearEffect cleanup)).record
          (.installFailed left)).record (clearEffect rollback)).hold desk.state.advanced.cleared)
  | detachIdle {desk owner claim} (idle : desk.state.active = none) :
      Outcome lease possible desk (.detach owner claim) (.detached (.ok .ignored)) desk
  | detachForeign {desk owner claim session} (active : desk.state.active = some session)
      (foreign : session.owner ≠ owner) :
      Outcome lease possible desk (.detach owner claim) (.detached (.error .notOwner)) desk
  | detachStale {desk owner claim session} (active : desk.state.active = some session)
      (own : session.owner = owner) (stale : session.claim ≠ claim) :
      Outcome lease possible desk (.detach owner claim) (.detached (.ok .ignored)) desk
  | detachFailed {desk owner claim session} (active : desk.state.active = some session)
      (own : session.owner = owner) (current : session.claim = claim)
      (can : possible .clearFailed) :
      Outcome lease possible desk (.detach owner claim) (.detached (.error .effectsFailed))
        (desk.record .clearFailed)
  | detached {desk owner claim session} (active : desk.state.active = some session)
      (own : session.owner = owner) (current : session.claim = claim) (can : possible .cleared) :
      Outcome lease possible desk (.detach owner claim) (.detached (.ok .applied))
        ((desk.record .cleared).hold desk.state.cleared)
  | renewIdle {desk owner claim} (idle : desk.state.active = none) :
      Outcome lease possible desk (.renew owner claim) (.renewed (.error .notFound)) desk
  | renewForeign {desk owner claim session} (active : desk.state.active = some session)
      (foreign : session.owner ≠ owner) :
      Outcome lease possible desk (.renew owner claim) (.renewed (.error .notOwner)) desk
  | renewStale {desk owner claim session} (active : desk.state.active = some session)
      (own : session.owner = owner) (stale : session.claim ≠ claim) :
      Outcome lease possible desk (.renew owner claim) (.renewed (.error .notFound)) desk
  | renewLate {desk owner claim session now} (active : desk.state.active = some session)
      (own : session.owner = owner) (current : session.claim = claim) (later : desk.clock ≤ now)
      (elapsed : leaseElapsed desk.state now = true) :
      Outcome lease possible desk (.renew owner claim) (.renewed (.error .notFound))
        (desk.tick now)
  | renewed {desk owner claim session now} (active : desk.state.active = some session)
      (own : session.owner = owner) (current : session.claim = claim) (later : desk.clock ≤ now)
      (live : leaseElapsed desk.state now = false) :
      Outcome lease possible desk (.renew owner claim)
        (.renewed (.ok
          { id := session.id, generation := session.generation, leaseSeconds := lease.asSecs }))
        ((desk.tick now).hold { desk.state with expiresAt := some (now + lease) })
  | expireIdle {desk} (idle : desk.state.active = none) :
      Outcome lease possible desk .expireDue (.expired .ignored) desk
  | expireEarly {desk session now} (active : desk.state.active = some session)
      (later : desk.clock ≤ now) (live : leaseElapsed desk.state now = false) :
      Outcome lease possible desk .expireDue (.expired .ignored) (desk.tick now)
  | expireFailed {desk session now} (active : desk.state.active = some session)
      (later : desk.clock ≤ now) (elapsed : leaseElapsed desk.state now = true)
      (can : possible .clearFailed) :
      Outcome lease possible desk .expireDue (.expired .ignored)
        ((desk.tick now).record .clearFailed)
  | expired {desk session now} (active : desk.state.active = some session)
      (later : desk.clock ≤ now) (elapsed : leaseElapsed desk.state now = true)
      (can : possible .cleared) :
      Outcome lease possible desk .expireDue (.expired .applied)
        (((desk.tick now).record .cleared).hold desk.state.cleared)
  | releaseIdle {desk} (idle : desk.state.active = none) :
      Outcome lease possible desk .release .released desk
  | released {desk session result} (active : desk.state.active = some session)
      (can : possible (clearEffect result)) :
      Outcome lease possible desk .release .released
        ((desk.record (clearEffect result)).hold desk.state.cleared)

/-- The check of `detach` and `renew` on a claim. -/
theorem claim_ne_iff {session : ActiveSession} {claim : SessionClaim} :
    (session.id != claim.id || session.generation != claim.generation) = true ↔
      session.claim ≠ claim := by
  cases claim
  simp only [ActiveSession.claim, bne_iff_ne, Bool.or_eq_true, ne_eq, SessionClaim.mk.injEq]
  tauto

section Operations

variable {lease : Duration} {possible : Effect → Prop} {desk after : Desk} {reply : Reply}

theorem performs_snapshot (run : Performs lease possible desk .snapshot reply after) :
    Outcome lease possible desk .snapshot reply after := by
  simp only [Performs, Call.program, snapshot, perform_bind, ask_bind, ends_lock, ends_instant]
    at run
  obtain ⟨now, later, run⟩ := run
  have outcome : Outcome lease possible desk _ _ _ := .snapshotted later
  split at run <;> rename_i elapsed <;> simp only [pure_eq, done_bind, ends_done] at run <;>
    obtain ⟨rfl, rfl⟩ := run
  · rwa [if_pos elapsed] at outcome
  · rwa [if_neg elapsed] at outcome

theorem performs_reconcile (run : Performs lease possible desk .reconcile reply after) :
    Outcome lease possible desk .reconcile reply after := by
  simp only [Performs, Call.program, reconcile, perform_bind, ask_bind, ends_lock, ends_store,
    ends_clear, pure_eq, ends_done] at run
  obtain ⟨result, can, rfl, rfl⟩ := run
  exact .reconciled can

theorem performs_attach {owner : String} {role : SessionRole} {controller : Option AgentEndpoint}
    {window : WindowSelector}
    (run : Performs lease possible desk (.attach owner role controller window) reply after) :
    Outcome lease possible desk (.attach owner role controller window) reply after := by
  simp only [Performs, Call.program, attach, perform_bind, ask_bind, ends_lock, ends_instant]
    at run
  obtain ⟨now, later, run⟩ := run
  split at run <;> rename_i held
  · simp only [pure_eq, done_bind, ends_done] at run
    obtain ⟨rfl, rfl⟩ := run
    exact .refused later held
  · simp only [ask_bind, ends_store, ends_newId, ends_clear, ends_install, pure_eq, done_bind,
      ends_done] at run
    obtain ⟨id, fresh, cleanup, canClear, installed | failed⟩ := run
    · obtain ⟨can, rfl, rfl⟩ := installed
      exact .granted later (Bool.eq_false_iff.mpr held) fresh canClear can
    · obtain ⟨_, left, can, rollback, canRollBack, rfl, rfl⟩ := failed
      exact .rolledBack later (Bool.eq_false_iff.mpr held) fresh canClear can canRollBack

theorem performs_detach {owner : String} {claim : SessionClaim}
    (run : Performs lease possible desk (.detach owner claim) reply after) :
    Outcome lease possible desk (.detach owner claim) reply after := by
  simp only [Performs, Call.program, detach, perform_bind, ask_bind, ends_lock] at run
  split at run <;> rename_i active
  · obtain ⟨rfl, rfl⟩ := ends_done.mp run
    exact .detachIdle active
  · split at run <;> rename_i own <;> rw [bne_iff_ne] at own
    · obtain ⟨rfl, rfl⟩ := ends_done.mp run
      exact .detachForeign active own
    · split at run <;> rename_i stale <;> rw [claim_ne_iff] at stale
      · obtain ⟨rfl, rfl⟩ := ends_done.mp run
        exact .detachStale active (not_not.mp own) stale
      · simp only [ask_bind, ends_clear] at run
        obtain ⟨_ | _, can, run⟩ := run <;>
          simp only [ask_bind, ends_store, pure_eq, done_bind, ends_done] at run <;>
          obtain ⟨rfl, rfl⟩ := run
        · exact .detachFailed active (not_not.mp own) (not_not.mp stale) can
        · exact .detached active (not_not.mp own) (not_not.mp stale) can

theorem performs_renew {owner : String} {claim : SessionClaim}
    (run : Performs lease possible desk (.renew owner claim) reply after) :
    Outcome lease possible desk (.renew owner claim) reply after := by
  simp only [Performs, Call.program, renew, perform_bind, ask_bind, ends_lock] at run
  split at run <;> rename_i active
  · obtain ⟨rfl, rfl⟩ := ends_done.mp run
    exact .renewIdle active
  · split at run <;> rename_i own <;> rw [bne_iff_ne] at own
    · obtain ⟨rfl, rfl⟩ := ends_done.mp run
      exact .renewForeign active own
    · split at run <;> rename_i stale <;> rw [claim_ne_iff] at stale
      · obtain ⟨rfl, rfl⟩ := ends_done.mp run
        exact .renewStale active (not_not.mp own) stale
      · simp only [ask_bind, ends_instant] at run
        obtain ⟨now, later, run⟩ := run
        split at run <;> rename_i elapsed <;>
          simp only [ask_bind, ends_store, pure_eq, done_bind, ends_done] at run <;>
          obtain ⟨rfl, rfl⟩ := run
        · exact .renewLate active (not_not.mp own) (not_not.mp stale) later elapsed
        · exact .renewed active (not_not.mp own) (not_not.mp stale) later
            (Bool.eq_false_iff.mpr elapsed)

theorem performs_expireDue (run : Performs lease possible desk .expireDue reply after) :
    Outcome lease possible desk .expireDue reply after := by
  simp only [Performs, Call.program, expireDue, perform_bind, ask_bind, ends_lock] at run
  cases active : desk.state.active with
  | none =>
      simp only [active, Option.isNone_none, if_true, pure_eq, done_bind, ends_done] at run
      obtain ⟨rfl, rfl⟩ := run
      exact .expireIdle active
  | some session =>
      simp only [active, Option.isNone_some, if_false, Bool.false_eq_true, ask_bind, ends_instant]
        at run
      obtain ⟨now, later, run⟩ := run
      cases elapsed : leaseElapsed desk.state now
      · simp only [elapsed, Bool.not_false, if_true, pure_eq, done_bind, ends_done] at run
        obtain ⟨rfl, rfl⟩ := run
        exact .expireEarly active later elapsed
      · simp only [elapsed, Bool.not_true, if_false, Bool.false_eq_true, ask_bind, ends_clear]
          at run
        obtain ⟨_ | _, can, run⟩ := run <;>
          simp only [ask_bind, ends_store, pure_eq, done_bind, ends_done] at run <;>
          obtain ⟨rfl, rfl⟩ := run
        · exact .expireFailed active later elapsed can
        · exact .expired active later elapsed can

theorem performs_release (run : Performs lease possible desk .release reply after) :
    Outcome lease possible desk .release reply after := by
  simp only [Performs, Call.program, release, perform_bind, ask_bind, ends_lock] at run
  cases active : desk.state.active with
  | none =>
      simp only [active, Option.isNone_none, if_true, pure_eq, done_bind, ends_done] at run
      obtain ⟨rfl, rfl⟩ := run
      exact .releaseIdle active
  | some session =>
      simp only [active, Option.isNone_some, if_false, Bool.false_eq_true, ask_bind, perform_bind,
        ends_clear, ends_store, pure_eq, ends_done] at run
      obtain ⟨result, can, rfl, rfl⟩ := run
      exact .released active can

/-- Every way through the code is a run. -/
theorem Outcome.performs {call : Call} (outcome : Outcome lease possible desk call reply after) :
    Performs lease possible desk call reply after := by
  cases outcome with
  | @snapshotted now later =>
      simp only [Performs, Call.program, snapshot, perform_bind, ask_bind, ends_lock, ends_instant]
      refine ⟨now, later, ?_⟩
      split <;> simp
  | reconciled can => simp [Performs, Call.program, reconcile, can]
  | @refused _ _ _ _ now later held =>
      simp only [Performs, Call.program, attach, perform_bind, ask_bind, ends_lock, ends_instant]
      exact ⟨now, later, by simp [held]⟩
  | @granted _ _ _ _ now id cleanup later free fresh canClear can =>
      simp only [Performs, Call.program, attach, perform_bind, ask_bind, ends_lock, ends_instant]
      refine ⟨now, later, ?_⟩
      simp only [free, if_false, Bool.false_eq_true, ask_bind, ends_store, ends_newId, ends_clear,
        ends_install]
      exact ⟨id, fresh, cleanup, canClear, .inl ⟨can, ends_done.mpr ⟨rfl, rfl⟩⟩⟩
  | @rolledBack _ _ _ _ now id cleanup left rollback later free fresh canClear can canRollBack =>
      simp only [Performs, Call.program, attach, perform_bind, ask_bind, ends_lock, ends_instant]
      refine ⟨now, later, ?_⟩
      simp only [free, if_false, Bool.false_eq_true, ask_bind, ends_store, ends_newId, ends_clear,
        ends_install]
      exact ⟨id, fresh, cleanup, canClear, .inr ⟨default, left, can, rollback, canRollBack,
        ends_done.mpr ⟨rfl, rfl⟩⟩⟩
  | detachIdle idle => simp [Performs, Call.program, detach, idle]
  | detachForeign active foreign => simp [Performs, Call.program, detach, active, foreign]
  | detachStale active own stale =>
      simp only [Performs, Call.program, detach, perform_bind, ask_bind, ends_lock, active,
        bne_iff_ne, claim_ne_iff, own]
      simp [stale]
  | detachFailed active own current can =>
      simp only [Performs, Call.program, detach, perform_bind, ask_bind, ends_lock, active,
        bne_iff_ne, claim_ne_iff, own, current, ne_eq, not_true_eq_false, if_false, ends_clear]
      exact ⟨.error default, can, by simp [clearEffect]⟩
  | detached active own current can =>
      simp only [Performs, Call.program, detach, perform_bind, ask_bind, ends_lock, active,
        bne_iff_ne, claim_ne_iff, own, current, ne_eq, not_true_eq_false, if_false, ends_clear]
      exact ⟨.ok (), can, by simp [clearEffect]⟩
  | renewIdle idle => simp [Performs, Call.program, renew, idle]
  | renewForeign active foreign => simp [Performs, Call.program, renew, active, foreign]
  | renewStale active own stale =>
      simp only [Performs, Call.program, renew, perform_bind, ask_bind, ends_lock, active,
        bne_iff_ne, claim_ne_iff, own]
      simp [stale]
  | @renewLate _ _ _ now active own current later elapsed =>
      simp only [Performs, Call.program, renew, perform_bind, ask_bind, ends_lock, active,
        bne_iff_ne, claim_ne_iff, own, current, ne_eq, not_true_eq_false, if_false, ends_instant]
      exact ⟨now, later, by simp [elapsed]⟩
  | @renewed _ _ _ now active own current later live =>
      simp only [Performs, Call.program, renew, perform_bind, ask_bind, ends_lock, active,
        bne_iff_ne, claim_ne_iff, own, current, ne_eq, not_true_eq_false, if_false, ends_instant]
      exact ⟨now, later, by simp [live, active]⟩
  | expireIdle idle => simp [Performs, Call.program, expireDue, idle]
  | @expireEarly _ now active later live =>
      simp only [Performs, Call.program, expireDue, perform_bind, ask_bind, ends_lock, active,
        Option.isNone_some, Bool.false_eq_true, if_false, ends_instant]
      exact ⟨now, later, by simp [live]⟩
  | @expireFailed _ now active later elapsed can =>
      simp only [Performs, Call.program, expireDue, perform_bind, ask_bind, ends_lock, active,
        Option.isNone_some, Bool.false_eq_true, if_false, ends_instant]
      refine ⟨now, later, ?_⟩
      simp only [elapsed, Bool.not_true, if_false, Bool.false_eq_true, ask_bind, ends_clear]
      exact ⟨.error default, can, by simp [clearEffect]⟩
  | @expired _ now active later elapsed can =>
      simp only [Performs, Call.program, expireDue, perform_bind, ask_bind, ends_lock, active,
        Option.isNone_some, Bool.false_eq_true, if_false, ends_instant]
      refine ⟨now, later, ?_⟩
      simp only [elapsed, Bool.not_true, if_false, Bool.false_eq_true, ask_bind, ends_clear]
      exact ⟨.ok (), can, by simp [clearEffect]⟩
  | releaseIdle idle => simp [Performs, Call.program, release, idle]
  | @released _ result active can =>
      simp only [Performs, Call.program, release, perform_bind, ask_bind, ends_lock, active,
        Option.isNone_some, Bool.false_eq_true, if_false, ends_clear]
      exact ⟨result, can, by simp⟩

/-- **The outcomes are exactly the complete runs.** -/
theorem performs_iff {call : Call} :
    Performs lease possible desk call reply after ↔
      Outcome lease possible desk call reply after := by
  refine ⟨fun run => ?_, Outcome.performs⟩
  cases call with
  | snapshot => exact performs_snapshot run
  | reconcile => exact performs_reconcile run
  | attach => exact performs_attach run
  | detach => exact performs_detach run
  | renew => exact performs_renew run
  | expireDue => exact performs_expireDue run
  | release => exact performs_release run

end Operations

end Omdesky.Agent
