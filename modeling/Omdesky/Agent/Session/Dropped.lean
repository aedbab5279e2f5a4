/-
**Keybindings left behind by abandoned calls.**

A client that goes away drops the handler of its request at one of its await points. Here every
effect succeeds, and an effect interrupted by such a drop happened or did not.

* `drops_cases`: an abandoned call never touches the record; on the desktop it has done nothing,
  cleared, or cleared and installed.
* `covered_iff_handled`: along every run of finished and abandoned calls, the keybindings stay
  covered exactly when no attach is dropped while the coordinator holds no record and its install
  has been carried out; `abandoned_attach_strands` is a run where one is.
-/

import Omdesky.Agent.Session.Cleanup

namespace Omdesky.Agent

open Interaction Interaction.Program

/-! ### Abandoned calls -/

/-- The requests at which an operation awaits. -/
def SessionRequest.Awaits : SessionRequest → Prop
  | .lock | .install _ | .clear => True
  | _ => False

/-- A call is dropped at the await point `cut`. -/
def Abandoned (lease : Duration) (desk : Desk) (call : Call) (cut : SessionRequest)
    (carried : Bool) (after : Desk) : Prop :=
  Drops (sessionWorld Effect.Succeeds) SessionRequest.Awaits (call.program lease) desk cut carried
    after

/-- A serving call runs to its end or is dropped, and the effects that finish succeed. -/
def Handles (lease : Duration) (before after : Desk) : Prop :=
  Serves lease Effect.Succeeds before after ∨
    ∃ call cut carried, call.Serving ∧ Abandoned lease before call cut carried after

/-- A call is dropped while it waits for an install that was carried out, and the coordinator held
no record. -/
def Strands (lease : Duration) (before after : Desk) : Prop :=
  ¬ before.Recorded ∧ ∃ call session, call.Serving ∧
    Abandoned lease before call (.install session) true after

/-! ### Dropping the programs step by step -/

section Requests

variable {desk after : Desk} {cut : SessionRequest} {carried : Bool} {α : Type}

/-- Dropped in the successful surroundings. -/
abbrev DropsHere (program : SessionM α) (desk : Desk) (cut : SessionRequest) (carried : Bool)
    (after : Desk) : Prop :=
  Drops (sessionWorld Effect.Succeeds) SessionRequest.Awaits program desk cut carried after

/-- A finished clear has cleared. -/
theorem world_clear {answer : PortResult Unit} :
    sessionWorld Effect.Succeeds .clear desk answer after ↔
      answer = .ok () ∧ after = desk.record .cleared := by
  rcases answer with error | _ <;> simp [sessionWorld, clearEffect, Effect.Succeeds]

/-- A finished install has installed. -/
theorem world_install {session : ActiveSession} {answer : PortResult Unit} :
    sessionWorld Effect.Succeeds (.install session) desk answer after ↔
      answer = .ok () ∧ after = desk.record (.installed session) := by
  rcases answer with error | _ <;> simp [sessionWorld, Effect.Succeeds]

theorem drops_lock {next : CoordinatorState → SessionM α} :
    DropsHere (ask .lock next) desk cut carried after ↔
      (cut = .lock ∧ after = desk) ∨ DropsHere (next desk.state) desk cut carried after := by
  cases carried <;> simp [drops_ask, sessionWorld, SessionRequest.Awaits]

theorem drops_instant {next : Instant → SessionM α} :
    DropsHere (ask .instant next) desk cut carried after ↔
      ∃ now, desk.clock ≤ now ∧ DropsHere (next now) (desk.tick now) cut carried after := by
  simp [drops_ask, sessionWorld, SessionRequest.Awaits]

theorem drops_newId {next : SessionId → SessionM α} :
    DropsHere (ask .newId next) desk cut carried after ↔
      ∃ id, id ∉ desk.minted ∧ DropsHere (next id) (desk.mint id) cut carried after := by
  simp [drops_ask, sessionWorld, SessionRequest.Awaits]

theorem drops_store {state : CoordinatorState} {next : Unit → SessionM α} :
    DropsHere (ask (.store state) next) desk cut carried after ↔
      DropsHere (next ()) (desk.hold state) cut carried after := by
  rw [DropsHere, drops_ask]
  constructor
  · rintro (⟨⟨⟩, _⟩ | ⟨_, _, rfl, dropped⟩)
    exact dropped
  · exact fun dropped => .inr ⟨(), _, rfl, dropped⟩

theorem drops_clear {next : PortResult Unit → SessionM α} :
    DropsHere (ask .clear next) desk cut carried after ↔
      (cut = .clear ∧ after = if carried then desk.record .cleared else desk) ∨
        DropsHere (next (.ok ())) (desk.record .cleared) cut carried after := by
  cases carried <;> simp [drops_ask, world_clear, SessionRequest.Awaits]

theorem drops_install {session : ActiveSession} {next : PortResult Unit → SessionM α} :
    DropsHere (ask (.install session) next) desk cut carried after ↔
      (cut = .install session ∧
        after = if carried then desk.record (.installed session) else desk) ∨
        DropsHere (next (.ok ())) (desk.record (.installed session)) cut carried after := by
  cases carried <;> simp [drops_ask, world_install, SessionRequest.Awaits]

end Requests

/-! ### What an abandoned call can do -/

/-- Where an abandoned call was dropped and what it has done on the desktop by then. -/
inductive LeftAt (desk : Desk) : SessionRequest → Bool → Desk → Prop
  | waiting {carried} : LeftAt desk .lock carried desk
  | clearing {after} (same : SameRecord desk after) (effects : after.effects = desk.effects) :
      LeftAt desk .clear false after
  | cleared {after} (same : SameRecord desk after)
      (effects : after.effects = .cleared :: desk.effects) : LeftAt desk .clear true after
  | installing {after session} (same : SameRecord desk after)
      (effects : after.effects = .cleared :: desk.effects) :
      LeftAt desk (.install session) false after
  | installed {after session} (same : SameRecord desk after)
      (effects : after.effects = .installed session :: .cleared :: desk.effects) :
      LeftAt desk (.install session) true after

variable {lease : Duration} {desk after : Desk} {cut : SessionRequest} {carried : Bool}

/-- **An abandoned call never touches the record**, and only an attach installs anything. -/
theorem abandoned_leftAt {call : Call} (serving : call.Serving)
    (abandoned : Abandoned lease desk call cut carried after) : LeftAt desk cut carried after := by
  cases call with
  | reconcile | release => exact serving.elim
  | snapshot =>
      simp only [Abandoned, Call.program, snapshot, perform_bind, ask_bind, drops_lock,
        drops_instant] at abandoned
      obtain ⟨rfl, rfl⟩ | ⟨now, _, abandoned⟩ := abandoned
      · exact .waiting
      · split at abandoned <;> exact (not_drops_done abandoned).elim
  | attach owner role controller window =>
      simp only [Abandoned, Call.program, attach, perform_bind, ask_bind, drops_lock,
        drops_instant] at abandoned
      obtain ⟨rfl, rfl⟩ | ⟨now, _, abandoned⟩ := abandoned
      · exact .waiting
      split at abandoned
      · exact (not_drops_done abandoned).elim
      simp only [ask_bind, drops_store, drops_newId, drops_clear, drops_install, pure_eq, done_bind,
        not_drops_done, or_false] at abandoned
      obtain ⟨id, _, ⟨rfl, rfl⟩ | ⟨rfl, rfl⟩⟩ := abandoned
      · cases carried
        · exact .clearing ⟨rfl, rfl⟩ rfl
        · exact .cleared ⟨rfl, rfl⟩ rfl
      · cases carried
        · exact .installing ⟨rfl, rfl⟩ rfl
        · exact .installed ⟨rfl, rfl⟩ rfl
  | detach owner claim =>
      simp only [Abandoned, Call.program, detach, perform_bind, ask_bind, drops_lock] at abandoned
      obtain ⟨rfl, rfl⟩ | abandoned := abandoned
      · exact .waiting
      split at abandoned
      · exact (not_drops_done abandoned).elim
      split at abandoned
      · exact (not_drops_done abandoned).elim
      split at abandoned
      · exact (not_drops_done abandoned).elim
      simp only [ask_bind, drops_store, drops_clear, pure_eq, done_bind, not_drops_done, or_false]
        at abandoned
      obtain ⟨rfl, rfl⟩ := abandoned
      cases carried
      · exact .clearing ⟨rfl, rfl⟩ rfl
      · exact .cleared ⟨rfl, rfl⟩ rfl
  | renew owner claim =>
      simp only [Abandoned, Call.program, renew, perform_bind, ask_bind, drops_lock] at abandoned
      obtain ⟨rfl, rfl⟩ | abandoned := abandoned
      · exact .waiting
      split at abandoned
      · exact (not_drops_done abandoned).elim
      split at abandoned
      · exact (not_drops_done abandoned).elim
      split at abandoned
      · exact (not_drops_done abandoned).elim
      simp only [ask_bind, drops_instant] at abandoned
      obtain ⟨now, _, abandoned⟩ := abandoned
      split at abandoned
      · exact (not_drops_done abandoned).elim
      · simp only [ask_bind, drops_store, pure_eq, done_bind, not_drops_done] at abandoned
  | expireDue =>
      simp only [Abandoned, Call.program, expireDue, perform_bind, ask_bind, drops_lock]
        at abandoned
      obtain ⟨rfl, rfl⟩ | abandoned := abandoned
      · exact .waiting
      split at abandoned
      · exact (not_drops_done abandoned).elim
      simp only [ask_bind, drops_instant] at abandoned
      obtain ⟨now, _, abandoned⟩ := abandoned
      split at abandoned
      · exact (not_drops_done abandoned).elim
      simp only [ask_bind, drops_store, drops_clear, pure_eq, done_bind, not_drops_done, or_false]
        at abandoned
      obtain ⟨rfl, rfl⟩ := abandoned
      cases carried
      · exact .clearing ⟨rfl, rfl⟩ rfl
      · exact .cleared ⟨rfl, rfl⟩ rfl

/-! ### Whole runs -/

theorem recorded_iff (same : SameRecord desk after) : after.Recorded ↔ desk.Recorded := by
  rw [Desk.Recorded, Desk.Recorded, same.1, same.2]

/-- **A handled call that does not strand its keybindings keeps them covered.** -/
theorem covered_after_handled (step : Handles lease desk after) (covered : desk.Covered)
    (tidy : ¬ Strands lease desk after) : after.Covered := by
  obtain served | ⟨call, cut, carried, serving, abandoned⟩ := step
  · refine covered_after served covered fun abandons => ?_
    obtain ⟨call, reply, _, run⟩ := served
    exact ((performs_iff.mp run).of_abandons abandons).1
  · cases abandoned_leftAt serving abandoned with
    | waiting => exact covered
    | clearing same effects =>
        intro bound
        rw [Desk.bound, effects] at bound
        exact (recorded_iff same).mpr (covered bound)
    | cleared _ effects | installing _ effects => exact .of_cleared effects
    | @installed _ session same effects =>
        intro _
        by_contra unrecorded
        exact tidy ⟨mt (recorded_iff same).mpr unrecorded, call, session, serving, abandoned⟩

/-- A stranded desktop is not covered. -/
theorem not_covered_of_strands (strands : Strands lease desk after) : ¬ after.Covered := by
  obtain ⟨unrecorded, call, session, serving, abandoned⟩ := strands
  cases abandoned_leftAt serving abandoned with
  | installed same effects =>
      intro covered
      have bound : after.bound = true := by rw [Desk.bound, effects]; rfl
      exact unrecorded ((recorded_iff same).mp (covered bound))

/-- **Along every run of finished and abandoned calls, keybindings stay covered exactly when no
attach is dropped after its install while the coordinator holds no record.** -/
theorem covered_iff_handled {start : Desk} {desks : List Desk}
    (startup : Reconciled lease Effect.Succeeds start)
    (run : (start :: desks).IsChain (Handles lease)) :
    (∀ desk ∈ start :: desks, desk.Covered) ↔
      (start :: desks).IsChain fun before after => ¬ Strands lease before after :=
  isChain_forall_iff run (covered_of_reconciled startup) (fun _ _ => covered_after_handled)
    fun _ _ _ _ => not_covered_of_strands

/-- Any attach that is not refused can be dropped right after its install. -/
theorem abandoned_of_free {owner : String} {role : SessionRole}
    {controller : Option AgentEndpoint} {window : WindowSelector} {now : Instant} {id : SessionId}
    (later : desk.clock ≤ now) (free : heldByOther desk.state owner now = false)
    (fresh : id ∉ desk.minted) :
    Abandoned lease desk (.attach owner role controller window)
      (.install (candidate desk.state id owner role controller window)) true
      ((((desk.tick now).hold desk.state.advanced).mint id |>.record .cleared).record
        (.installed (candidate desk.state id owner role controller window))) := by
  simp only [Abandoned, Call.program, attach, perform_bind, ask_bind, drops_lock, drops_instant]
  refine .inr ⟨now, later, ?_⟩
  simp only [free, Bool.false_eq_true, if_false, ask_bind, drops_store, drops_newId, drops_clear,
    drops_install]
  exact ⟨id, fresh, .inr (.inl ⟨rfl, rfl⟩)⟩

/-- The law at a run with one abandoned attach. -/
theorem covered_iff_handled_attach : ∃ after : Desk, Handles defaultLease .started after ∧
    ((∀ desk ∈ [Desk.started, after], desk.Covered) ↔
      [Desk.started, after].IsChain fun before after => ¬ Strands defaultLease before after) := by
  have dropped := @abandoned_of_free defaultLease .started "tower" .controller none .activeWindow 7
    ⟨1⟩ (by decide) rfl List.not_mem_nil
  have step : Handles defaultLease .started _ :=
    .inr ⟨.attach "tower" .controller none .activeWindow, _, _, trivial, dropped⟩
  exact ⟨_, step, covered_iff_handled (reconciled_started trivial) (by simpa using step)⟩

/-- **One abandoned attach strands the desktop**: the first clear succeeds, the install is carried
out, and the handler is dropped before the record is published. -/
theorem abandoned_attach_strands : ∃ after : Desk,
    Reconciled defaultLease Effect.Succeeds .started ∧
      [Desk.started, after].IsChain (Handles defaultLease) ∧
        after.bound = true ∧ after.state.active = none := by
  have dropped := @abandoned_of_free defaultLease .started "tower" .controller none .activeWindow 7
    ⟨1⟩ (by decide) rfl List.not_mem_nil
  have step : Handles defaultLease .started _ :=
    .inr ⟨.attach "tower" .controller none .activeWindow, _, _, trivial, dropped⟩
  exact ⟨_, reconciled_started trivial, by simpa using step, rfl, rfl⟩

end Omdesky.Agent
