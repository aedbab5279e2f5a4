/-
**Keybindings left behind by finished calls.**

The lease sweep removes what a record accounts for: keybindings on the desktop are `covered` while
the coordinator holds a record with a deadline.

* `covered_after`: of everything a finished call can do, only one thing leaves keybindings behind,
  an `attach` that drops its record although both the install, half done, and the rollback failed
  (`Abandons`).
* `covered_iff`: along every run after a successful startup, the keybindings stay covered exactly
  when no call does that; `keybindings_left_behind` is a run where one does.
-/

import Omdesky.Agent.Session.Outcome

namespace Omdesky.Agent

open Interaction

/-! ### Covered desktops -/

/-- The coordinator holds a record with a deadline. -/
def Desk.Recorded (desk : Desk) : Prop :=
  desk.state.active.isSome ∧ desk.state.expiresAt.isSome

/-- Installed keybindings have a record, so that the sweep will remove them. -/
def Desk.Covered (desk : Desk) : Prop := desk.bound → desk.Recorded

/-- The calls between startup and shutdown. -/
def Call.Serving : Call → Prop
  | .reconcile | .release => False
  | _ => True

/-- A serving call runs to its end, with the `possible` effects. -/
def Serves (lease : Duration) (possible : Effect → Prop) (before after : Desk) : Prop :=
  ∃ call reply, call.Serving ∧ Performs lease possible before call reply after

/-- The agent has just reconciled successfully. -/
def Reconciled (lease : Duration) (possible : Effect → Prop) (desk : Desk) : Prop :=
  ∃ before, Performs lease possible before .reconcile (.reconciled (.ok ())) desk

/-- An install failed and left keybindings behind, and the clear that should roll it back failed
too. -/
def Abandons (before after : Desk) : Prop :=
  ∃ cleanup, after.effects =
    .clearFailed :: .installFailed true :: clearEffect cleanup :: before.effects

theorem covered_of_reconciled {lease : Duration} {possible : Effect → Prop} {desk : Desk}
    (startup : Reconciled lease possible desk) : desk.Covered := by
  obtain ⟨before, run⟩ := startup
  cases performs_iff.mp run with
  | reconciled can => rintro ⟨⟩

/-! ### One call -/

variable {lease : Duration} {possible : Effect → Prop} {before after : Desk}

theorem Desk.Covered.of_cleared {desk : Desk} {earlier : List Effect}
    (last : desk.effects = .cleared :: earlier) : desk.Covered := by
  intro bound
  rw [Desk.bound, last] at bound
  cases bound

/-- Clearing, successful or not, leaves at most the keybindings there were. -/
theorem Desk.Covered.of_clear {desk : Desk} (covered : before.Covered) (result : PortResult Unit)
    (last : desk.effects = clearEffect result :: before.effects)
    (same : desk.state = before.state) : desk.Covered := by
  cases result with
  | ok done => exact .of_cleared last
  | error error =>
      intro bound
      rw [Desk.bound, last] at bound
      rw [Desk.Recorded, same]
      exact covered bound

/-- **A call that does not abandon its keybindings keeps them covered.** -/
theorem covered_after (step : Serves lease possible before after) (covered : before.Covered)
    (tidy : ¬ Abandons before after) : after.Covered := by
  obtain ⟨call, reply, serving, run⟩ := step
  cases performs_iff.mp run with
  | reconciled | releaseIdle | released => exact serving.elim
  | snapshotted | refused | detachIdle | detachForeign | detachStale
  | renewIdle | renewForeign | renewStale | renewLate | expireIdle | expireEarly => exact covered
  | detachFailed | expireFailed => exact covered.of_clear (.error default) rfl rfl
  | detached | expired => exact .of_cleared rfl
  | granted => exact fun _ => ⟨rfl, rfl⟩
  | renewed active => exact fun _ => ⟨by simp [active], rfl⟩
  | @rolledBack _ _ _ _ _ _ cleanup left rollback =>
      cases rollback with
      | ok done => exact .of_cleared rfl
      | error error =>
          cases left with
          | false => rintro ⟨⟩
          | true => exact absurd ⟨cleanup, rfl⟩ tidy

/-- Only an attach whose install and rollback both fail abandons its keybindings, and it drops the
record. -/
theorem Outcome.of_abandons {call : Call} {reply : Reply}
    (outcome : Outcome lease possible before call reply after) (abandons : Abandons before after) :
    possible (.installFailed true) ∧ after.state.active = none := by
  obtain ⟨cleanup, effects⟩ := abandons
  cases outcome with
  | @rolledBack _ _ _ _ _ _ _ left rollback _ _ _ _ can =>
      simp only [Desk.hold_effects, Desk.record_effects, List.cons.injEq,
        Effect.installFailed.injEq] at effects
      exact ⟨effects.2.1 ▸ can, rfl⟩
  -- no other call causes three effects
  | _ => exact absurd (congrArg List.length effects) (by simp [Nat.add_assoc])

/-- An abandoning call leaves keybindings without a record. -/
theorem not_covered_after (step : Serves lease possible before after)
    (abandons : Abandons before after) : ¬ after.Covered := by
  obtain ⟨call, reply, _, run⟩ := step
  obtain ⟨_, idle⟩ := (performs_iff.mp run).of_abandons abandons
  obtain ⟨cleanup, effects⟩ := abandons
  intro covered
  have recorded := covered (by rw [Desk.bound, effects]; rfl)
  simp [Desk.Recorded, idle] at recorded

/-! ### Whole runs -/

/-- **Along every run after a successful startup, keybindings stay covered exactly when no attach
abandons them.** -/
theorem covered_iff {start : Desk} {desks : List Desk}
    (startup : Reconciled lease anyEffect start)
    (run : (start :: desks).IsChain (Serves lease anyEffect)) :
    (∀ desk ∈ start :: desks, desk.Covered) ↔
      (start :: desks).IsChain fun before after => ¬ Abandons before after := by
  refine isChain_forall_iff run (covered_of_reconciled startup) (fun _ _ => covered_after) ?_
  exact fun _ _ step _ => not_covered_after step

theorem reconciled_started {possible : Effect → Prop} (can : possible .cleared) :
    Reconciled lease possible .started :=
  ⟨.new 0, (Outcome.reconciled can).performs⟩

/-- A run with one granted attach: the law at that run. -/
theorem covered_iff_attached : ∃ attached : Desk, Serves defaultLease anyEffect .started attached ∧
    ((∀ desk ∈ [Desk.started, attached], desk.Covered) ↔
      [Desk.started, attached].IsChain fun before after => ¬ Abandons before after) := by
  have attach := @Outcome.granted defaultLease anyEffect .started "tower" .controller none
    .activeWindow 7 ⟨1⟩ (.ok ()) (by decide) rfl List.not_mem_nil trivial trivial
  have step : Serves defaultLease anyEffect .started _ :=
    ⟨.attach "tower" .controller none .activeWindow, _, trivial, attach.performs⟩
  exact ⟨_, step, covered_iff (reconciled_started trivial) (by simpa using step)⟩

/-- **One attach leaves keybindings that nobody will remove**: the first clear succeeds, the install
fails after it installed, the rollback fails, and no record remains. -/
theorem keybindings_left_behind : ∃ after : Desk, Reconciled defaultLease anyEffect .started ∧
    [Desk.started, after].IsChain (Serves defaultLease anyEffect) ∧
      after.bound = true ∧ after.state.active = none := by
  have attach := @Outcome.rolledBack defaultLease anyEffect .started "tower" .controller none
    .activeWindow 7 ⟨1⟩ (.ok ()) true (.error default) (by decide) rfl List.not_mem_nil trivial
    trivial trivial
  have step : Serves defaultLease anyEffect .started _ :=
    ⟨.attach "tower" .controller none .activeWindow, _, trivial, attach.performs⟩
  exact ⟨_, reconciled_started trivial, by simpa using step, rfl, rfl⟩

end Omdesky.Agent
