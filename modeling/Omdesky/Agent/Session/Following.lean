/-
**Follow-focus never outlives its session record.**

The coordinator drives `KeybindSessionEffects`, which tells a callback whose display to follow. The
callback is `FollowFocusSupervisor::set_controller`, which keeps the router for one controller running.

* `installEffects`, `clearEffects`: the two effects, over the keybindings and the callback.
* `Supervisor.setController`: the callback, with the routers it spawns and stops.
* `drivenWorld`, `Driven`: the coordinator with these effects, and the runs of its calls.
* `follow_law`: the last controller that was told is the record's, and only its router is alive.
-/

import Omdesky.Agent.Session.Outcome

namespace Omdesky.Agent

open Interaction Interaction.Program

/-! ### The effects -/

/-- A call of `KeybindSessionEffects`: of the keybindings, or of the callback. -/
inductive EffectCall
  | install (config : SessionKeybindConfig)
  | clear
  | followFocus (controller : Option AgentEndpoint)

/-- The answer to each call. -/
abbrev EffectAnswer : EffectCall → Type
  | .install _ => PortResult Unit
  | .clear => PortResult Unit
  | .followFocus _ => Unit

/-- A program of the effects. -/
abbrev EffectM := Program EffectCall EffectAnswer

/-- `KeybindSessionEffects::install`. -/
def installEffects (session : ActiveSession) : EffectM (PortResult Unit) := do
  match ← perform (EffectCall.install session.keybinds) with
  | .error error => return .error error
  | .ok () =>
      if session.role = .remote then
        perform (EffectCall.followFocus session.controller)
      return .ok ()

/-- `KeybindSessionEffects::clear`. -/
def clearEffects : EffectM (PortResult Unit) := do
  perform (EffectCall.followFocus none)
  perform EffectCall.clear

/-! ### The callback -/

/-- The two tasks of a `FollowFocusSession`, and the controller they send display switches to. -/
structure FollowFocusSession where
  task : Nat
  controller : AgentEndpoint
  deriving DecidableEq, Repr

/-- `FollowFocusSupervisor`, with the number of sessions it has spawned and those not stopped. -/
structure Supervisor where
  running : Option FollowFocusSession
  spawned : Nat
  alive : List FollowFocusSession
  deriving DecidableEq, Repr

namespace Supervisor

/-- `FollowFocusSupervisor::new`. -/
def new : Supervisor := { running := none, spawned := 0, alive := [] }

/-- The tasks of a session are spawned. -/
def spawn (supervisor : Supervisor) (controller : AgentEndpoint) : Supervisor :=
  { supervisor with
    spawned := supervisor.spawned + 1
    alive := { task := supervisor.spawned, controller } :: supervisor.alive }

/-- `FollowFocusSession::stop`. -/
def stop (supervisor : Supervisor) (session : FollowFocusSession) : Supervisor :=
  { supervisor with alive := supervisor.alive.filter (· ≠ session) }

/-- `FollowFocusSupervisor::set_controller`. Nothing panics under the lock, so it is never poisoned. -/
def setController (supervisor : Supervisor) (controller : Option AgentEndpoint) : Supervisor :=
  let replacement := controller.map fun controller =>
    { task := supervisor.spawned, controller : FollowFocusSession }
  let started := (controller.map supervisor.spawn).getD supervisor
  let previous := supervisor.running
  let replaced := { started with running := replacement }
  (previous.map replaced.stop).getD replaced

end Supervisor

/-- What the callback was told last, if anything, and what it keeps running. -/
structure Following where
  told : Option (Option AgentEndpoint)
  supervisor : Supervisor
  deriving DecidableEq, Repr

/-- Before the first effect. -/
def Following.new : Following := { told := none, supervisor := .new }

/-- One call of the callback. -/
def Following.tell (following : Following) (controller : Option AgentEndpoint) : Following :=
  { told := some controller, supervisor := following.supervisor.setController controller }

/-- The surroundings of the effects. The keybindings are installed and removed, or not. -/
def effectWorld : World EffectCall EffectAnswer Following
  | .followFocus controller, following, (), after => after = following.tell controller
  | .install _, following, _, after => after = following
  | .clear, following, _, after => after = following

/-! ### The coordinator with these effects -/

/-- The surroundings of the coordinator, with `KeybindSessionEffects` for its effects. -/
def drivenWorld : World SessionRequest SessionAnswer (Desk × Following) :=
  fun request state answer next => sessionWorld anyEffect request state.1 answer next.1 ∧
    match request with
    | .install session => Ends effectWorld (installEffects session) state.2 answer next.2
    | .clear => Ends effectWorld clearEffects state.2 answer next.2
    | _ => next.2 = state.2

/-- The runs of finished calls, from the start of the agent. -/
inductive Driven (lease : Duration) : Desk × Following → Prop
  | new (clock : Instant) : Driven lease (.new clock, .new)
  | call {state next} (call : Call) (reply : Reply) (before : Driven lease state)
      (run : Ends drivenWorld (call.program lease) state reply next) : Driven lease next

/-- **The law of follow-focus**, whenever no operation is in progress. -/
structure FollowLaw (state : Desk × Following) : Prop where
  told : ∀ controller, state.2.told = some (some controller) →
    ∃ session, state.1.state.active = some session ∧ session.role = .remote ∧
      session.controller = some controller
  alive : ∀ session ∈ state.2.supervisor.alive, state.2.told = some (some session.controller)
  single : state.2.supervisor.alive.length ≤ 1
  stopped : state.1.state.active = none → state.2.supervisor.alive = []

/-! ### What an effect does to the callback -/

/-- What a logged effect has told the callback. -/
def Effect.carry : Effect → Following → Following
  | .installed session, following =>
      if session.role = .remote then following.tell session.controller else following
  | .installFailed _, following => following
  | .cleared, following | .clearFailed, following => following.tell none

theorem carry_clearEffect (result : PortResult Unit) (following : Following) :
    (clearEffect result).carry following = following.tell none := by
  cases result <;> rfl

section Effects

variable {session : ActiveSession} {following next : Following} {answer : PortResult Unit}

theorem ends_clearEffects (ends : Ends effectWorld clearEffects following answer next) :
    next = following.tell none := by
  obtain ⟨_, _, rfl, ends⟩ := ends_ask.mp ends
  obtain ⟨_, _, rfl, ends⟩ := ends_ask.mp ends
  exact (ends_done.mp ends).2

/-- An install tells the controller of a remote session, if the keybindings are installed. -/
theorem ends_installEffects (ends : Ends effectWorld (installEffects session) following answer next) :
    next = match answer with
      | .ok () => (Effect.installed session).carry following
      | .error _ => following := by
  obtain ⟨installed, _, rfl, ends⟩ := ends_ask.mp ends
  cases installed with
  | error error =>
      obtain ⟨rfl, rfl⟩ := ends_done.mp ends
      rfl
  | ok _ =>
      by_cases remote : session.role = .remote
      · simp only [if_pos remote] at ends
        obtain ⟨_, _, rfl, ends⟩ := ends_ask.mp ends
        obtain ⟨rfl, rfl⟩ := ends_done.mp ends
        exact (if_pos remote).symm
      · simp only [if_neg remote] at ends
        obtain ⟨rfl, rfl⟩ := ends_done.mp ends
        exact (if_neg remote).symm

end Effects

/-- The effects logged in between have told the callback what it was told. -/
def Carried (first second : Desk × Following) : Prop :=
  ∃ effects, second.1.effects = effects ++ first.1.effects ∧
    second.2 = effects.foldr Effect.carry first.2

theorem carried_of_world {request : SessionRequest} {state final : Desk × Following}
    {answer : SessionAnswer request} (answered : drivenWorld request state answer final) :
    Carried state final := by
  obtain ⟨desk, following⟩ := state
  obtain ⟨after, next⟩ := final
  obtain ⟨answered, carried⟩ := answered
  cases request with
  | install session =>
      have told := ends_installEffects carried
      cases answer with
      | error error =>
          obtain ⟨left, _, rfl⟩ := answered
          exact ⟨[.installFailed left], rfl, told⟩
      | ok _ =>
          obtain ⟨_, rfl⟩ := answered
          exact ⟨[.installed session], rfl, told⟩
  | clear =>
      obtain ⟨_, rfl⟩ := answered
      refine ⟨[clearEffect answer], rfl, (ends_clearEffects carried).trans ?_⟩
      exact (carry_clearEffect answer following).symm
  | store state =>
      obtain rfl : after = desk.hold state := answered
      exact ⟨[], rfl, carried⟩
  | lock | instant | newId =>
      obtain ⟨_, rfl⟩ := answered
      exact ⟨[], rfl, carried⟩

theorem carried_of_ends {α : Type} {program : SessionM α} {value : α} {state final : Desk × Following}
    (ends : Ends drivenWorld program state value final) : Carried state final := by
  obtain ⟨trace, run⟩ := ends
  exact Runs.logs (fun state : Desk × Following => state.1.effects) Prod.snd
    (fun following => List.foldr Effect.carry following) (fun _ => rfl)
    (fun _ _ _ => List.foldr_append) (fun _ _ _ _ => carried_of_world) run

/-- The effects run for every answer of the coordinator's surroundings. -/
theorem exists_drivenWorld {request : SessionRequest} {desk after : Desk}
    {answer : SessionAnswer request} (answered : sessionWorld anyEffect request desk answer after)
    (following : Following) : ∃ next, drivenWorld request (desk, following) answer (after, next) := by
  cases request with
  | install session =>
      cases answer with
      | error error =>
          refine ⟨following, answered, ends_ask.mpr ⟨.error error, _, rfl, ?_⟩⟩
          exact ends_done.mpr ⟨rfl, rfl⟩
      | ok _ =>
          by_cases remote : session.role = .remote
          · refine ⟨following.tell session.controller, answered, ends_ask.mpr ⟨.ok (), _, rfl, ?_⟩⟩
            simp only [if_pos remote]
            exact ends_ask.mpr ⟨(), _, rfl, ends_done.mpr ⟨rfl, rfl⟩⟩
          · refine ⟨following, answered, ends_ask.mpr ⟨.ok (), _, rfl, ?_⟩⟩
            simp only [if_neg remote]
            exact ends_done.mpr ⟨rfl, rfl⟩
  | clear =>
      exact ⟨following.tell none, answered, ends_ask.mpr ⟨(), _, rfl,
        ends_ask.mpr ⟨answer, _, rfl, ends_done.mpr ⟨rfl, rfl⟩⟩⟩⟩
  | lock | instant | newId | store => exact ⟨following, answered, rfl⟩

/-- **Every run of the coordinator is one with these effects**, and tells the callback what it logs. -/
theorem ends_driven {α : Type} {program : SessionM α} {value : α} {desk after : Desk}
    {following : Following} {effects : List Effect}
    (ends : Ends (sessionWorld anyEffect) program desk value after)
    (log : after.effects = effects ++ desk.effects) : Ends drivenWorld program (desk, following) value
      (after, effects.foldr Effect.carry following) := by
  obtain ⟨trace, run⟩ := ends
  have followed : ∃ state : Desk × Following,
      Runs drivenWorld program (desk, following) trace value state ∧ state.1 = after := by
    refine Runs.forward (fun desk (state : Desk × Following) => state.1 = desk) ?_ rfl run
    rintro request _ answer after ⟨_, following⟩ rfl answered
    obtain ⟨next, answered⟩ := exists_drivenWorld answered following
    exact ⟨(after, next), answered, rfl⟩
  obtain ⟨⟨_, next⟩, driven, rfl⟩ := followed
  have carried : Carried (desk, following) (_, next) := carried_of_ends ⟨trace, driven⟩
  obtain ⟨others, sameLog, same⟩ := carried
  have same : next = effects.foldr Effect.carry following := by
    rwa [List.append_cancel_right (log.symm.trans sameLog)]
  rw [← same]
  exact ⟨trace, driven⟩

/-- Every way through the code continues a run. -/
theorem Driven.outcome {lease : Duration} {desk after : Desk} {following : Following} {call : Call}
    {reply : Reply} {effects : List Effect} (before : Driven lease (desk, following))
    (outcome : Outcome lease anyEffect desk call reply after)
    (log : after.effects = effects ++ desk.effects) :
    Driven lease (after, effects.foldr Effect.carry following) :=
  .call call reply before (ends_driven outcome.performs log)

/-! ### One router -/

/-- The supervisor keeps the router alive that it knows of, and no other. -/
structure Supervisor.Tidy (supervisor : Supervisor) : Prop where
  alive : supervisor.alive = supervisor.running.toList
  fresh : ∀ session ∈ supervisor.running, session.task < supervisor.spawned

namespace Supervisor.Tidy

variable {supervisor : Supervisor}

/-- A session is told apart from the one that was running by its task. -/
theorem spawned_ne (tidy : supervisor.Tidy) {session : FollowFocusSession}
    (running : supervisor.running = some session) (controller : AgentEndpoint) :
    { task := supervisor.spawned, controller : FollowFocusSession } ≠ session := by
  rintro rfl
  have fresh : supervisor.spawned < supervisor.spawned := tidy.fresh _ (Option.mem_def.mpr running)
  exact Nat.lt_irrefl _ fresh

theorem setController (tidy : supervisor.Tidy) (controller : Option AgentEndpoint) :
    (supervisor.setController controller).Tidy := by
  have alive := tidy.alive
  cases running : supervisor.running with
  | none =>
      rw [running] at alive
      cases controller with
      | none =>
          refine ⟨?_, ?_⟩ <;> simp [Supervisor.setController, running, alive]
      | some controller =>
          refine ⟨?_, ?_⟩ <;> simp [Supervisor.setController, spawn, running, alive]
  | some session =>
      rw [running] at alive
      cases controller with
      | none =>
          refine ⟨?_, ?_⟩ <;> simp [Supervisor.setController, stop, running, alive]
      | some controller =>
          have distinct := tidy.spawned_ne running controller
          refine ⟨?_, ?_⟩ <;> simp [Supervisor.setController, spawn, stop, running, alive, distinct]

end Supervisor.Tidy

/-- The session that runs is the one that was asked for. -/
theorem Supervisor.running_setController (supervisor : Supervisor)
    (controller : Option AgentEndpoint) :
    (supervisor.setController controller).running.map FollowFocusSession.controller = controller := by
  cases running : supervisor.running <;> cases controller <;>
    simp [Supervisor.setController, spawn, stop, running]

/-- What keeps running follows what was told. -/
structure Following.Tidy (following : Following) : Prop where
  supervisor : following.supervisor.Tidy
  running : following.supervisor.running.map FollowFocusSession.controller = following.told.join

namespace Following.Tidy

variable {following : Following}

theorem tell (tidy : following.Tidy) (controller : Option AgentEndpoint) :
    (following.tell controller).Tidy :=
  ⟨tidy.supervisor.setController controller, following.supervisor.running_setController controller⟩

theorem carry (tidy : following.Tidy) (effect : Effect) : (effect.carry following).Tidy := by
  cases effect with
  | installed session =>
      by_cases remote : session.role = .remote
      · have carried : (Effect.installed session).carry following =
            following.tell session.controller := if_pos remote
        rw [carried]
        exact tidy.tell _
      · have carried : (Effect.installed session).carry following = following := if_neg remote
        rwa [carried]
  | installFailed left => exact tidy
  | cleared | clearFailed => exact tidy.tell none

theorem carryAll (tidy : following.Tidy) (effects : List Effect) :
    (effects.foldr Effect.carry following).Tidy := by
  induction effects with
  | nil => exact tidy
  | cons effect effects ih => exact ih.carry effect

/-- The routers that are alive were told of. -/
theorem alive (tidy : following.Tidy) {session : FollowFocusSession}
    (alive : session ∈ following.supervisor.alive) :
    following.told = some (some session.controller) := by
  rw [tidy.supervisor.alive, Option.mem_toList] at alive
  have running := tidy.running
  rw [Option.mem_def.mp alive, Option.map_some] at running
  exact Option.join_eq_some_iff.mp running.symm

end Following.Tidy

/-! ### The law -/

/-- What was told is in the record. -/
def Recorded (active : Option ActiveSession) (told : Option (Option AgentEndpoint)) : Prop :=
  ∀ controller, told = some (some controller) → ∃ session, active = some session ∧
    session.role = .remote ∧ session.controller = some controller

theorem recorded_tell_none (active : Option ActiveSession) (following : Following) :
    Recorded active (following.tell none).told := fun _ told => by cases told

/-- An installed session is recorded with the controller it tells. -/
theorem recorded_installed (session : ActiveSession) (following : Following) :
    Recorded (some session) ((Effect.installed session).carry (following.tell none)).told := by
  by_cases remote : session.role = .remote
  · have carried : (Effect.installed session).carry (following.tell none) =
        (following.tell none).tell session.controller := if_pos remote
    rw [carried]
    intro controller told
    exact ⟨session, rfl, remote, Option.some.inj told⟩
  · have carried : (Effect.installed session).carry (following.tell none) = following.tell none :=
      if_neg remote
    rw [carried]
    exact recorded_tell_none _ _

section Calls

variable {lease : Duration} {call : Call} {reply : Reply} {desk after : Desk}
  {following next : Following}

/-- **One call keeps the record and the callback in step**, whichever way it takes through the code. -/
theorem recorded_of_outcome (outcome : Outcome lease anyEffect desk call reply after)
    (carried : Carried (desk, following) (after, next))
    (recorded : Recorded desk.state.active following.told) :
    Recorded after.state.active next.told := by
  have told (effects : List Effect) (log : after.effects = effects ++ desk.effects) :
      next = effects.foldr Effect.carry following := by
    obtain ⟨others, sameLog, same⟩ := carried
    rwa [List.append_cancel_right (log.symm.trans sameLog)]
  -- A call that clears tells nothing further; one that logs no effect keeps the record.
  have removed (result : PortResult Unit) (others : List Effect)
      (log : after.effects = clearEffect result :: others ++ desk.effects) :
      Recorded after.state.active next.told := by
    rw [told (clearEffect result :: others) log, List.foldr_cons, carry_clearEffect]
    exact recorded_tell_none _ _
  have quiet (log : after.effects = desk.effects) (same : after.state.active = desk.state.active) :
      Recorded after.state.active next.told := by
    rwa [told [] log, same]
  cases outcome with
  | reconciled can => exact removed _ [] rfl
  | @granted _ _ _ _ _ _ cleanup later free fresh canClear can =>
      rw [told [_, clearEffect cleanup] rfl, List.foldr_cons, List.foldr_cons, carry_clearEffect]
      exact recorded_installed _ _
  | rolledBack later free fresh canClear can canRollBack => exact removed _ [_, _] rfl
  | detachFailed active own current can => exact removed (.error default) [] rfl
  | detached active own current can => exact removed (.ok ()) [] rfl
  | expireFailed active later elapsed can => exact removed (.error default) [] rfl
  | expired active later elapsed can => exact removed (.ok ()) [] rfl
  | released active can => exact removed _ [] rfl
  | snapshotted | refused | detachIdle | detachForeign | detachStale | renewIdle | renewForeign
  | renewStale | renewLate | renewed | expireIdle | expireEarly | releaseIdle =>
      exact quiet rfl rfl

theorem outcome_of_ends (ends : Ends drivenWorld (call.program lease) (desk, following) reply
    (after, next)) : Outcome lease anyEffect desk call reply after := by
  obtain ⟨trace, run⟩ := ends
  exact performs_iff.mp ⟨trace, Runs.simulates Prod.fst (fun _ _ _ _ answered => answered.1) run⟩

end Calls

/-- **The invariant of a run.** -/
structure InStep (state : Desk × Following) : Prop where
  tidy : state.2.Tidy
  recorded : Recorded state.1.state.active state.2.told

theorem inStep_of_driven {lease : Duration} {state : Desk × Following} (run : Driven lease state) :
    InStep state := by
  induction run with
  | new clock =>
      exact ⟨⟨⟨rfl, by simp [Following.new, Supervisor.new]⟩, rfl⟩, fun _ told => by cases told⟩
  | call call reply before run ih =>
      have carried := carried_of_ends run
      refine ⟨?_, recorded_of_outcome (outcome_of_ends run) carried ih.recorded⟩
      obtain ⟨effects, _, same⟩ := carried
      rw [same]
      exact ih.tidy.carryAll effects

/-- **Follow-focus never outlives its session record**, whichever effects succeed. -/
theorem follow_law {lease : Duration} {state : Desk × Following} (run : Driven lease state) :
    FollowLaw state := by
  have inStep := inStep_of_driven run
  have alive : ∀ session ∈ state.2.supervisor.alive,
      state.2.told = some (some session.controller) := fun _ => inStep.tidy.alive
  refine ⟨inStep.recorded, alive, ?_, ?_⟩
  · rw [inStep.tidy.supervisor.alive]
    exact Option.length_toList_le
  · intro idle
    refine List.eq_nil_iff_forall_not_mem.mpr fun session routed => ?_
    obtain ⟨recorded, active, _⟩ := inStep.recorded _ (alive session routed)
    rw [idle] at active
    cases active

/-- A controller that attaches to a fresh agent is followed. -/
theorem follow_law_attached : ∃ state controller, state.2.told = some (some controller) ∧
    FollowLaw state := by
  let controller : AgentEndpoint := ⟨.v4 100 64 0 1, 47900⟩
  have granted := @Outcome.granted defaultLease anyEffect (.new 0) "laptop" .remote (some controller)
    .activeWindow 0 ⟨0⟩ (.ok ()) (Nat.le_refl 0) rfl List.not_mem_nil trivial trivial
  have run := (Driven.new 0).outcome granted (List.append_nil [_, _]).symm
  exact ⟨_, controller, rfl, follow_law run⟩

end Omdesky.Agent
