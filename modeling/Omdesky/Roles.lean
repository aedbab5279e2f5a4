/-
**Both roles on one computer.**

The agent of a computer installs the keybindings of a remote desktop, and a stream started on the
same computer those of a controller. They are two programs, and Hyprland keeps the keybindings of
both in one global.

* `coordinatorWorld`, `streamWorld`: the effects of the session coordinator and of a connection, run
  on one compositor.
* `Step`: a finished operation of either program, whose effects succeed.
* `undisturbed_iff`: in a whole run both keep their keybindings exactly as long as neither touches
  the keybindings while the other has some.
* `stream_disturbs_remote`: starting a stream removes the keybindings of a remote session.
-/

import Omdesky.Agent.Session.Outcome
import Omdesky.Application.Connect
import Omdesky.Platform.Keybinds

namespace Omdesky.Roles

open Interaction Interaction.Program Agent Application Platform

/-! ### The agent -/

/-- The surroundings of the coordinator: `KeybindSessionEffects` carries its effects out on the
compositor, and they succeed. The follow-focus task, which it starts and stops, binds no keys. -/
def coordinatorWorld (build : Party → Bool) :
    World SessionRequest SessionAnswer (Desk × Hyprland) := fun request state answer next =>
  sessionWorld Effect.Succeeds request state.1 answer next.1 ∧
    match request with
    | .install session =>
        installKeybinds .agent (build .agent) session.keybinds state.2 = .ok next.2
    | .clear => next.2 = state.2.remove .agent
    | _ => next.2 = state.2

/-- What logged effects, newest first, have done to a compositor. -/
def carryOut (build : Party → Bool) (hyprland : Hyprland) : List Effect → Hyprland
  | [] => hyprland
  | .installed session :: earlier =>
      (carryOut build hyprland earlier).install .agent (build .agent) session.keybinds
  | .cleared :: earlier => (carryOut build hyprland earlier).remove .agent
  | _ :: earlier => carryOut build hyprland earlier

section Agent

variable {build : Party → Bool} {lease : Duration} {desk after : Desk} {call : Call} {reply : Reply}
  {hyprland next : Hyprland}

theorem carryOut_append (effects earlier : List Effect) :
    carryOut build hyprland (effects ++ earlier) =
      carryOut build (carryOut build hyprland earlier) effects := by
  induction effects with
  | nil => rfl
  | cons effect effects ih => cases effect <;> simp only [List.cons_append, carryOut, ih]

/-- The effects logged in between have been carried out on the compositor. -/
def Logged (build : Party → Bool) (first second : Desk × Hyprland) : Prop :=
  ∃ effects, second.1.effects = effects ++ first.1.effects ∧
    second.2 = carryOut build first.2 effects

theorem logged_of_world {request : SessionRequest} {state final : Desk × Hyprland}
    {answer : SessionAnswer request} (answered : coordinatorWorld build request state answer final) :
    Logged build state final := by
  obtain ⟨desk, hyprland⟩ := state
  obtain ⟨after, next⟩ := final
  obtain ⟨answered, carried⟩ := answered
  cases request with
  | install session =>
      cases answer with
      | error error =>
          obtain ⟨left, fails, _⟩ := answered
          exact fails.elim
      | ok _ =>
          obtain ⟨_, rfl⟩ := answered
          exact ⟨[.installed session], rfl, installKeybinds_ok carried⟩
  | clear =>
      cases answer with
      | error error => exact answered.1.elim
      | ok _ =>
          obtain ⟨_, rfl⟩ := answered
          exact ⟨[.cleared], rfl, carried⟩
  | store state =>
      obtain rfl : after = desk.hold state := answered
      exact ⟨[], rfl, carried⟩
  | lock | instant | newId =>
      obtain ⟨_, rfl⟩ := answered
      exact ⟨[], rfl, carried⟩

theorem logged_of_runs {α : Type} {program : SessionM α} {value : α} {state final : Desk × Hyprland}
    {trace : List (Event SessionRequest SessionAnswer)}
    (run : Runs (coordinatorWorld build) program state trace value final) :
    Logged build state final :=
  Runs.logs (fun state : Desk × Hyprland => state.1.effects) Prod.snd (carryOut build) (fun _ => rfl)
    (fun _ => carryOut_append) (fun _ _ _ _ => logged_of_world) run

/-- The call reaches the keybindings, if it reads the clock at `now`. -/
def Rebinds (desk : Desk) (now : Instant) : Call → Prop
  | .snapshot | .renew _ _ => False
  | .reconcile => True
  | .attach owner _ _ _ => heldByOther desk.state owner now = false
  | .detach owner claim => ∃ session, desk.state.active = some session ∧ session.owner = owner ∧
      session.claim = claim
  | .expireDue => desk.state.active ≠ none ∧ leaseElapsed desk.state now = true
  | .release => desk.state.active ≠ none

/-- What a call does with the record and the keybindings. -/
inductive Rebinding (build : Party → Bool) (call : Call) (desk : Desk) (hyprland : Hyprland)
    (after : Desk) (next : Hyprland) : Prop
  | untouched (quiet : ¬ Rebinds desk after.clock call) (keybinds : next = hyprland)
      (active : after.state.active = desk.state.active)
  | removed (touches : Rebinds desk after.clock call) (keybinds : next = hyprland.remove .agent)
      (active : after.state.active = none)
  | installed (session : ActiveSession) (touches : Rebinds desk after.clock call)
      (keybinds : next =
        (hyprland.remove .agent).install .agent (build .agent) session.keybinds)
      (active : after.state.active = some session)

theorem carryOut_clearEffect {result : PortResult Unit} (can : (clearEffect result).Succeeds) :
    carryOut build hyprland [clearEffect result] = hyprland.remove .agent := by
  cases result with
  | error error => exact can.elim
  | ok _ => rfl

theorem rebinding_of_outcome (outcome : Outcome lease Effect.Succeeds desk call reply after)
    (logged : Logged build (desk, hyprland) (after, next)) :
    Rebinding build call desk hyprland after next := by
  have carried (effects : List Effect) (log : after.effects = effects ++ desk.effects) :
      next = carryOut build hyprland effects := by
    obtain ⟨others, sameLog, same⟩ := logged
    rwa [List.append_cancel_right (log.symm.trans sameLog)]
  cases outcome with
  | snapshotted later => exact .untouched id (carried [] rfl) rfl
  | reconciled can =>
      exact .removed trivial ((carried [_] rfl).trans (carryOut_clearEffect can)) rfl
  | refused later held => exact .untouched (by simp [Rebinds, held]) (carried [] rfl) rfl
  | granted later free fresh canClear can =>
      refine .installed _ free ?_ rfl
      rw [carried [_, _] rfl, carryOut, carryOut_clearEffect canClear]
  | rolledBack later free fresh canClear can canRollBack => exact can.elim
  | detachIdle idle => exact .untouched (by simp [Rebinds, idle]) (carried [] rfl) rfl
  | detachForeign active foreign =>
      exact .untouched (by simp [Rebinds, active, foreign]) (carried [] rfl) rfl
  | detachStale active own stale =>
      exact .untouched (by simp [Rebinds, active, stale]) (carried [] rfl) rfl
  | detachFailed active own current can => exact can.elim
  | detached active own current can =>
      exact .removed ⟨_, active, own, current⟩ (carried [.cleared] rfl) rfl
  | renewIdle | renewForeign | renewStale | renewLate | renewed =>
      exact .untouched id (carried [] rfl) rfl
  | expireIdle idle => exact .untouched (by simp [Rebinds, idle]) (carried [] rfl) rfl
  | expireEarly active later live =>
      exact .untouched (by simp [Rebinds, live]) (carried [] rfl) rfl
  | expireFailed active later elapsed can => exact can.elim
  | expired active later elapsed can =>
      exact .removed ⟨by simp [active], elapsed⟩ (carried [.cleared] rfl) rfl
  | releaseIdle idle => exact .untouched (by simp [Rebinds, idle]) (carried [] rfl) rfl
  | released active can =>
      exact .removed (by simp [Rebinds, active])
        ((carried [_] rfl).trans (carryOut_clearEffect can)) rfl

/-- **One call of the coordinator**, with what it leaves on the compositor. -/
theorem rebinding_of_ends (run : Ends (coordinatorWorld build) (call.program lease) (desk, hyprland)
      reply (after, next)) : Rebinding build call desk hyprland after next := by
  obtain ⟨trace, run⟩ := run
  have performs : Performs lease Effect.Succeeds desk call reply after :=
    ⟨trace, Runs.simulates Prod.fst (fun _ _ _ _ answered => answered.1) run⟩
  exact rebinding_of_outcome (performs_iff.mp performs) (logged_of_runs run)

end Agent

/-! ### The stream -/

/-- The surroundings of a connection: its keybindings are installed on the compositor, and that
succeeds. Everything else may answer anything and binds no keys. -/
def streamWorld (build : Party → Bool) : World PortCall PortAnswer Hyprland
  | .install config, hyprland, answer, next => answer = .ok () ∧
      installKeybinds .stream (build .stream) config hyprland = .ok next
  | .clear, hyprland, answer, next => answer = .ok () ∧ next = hyprland.remove .stream
  | _, hyprland, _, next => next = hyprland

/-- The keybindings of a stream in this window. -/
def streamKeybinds (window : WindowSelector) : SessionKeybindConfig :=
  { role := .controller, controller := none, window }

section Stream

variable {build : Party → Bool} {request : ConnectRequest} {window : WindowSelector}
  {grant : SessionGrant} {hyprland next : Hyprland}

theorem installs_of_attachSession
    (run : Ends (streamWorld build) (attachSession request window) hyprland (.ok grant) next) :
    next = hyprland.install .stream (build .stream) (streamKeybinds window) := by
  unfold attachSession at run
  simp only [perform_bind] at run
  obtain ⟨_, installed, middle, _, rfl, ⟨rfl, carried⟩, run⟩ := run
  obtain ⟨sent, _, _, rfl, rfl, run⟩ := run
  have same := installKeybinds_ok carried
  cases sent with
  | error error =>
      obtain ⟨_, _, _, rfl, _, _, ⟨⟩, _⟩ := run
  | ok response =>
      dsimp only at run
      split at run
      · obtain ⟨_, _, rfl⟩ := run
        exact same
      · obtain ⟨_, ⟨⟩, _⟩ := run

theorem removes_of_detachSession
    (run : Ends (streamWorld build) (detachSession request grant) hyprland (.ok ()) next) :
    next = hyprland.remove .stream := by
  unfold detachSession at run
  simp only [perform_bind] at run
  obtain ⟨_, cleared, _, _, rfl, ⟨rfl, rfl⟩, run⟩ := run
  obtain ⟨sent, _, _, rfl, rfl, run⟩ := run
  cases sent with
  | error error =>
      obtain ⟨_, ⟨⟩, _⟩ := run
  | ok response =>
      obtain ⟨_, _, rfl⟩ := run
      rfl

end Stream

/-! ### Both on one desktop -/

/-- A computer: its agent's coordinator, its compositor, and the window of the stream that is
attached on it. -/
structure Desktop where
  desk : Desk
  hyprland : Hyprland
  stream : Option WindowSelector

/-- Both roles have their keybindings. -/
structure Undisturbed (build : Party → Bool) (desktop : Desktop) : Prop where
  remote : ∀ session, desktop.desk.state.active = some session → session.role = .remote →
    desktop.hyprland.Holds .agent (build .agent) session.keybinds
  stream : ∀ window, desktop.stream = some window →
    desktop.hyprland.Holds .stream (build .stream) (streamKeybinds window)

/-- A finished operation of the agent. -/
structure AgentStep (lease : Duration) (build : Party → Bool) (call : Call)
    (first second : Desktop) : Prop where
  performed : ∃ reply, Ends (coordinatorWorld build) (call.program lease)
    (first.desk, first.hyprland) reply (second.desk, second.hyprland)
  stream : second.stream = first.stream

/-- A stream attaches, or the one that is attached detaches. -/
inductive StreamStep (build : Party → Bool) (first second : Desktop) : Prop
  | attach (request : ConnectRequest) (window : WindowSelector) (grant : SessionGrant)
      (performed : Ends (streamWorld build) (attachSession request window) first.hyprland
        (.ok grant) second.hyprland)
      (idle : first.stream = none) (stream : second.stream = some window)
      (desk : second.desk = first.desk)
  | detach (request : ConnectRequest) (window : WindowSelector) (grant : SessionGrant)
      (performed : Ends (streamWorld build) (detachSession request grant) first.hyprland
        (.ok ()) second.hyprland)
      (attached : first.stream = some window) (stream : second.stream = none)
      (desk : second.desk = first.desk)

/-- One step of the computer. -/
def Step (lease : Duration) (build : Party → Bool) (first second : Desktop) : Prop :=
  (∃ call, AgentStep lease build call first second) ∨ StreamStep build first second

/-- One role touches the keybindings while the other has some: the agent while a stream is attached,
or a stream while the agent has a remote session with a controller. -/
def Disturbs (lease : Duration) (build : Party → Bool) (first second : Desktop) : Prop :=
  (first.stream ≠ none ∧ ∃ call, AgentStep lease build call first second ∧
    Rebinds first.desk second.desk.clock call) ∨
  (controllerOf first.desk.state.active ≠ none ∧ StreamStep build first second)

section Desktop

variable {lease : Duration} {build : Party → Bool} {first second : Desktop}

/-- A stream has keybindings. -/
theorem streamBinds_ne_nil (debugAssertions : Bool) (window : WindowSelector) :
    sessionBinds debugAssertions (streamKeybinds window) ≠ [] := by
  rw [Ne, sessionBinds_eq_nil_iff]
  exact nofun

/-- A remote session has keybindings exactly when it has a controller. -/
theorem sessionBinds_keybinds {debugAssertions : Bool} {session : ActiveSession}
    (remote : session.role = .remote) :
    sessionBinds debugAssertions session.keybinds = [] ↔ controllerOf (some session) = none := by
  rw [sessionBinds_eq_nil_iff]
  simp [controllerOf, ActiveSession.keybinds, remote]

/-- A step keeps the keybindings of both roles, unless one touches them while the other has some. -/
theorem undisturbed_step (step : Step lease build first second) (good : Undisturbed build first)
    (calm : ¬ Disturbs lease build first second) : Undisturbed build second := by
  rcases step with ⟨call, step⟩ | step
  · obtain ⟨reply, run⟩ := step.performed
    have alone (touches : Rebinds first.desk second.desk.clock call) : second.stream = none := by
      rw [step.stream]
      by_contra attached
      exact calm (.inl ⟨attached, call, step, touches⟩)
    cases rebinding_of_ends run with
    | untouched quiet keybinds active =>
        constructor
        · intro session found remote
          rw [keybinds]
          exact good.remote session (active ▸ found) remote
        · intro window found
          rw [keybinds]
          exact good.stream window (step.stream ▸ found)
    | removed touches keybinds active =>
        constructor
        · intro session found
          rw [active] at found
          cases found
        · intro window found
          rw [alone touches] at found
          cases found
    | installed session touches keybinds active =>
        constructor
        · intro other found remote
          obtain rfl := Option.some.inj (active.symm.trans found)
          rw [keybinds]
          exact Hyprland.holds_install _ _ _ _
        · intro window found
          rw [alone touches] at found
          cases found
  · have unbound : controllerOf first.desk.state.active = none := by
      by_contra bound
      exact calm (.inr ⟨bound, step⟩)
    -- a remote session without a controller has no keybindings to lose
    have remote (hyprland : Hyprland) (session : ActiveSession)
        (found : first.desk.state.active = some session) (remote : session.role = .remote) :
        hyprland.Holds .agent (build .agent) session.keybinds := by
      rw [found] at unbound
      intro bind member
      rw [(sessionBinds_keybinds remote).mpr unbound] at member
      cases member
    cases step with
    | attach request window grant performed idle stream desk =>
        constructor
        · intro session found
          exact remote _ session (desk ▸ found)
        · intro other found
          obtain rfl := Option.some.inj (stream.symm.trans found)
          rw [installs_of_attachSession performed]
          exact Hyprland.holds_install _ _ _ _
    | detach request window grant performed attached stream desk =>
        constructor
        · intro session found
          exact remote _ session (desk ▸ found)
        · intro other found
          rw [stream] at found
          cases found

/-- A role that touches the keybindings of the other removes them. -/
theorem not_undisturbed_of_disturbs (disturbs : Disturbs lease build first second) :
    ¬ Undisturbed build second := by
  intro good
  rcases disturbs with ⟨attached, call, step, touches⟩ | ⟨bound, step⟩
  · obtain ⟨window, found⟩ := Option.ne_none_iff_exists'.mp attached
    obtain ⟨reply, run⟩ := step.performed
    refine Hyprland.not_holds (streamBinds_ne_nil _ window) ?_
      (good.stream window (step.stream.trans found))
    intro bind
    cases rebinding_of_ends run with
    | untouched quiet keybinds active => exact absurd touches quiet
    | removed touches keybinds active => simp [keybinds]
    | installed session touches keybinds active => simp [keybinds]
  · obtain ⟨session, found⟩ : ∃ session, first.desk.state.active = some session := by
      cases active : first.desk.state.active with
      | none =>
          rw [active] at bound
          exact absurd rfl bound
      | some session => exact ⟨session, rfl⟩
    have remote : session.role = .remote := by
      by_contra other
      rw [found] at bound
      cases role : session.role <;> simp_all [controllerOf]
    rw [found] at bound
    have some : sessionBinds (build .agent) session.keybinds ≠ [] :=
      mt (sessionBinds_keybinds remote).mp bound
    cases step with
    | attach request window grant performed idle stream desk =>
        refine Hyprland.not_holds some ?_ (good.remote session (desk ▸ found) remote)
        simp [installs_of_attachSession performed]
    | detach request window grant performed attached stream desk =>
        refine Hyprland.not_holds some ?_ (good.remote session (desk ▸ found) remote)
        simp [removes_of_detachSession performed]

/-- **When the roles leave each other alone.** Along every interleaving of finished operations, both
keep their keybindings exactly as long as neither touches the keybindings while the other has some. -/
theorem undisturbed_iff {start : Desktop} {later : List Desktop} (good : Undisturbed build start)
    (run : (start :: later).IsChain (Step lease build)) :
    (∀ desktop ∈ start :: later, Undisturbed build desktop) ↔
      (start :: later).IsChain fun first second => ¬ Disturbs lease build first second :=
  isChain_forall_iff run good (fun _ _ => undisturbed_step)
    fun _ _ _ _ => not_undisturbed_of_disturbs

end Desktop

/-! ### A remote session and a stream -/

/-- The window of a stream whose window was not found. -/
def moonlight : WindowSelector := .byClass moonlightWindowClass

theorem validate_moonlight : moonlight.validate = .ok () := by decide

/-- A computer before any session. -/
def idle : Desktop := { desk := .started, hyprland := .bare, stream := none }

theorem undisturbed_idle (build : Party → Bool) : Undisturbed build idle where
  remote := nofun
  stream := nofun

/-- The session of a laptop that shows this computer. -/
def laptopSession : ActiveSession :=
  candidate .new ⟨1⟩ "laptop" .remote (some ⟨.v4 100 64 0 1, 47900⟩) moonlight

/-- The computer with the laptop's session. -/
def shown (build : Party → Bool) : Desktop where
  desk := ((((Desk.started.tick 0).mint ⟨1⟩).record .cleared).record (.installed laptopSession)).hold
    { generation := 1, expiresAt := some ((0 : Instant) + defaultLease), active := some laptopSession }
  hyprland := (Hyprland.bare.remove .agent).install .agent (build .agent) laptopSession.keybinds
  stream := none

theorem step_shown (build : Party → Bool) : Step defaultLease build idle (shown build) := by
  have installs (hyprland : Hyprland) :
      installKeybinds .agent (build .agent) laptopSession.keybinds hyprland =
        .ok (hyprland.install .agent (build .agent) laptopSession.keybinds) := by
    unfold installKeybinds
    rw [show laptopSession.keybinds.window.validate = .ok () from validate_moonlight]
  have performed : Ends (coordinatorWorld build)
      ((Call.attach "laptop" .remote (some ⟨.v4 100 64 0 1, 47900⟩) moonlight).program defaultLease)
      (idle.desk, idle.hyprland) (.attached (.ok ⟨⟨1⟩, 1, 45⟩))
      ((shown build).desk, (shown build).hyprland) := by
    refine ends_ask.mpr ⟨_, (_, _), ⟨⟨rfl, rfl⟩, rfl⟩, ?_⟩
    refine ends_ask.mpr ⟨(0 : Nat), (_, _), ⟨⟨Nat.le_refl _, rfl⟩, rfl⟩, ?_⟩
    refine ends_ask.mpr ⟨(), (_, _), ⟨rfl, rfl⟩, ?_⟩
    refine ends_ask.mpr ⟨⟨1⟩, (_, _), ⟨⟨List.not_mem_nil, rfl⟩, rfl⟩, ?_⟩
    refine ends_ask.mpr ⟨.ok (), (_, _), ⟨⟨trivial, rfl⟩, rfl⟩, ?_⟩
    refine ends_ask.mpr ⟨.ok (), (_, _), ⟨⟨trivial, rfl⟩, installs _⟩, ?_⟩
    refine ends_ask.mpr ⟨(), (_, _), ⟨rfl, rfl⟩, ?_⟩
    exact ends_done.mpr ⟨rfl, rfl⟩
  exact .inl ⟨_, ⟨_, performed⟩, rfl⟩

/-- A connection from this computer to a tower. -/
def towerRequest : ConnectRequest where
  endpoint := { address := .v4 100 64 0 2, port := 47900 }
  controllerEndpoint := { address := .v4 100 64 0 3, port := 47900 }
  profile := .default
  fullscreen := true
  inputMode := .remote
  focusWorkspace := none
  focusWindow := none
  autoPair := false

/-- The computer after its stream to the tower has attached. -/
def streaming (build : Party → Bool) (desktop : Desktop) : Desktop where
  desk := desktop.desk
  hyprland := desktop.hyprland.install .stream (build .stream) (streamKeybinds moonlight)
  stream := some moonlight

theorem step_streaming {build : Party → Bool} {desktop : Desktop} (none : desktop.stream = none) :
    StreamStep build desktop (streaming build desktop) := by
  have installs : installKeybinds .stream (build .stream) (streamKeybinds moonlight)
      desktop.hyprland = .ok (streaming build desktop).hyprland := by
    unfold installKeybinds
    rw [show (streamKeybinds moonlight).window.validate = .ok () from validate_moonlight]
    rfl
  have performed : Ends (streamWorld build) (attachSession towerRequest moonlight)
      desktop.hyprland (.ok ⟨⟨2⟩, 1, 45⟩) (streaming build desktop).hyprland := by
    refine ends_ask.mpr ⟨.ok (), _, ⟨rfl, installs⟩, ?_⟩
    refine ends_ask.mpr ⟨.ok (.granted ⟨⟨2⟩, 1, 45⟩), _, rfl, ?_⟩
    exact ends_done.mpr ⟨rfl, rfl⟩
  exact .attach towerRequest moonlight _ performed none rfl rfl

/-- A computer that only streams: the law at that run. -/
theorem undisturbed_iff_streaming :
    let build : Party → Bool := fun _ => false
    (∀ desktop ∈ [idle, streaming build idle], Undisturbed build desktop) ↔
      [idle, streaming build idle].IsChain fun first second =>
        ¬ Disturbs defaultLease build first second := by
  intro build
  have step : Step defaultLease build idle (streaming build idle) := .inr (step_streaming rfl)
  exact undisturbed_iff (undisturbed_idle build) (by simpa using step)

/-- **A stream takes the keybindings of the remote session away**: the laptop's session is still
active, and none of its keybindings is installed. -/
theorem stream_disturbs_remote :
    let build : Party → Bool := fun _ => false
    ∃ after, [idle, shown build, after].IsChain (Step defaultLease build) ∧
      after.desk.state.active = some laptopSession ∧ laptopSession.role = .remote ∧
      ¬ after.hyprland.Holds .agent (build .agent) laptopSession.keybinds ∧
      ¬ ∀ desktop ∈ [idle, shown build, after], Undisturbed build desktop := by
  intro build
  have lost : ¬ (streaming build (shown build)).hyprland.Holds .agent (build .agent)
      laptopSession.keybinds := by
    refine Hyprland.not_holds (mt (sessionBinds_keybinds rfl).mp nofun) fun bind => ?_
    simp [streaming]
  refine ⟨streaming build (shown build), ?_, rfl, rfl, lost, fun good => ?_⟩
  · simp only [List.isChain_cons_cons]
    exact ⟨step_shown build, .inr (step_streaming rfl), .singleton _⟩
  · have last := good (streaming build (shown build)) (by simp)
    exact lost (last.remote _ rfl rfl)

end Omdesky.Roles
