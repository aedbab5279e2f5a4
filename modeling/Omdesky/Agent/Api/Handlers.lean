/-
**Every effect of the control API is gated, handler by handler.**

* `gated_readMetadata`, `gated_runCommand`, `gated_sunshinePair` and the others: each handler makes
  its checks before anything protected.
* `Changes`: the events that touch the desktop, the session, the challenges or Sunshine.
* `handle_gated`: every event of a request, finished or dropped, obeys, and a request that is refused
  at a check changes nothing.
-/

import Omdesky.Agent.Api.Gate

namespace Omdesky.Agent

open Interaction Interaction.Program Platform

section Handlers

variable {config : AgentConfig} {request : HttpRequest} {peer : AuthorizedPeer}
  {past : List AgentEvent}

/-- On a route without a command, the release, the peer and the payload are all there is. -/
theorem passed_of_authenticated {taken : Route} (route : request.route = taken)
    (release : releaseAccepted request.release = true)
    (authenticated : Authenticated config.strictTailnetOnly request.source.ip peer
      (authorizerEvents past))
    (capability : ∀ capability, taken.required = some capability → peer.allows capability = true)
    (payload : taken.Valid) (other : ∀ body, taken ≠ .commands body) :
    Passed config request peer past where
  release := release
  authenticated := authenticated
  capability := route ▸ capability
  payload := route ▸ payload
  fresh := fun _ commands => absurd (route.symm.trans commands) (other _)
  callback := fun _ _ _ _ commands => absurd (route.symm.trans commands) (other _)

theorem consumed_of_route {taken : Route} (route : request.route = taken)
    (other : ∀ body, taken ≠ .pair body) : Consumed request peer past :=
  fun _ pair => absurd (route.symm.trans pair) (other _)

/-- The peer of a route that requires one capability holds it. -/
theorem allows_of_required {taken : Route} {required : ControlCapability}
    (needs : taken.required = some required) (allows : peer.allows required = true) :
    ∀ capability, taken.required = some capability → peer.allows capability = true := by
  intro capability some
  obtain rfl : required = capability := Option.some.inj (needs.symm.trans some)
  exact allows

/-- An unprotected program may follow. -/
theorem uses_of_unprotected {α : Type} {program : AgentM α}
    (uses : Uses (fun use => ¬ Protected use) program) :
    Uses (fun use => Protected use → Suits request peer past use) program :=
  uses.weaken fun _ unprotected isProtected => absurd isProtected unprotected

/-! ### Reading and focus -/

theorem gated_readMetadata {α : Type} {question : AgentM (PortResult α)} {answer : α → ApiReply}
    {taken : Route} (route : request.route = taken)
    (release : releaseAccepted request.release = true)
    (required : taken.required = some .readMetadata) (payload : taken.Valid)
    (command : ∀ body, taken ≠ .commands body) (pair : ∀ body, taken ≠ .pair body)
    (uses : Uses (fun use => ¬ Protected use) question) :
    Gated config request [] (readMetadata config request.source question answer) := by
  unfold readMetadata
  refine gated_authorizePeer fun trace peer authenticated allows => ?_
  have passed : Passed config request peer ([] ++ trace) :=
    passed_of_authenticated route release authenticated (allows_of_required required allows)
      payload command
  exact gated_of_passed passed (consumed_of_route route pair)
    (uses_of_unprotected (uses_run_bind (uses_orFail uses) fun _ => trivial))

theorem gated_node (route : request.route = .node)
    (release : releaseAccepted request.release = true) :
    Gated config request [] (node config request.source) := by
  unfold node
  refine gated_authorizePeer fun trace peer authenticated allows => ?_
  have passed : Passed config request peer ([] ++ trace) :=
    passed_of_authenticated route release authenticated (allows_of_required rfl allows) trivial
      fun _ => Route.noConfusion
  exact gated_of_passed passed (consumed_of_route route fun _ => Route.noConfusion) trivial

theorem gated_capabilities (route : request.route = .capabilities)
    (release : releaseAccepted request.release = true) :
    Gated config request [] (capabilities config request.source) := by
  unfold capabilities
  refine gated_ask (uses_onAuthorizer (fun _ => id) _) fun trace peer run => ?_
  have passed : Passed config request peer ([] ++ trace) :=
    passed_of_authenticated route release (authenticated_onAuthorizer run) nofun trivial
      fun _ => Route.noConfusion
  exact gated_of_passed passed (consumed_of_route route fun _ => Route.noConfusion) trivial

/-- A dispatch of the adapter is the one its checks let through. -/
theorem uses_dispatchFocus {permitted : AgentRequest → Prop} {dispatch : PortResult (List String)}
    (permits : ∀ args, dispatch = .ok args → permitted (.dispatch args)) :
    Uses permitted (dispatchFocus dispatch) := by
  cases dispatch with
  | error error => exact trivial
  | ok args => exact ⟨permits args rfl, fun _ => trivial⟩

theorem gated_focusWorkspace {body : Option WorkspaceTarget}
    (route : request.route = .focusWorkspace body)
    (release : releaseAccepted request.release = true) :
    Gated config request [] (focusWorkspace config request.source body) := by
  unfold focusWorkspace
  cases body with
  | none => exact guarded_throw
  | some target =>
      refine gated_authorizePeer fun trace peer authenticated allows => ?_
      refine gated_check fun _ valid => ?_
      have passed : Passed config request peer ([] ++ trace) :=
        passed_of_authenticated route release authenticated (allows_of_required rfl allows)
          ⟨target, rfl, valid⟩ fun _ => Route.noConfusion
      refine gated_of_passed passed (consumed_of_route route fun _ => Route.noConfusion) ?_
      refine uses_run_bind (uses_orFail (uses_dispatchFocus ?_)) fun _ => trivial
      exact fun args dispatched _ => .inl ⟨target, route, dispatched⟩

theorem gated_focusWindow {windowId : String} (route : request.route = .focusWindow windowId)
    (release : releaseAccepted request.release = true) :
    Gated config request [] (focusWindow config request.source windowId) := by
  unfold focusWindow
  refine gated_authorizePeer fun trace peer authenticated allows => ?_
  -- the adapter itself refuses a window that is no handle, before it dispatches anything
  cases dispatched : focusWindowDispatch windowId with
  | error error => exact guarded_bind trivial fun _ _ run => by obtain ⟨_, ⟨⟩⟩ := run
  | ok args =>
      have passed : Passed config request peer ([] ++ trace) :=
        passed_of_authenticated route release authenticated (allows_of_required rfl allows)
          (isWindowHandle_of_focusWindowDispatch dispatched) fun _ => Route.noConfusion
      refine gated_of_passed passed (consumed_of_route route fun _ => Route.noConfusion) ?_
      refine uses_run_bind (uses_orFail (uses_dispatchFocus ?_)) fun _ => trivial
      rintro args ⟨⟩ _
      exact .inr ⟨windowId, route, dispatched⟩

/-! ### Pairing -/

theorem gated_sunshinePairChallenge (route : request.route = .pairChallenge)
    (release : releaseAccepted request.release = true) :
    Gated config request [] (sunshinePairChallenge config request.source) := by
  unfold sunshinePairChallenge
  refine gated_authorizePeer fun trace peer authenticated allows => ?_
  have passed : Passed config request peer ([] ++ trace) :=
    passed_of_authenticated route release authenticated (allows_of_required rfl allows) trivial
      fun _ => Route.noConfusion
  refine gated_of_passed passed (consumed_of_route route fun _ => Route.noConfusion) ?_
  refine uses_run_bind (uses_orFail (Uses.within ?_)) fun _ => trivial
  simp only [issue, await, perform_bind]
  refine ⟨fun _ => .inl ⟨route, 0, .inl rfl⟩, fun now => ?_⟩
  refine ⟨fun _ => .inl ⟨route, now, .inr (.inl rfl)⟩, fun admitted => ?_⟩
  cases admitted with
  | error error => exact trivial
  | ok admitted => exact ⟨fun _ => .inl ⟨route, now, .inr (.inr rfl)⟩, fun _ => trivial⟩

/-- An accepted consume has taken the challenge of its owner. -/
theorem take_of_consume {owner pairingId : String} {trace : List AgentEvent}
    (run : Traces (onChallenges (consume owner pairingId)) trace (.ok ())) :
    ∃ now, ⟨.pairing (.take owner pairingId now), .ok ()⟩ ∈ trace := by
  obtain ⟨inner, rfl, now, rest, rfl, taken, _, rfl, rfl, rfl⟩ := traces_within.mp run
  exact ⟨now, List.mem_cons_of_mem _ List.mem_cons_self⟩

theorem gated_sunshinePair {body : Option SunshinePairRequest} (route : request.route = .pair body)
    (release : releaseAccepted request.release = true) :
    Gated config request [] (sunshinePair config request.source body) := by
  unfold sunshinePair
  cases body with
  | none => exact guarded_throw
  | some body =>
      refine gated_authorizePeer fun trace peer authenticated allows => ?_
      refine gated_check fun _ valid => ?_
      have passed : Passed config request peer ([] ++ trace) :=
        passed_of_authenticated route release authenticated (allows_of_required rfl allows)
          ⟨body, rfl, valid⟩ fun _ => Route.noConfusion
      refine guarded_bind (along_of_passed passed (uses_orFail (Uses.within ?_))) ?_
      · refine ⟨fun _ => .inr ⟨body, route, 0, .inl rfl⟩, fun now => ?_⟩
        exact ⟨fun _ => .inr ⟨body, route, now, .inr rfl⟩, fun _ => trivial⟩
      · intro taken _ run
        obtain ⟨now, member⟩ := take_of_consume (traces_orFail.mp run)
        have consumed : ⟨.pairing (.take peer.tailnetNodeId body.pairingId now), .ok ()⟩ ∈
            [] ++ trace ++ taken := List.mem_append_right _ member
        refine gated_of_passed (passed.mono (List.subset_append_left _ _)) ?_ ?_
        · intro other same
          obtain ⟨⟩ := route.symm.trans same
          exact ⟨now, consumed⟩
        · refine uses_run_bind (uses_orFail ⟨fun _ => ?_, fun _ => trivial⟩) fun _ => ?_
          · exact ⟨body, route, rfl, rfl, now, consumed⟩
          · exact ⟨nofun, fun _ => trivial⟩

/-! ### Session commands -/

/-- What the checks on the controller of an attach have established. -/
def ControllerChecked (source : SocketAddr) (controller : Option SessionEndpoint)
    (past : List AgentEvent) : Prop :=
  ∀ endpoint, controller = some endpoint → endpoint.address = source.ip ∧
    ∃ granted : List ControlCapability,
      ⟨.grantedCapabilities { address := source.ip, port := endpoint.port }, .ok granted⟩ ∈ past ∧
        ∀ capability ∈ ControlCapability.callback, capability ∈ granted

theorem uses_checkController (source : SocketAddr) (controller : Option SessionEndpoint) :
    Uses (fun use => ¬ Protected use) (checkController source controller).run := by
  cases controller with
  | none => exact trivial
  | some endpoint =>
      unfold checkController
      refine uses_run_bind trivial fun controller => ?_
      refine uses_run_bind ?_ fun _ => trivial
      exact uses_run_bind (uses_orFail ⟨id, fun _ => trivial⟩) fun _ => trivial

theorem controllerChecked_of_traces {source : SocketAddr} {controller : Option SessionEndpoint}
    {trace : List AgentEvent} {result : Option AgentEndpoint}
    (run : Traces (checkController source controller).run trace (.ok result)) :
    ControllerChecked source controller trace := by
  rintro endpoint rfl
  unfold checkController at run
  obtain ⟨_, ⟨⟩, _⟩ | ⟨_, rest, target, rfl, addressed, later⟩ := traces_run_bind.mp run
  obtain ⟨rfl, address⟩ := traces_check.mp addressed
  obtain ⟨_, ⟨⟩, _⟩ | ⟨probe, _, _, rfl, verified, rfl, _⟩ := traces_run_bind.mp later
  -- the endpoint is the source's own address, and its answer grants every callback
  unfold callbackEndpoint at address
  split at address <;> rename_i same
  · cases address
  obtain ⟨⟩ := address
  unfold verifyCallbackAccess at verified
  obtain ⟨_, ⟨⟩, _⟩ | ⟨_, _, granted, rfl, asked, complete⟩ := traces_run_bind.mp verified
  obtain ⟨_, _, rfl, rfl, ⟨⟩⟩ := traces_orFail.mp asked
  obtain ⟨rfl, granting⟩ := traces_check.mp complete
  split at granting <;> rename_i missing
  · refine ⟨by simpa using same, granted, List.mem_cons_self, fun capability member => ?_⟩
    have present := List.filter_eq_nil_iff.mp missing capability member
    simpa using present
  · cases granting

/-- An attach installs nothing but the session it was asked for, for its owner. -/
theorem uses_attach (lease : Duration) (owner : String) (role : SessionRole)
    (controller : Option AgentEndpoint) (window : WindowSelector) :
    Uses (fun use => ∀ session, use = .install session →
      session.owner = owner ∧ session.window = window ∧ session.controller = controller)
      (attach lease owner role controller window) := by
  simp only [attach, lock, instant, store, newSessionId, clear, install, perform_bind]
  refine ⟨nofun, fun state => ⟨nofun, fun now => ?_⟩⟩
  dsimp only
  split
  · exact trivial
  · refine ⟨nofun, fun _ => ⟨nofun, fun id => ⟨nofun, fun _ => ⟨?_, fun installed => ?_⟩⟩⟩⟩
    · rintro session ⟨⟩
      exact ⟨rfl, rfl, rfl⟩
    · cases installed with
      | error error => exact ⟨nofun, fun _ => ⟨nofun, fun _ => trivial⟩⟩
      | ok value => exact ⟨nofun, fun _ => trivial⟩

theorem uses_detach (owner : String) (claim : SessionClaim) :
    Uses (fun use => ∀ session, use = .install session → session.owner = owner)
      (detach owner claim) := by
  simp only [detach, lock, store, clear, perform_bind]
  refine ⟨nofun, fun state => ?_⟩
  dsimp only
  split
  · exact trivial
  · split
    · exact trivial
    · split
      · exact trivial
      · refine ⟨nofun, fun cleared => ?_⟩
        cases cleared with
        | error error => exact trivial
        | ok value => exact ⟨nofun, fun _ => trivial⟩

theorem uses_renew (lease : Duration) (owner : String) (claim : SessionClaim) :
    Uses (fun use => ∀ session, use = .install session → session.owner = owner)
      (renew lease owner claim) := by
  simp only [renew, lock, instant, store, perform_bind]
  refine ⟨nofun, fun state => ?_⟩
  dsimp only
  split
  · exact trivial
  · split
    · exact trivial
    · split
      · exact trivial
      · refine ⟨nofun, fun now => ?_⟩
        dsimp only
        split
        · exact trivial
        · exact ⟨nofun, fun _ => trivial⟩

/-- An operation of the coordinator on behalf of a session command. -/
theorem uses_onSessions {α : Type} {body : CommandRequest} {program : SessionM α}
    (route : request.route = .commands (some body)) (control : body.command.isSessionControl = true)
    (uses : Uses (fun use => ∀ session, use = .install session →
      session.owner = peer.tailnetNodeId) program) :
    Uses (fun use => Protected use → Suits request peer past use) (onSessions program) := by
  refine Uses.within (uses.weaken fun use owned _ => ⟨body, route, ?_, owned⟩)
  intro other
  rw [control] at other
  cases other

section Commands

variable {body : CommandRequest}

/-- On the command route, everything but the callbacks is known before the command is applied. -/
structure Admitted (config : AgentConfig) (request : HttpRequest) (body : CommandRequest)
    (peer : AuthorizedPeer) (past : List AgentEvent) : Prop where
  route : request.route = .commands (some body)
  release : releaseAccepted request.release = true
  authenticated : Authenticated config.strictTailnetOnly request.source.ip peer
    (authorizerEvents past)
  allows : peer.allows body.command.requiredCapability = true
  valid : body.command.validate = .ok ()
  fresh : ⟨.admitRequest body.requestId body.issuedAt, .ok ()⟩ ∈ past

theorem Admitted.passed (admitted : Admitted config request body peer past)
    (callback : ∀ role endpoint window, body.command = .attachSession role (some endpoint) window →
      ControllerChecked request.source (some endpoint) past) :
    Passed config request peer past where
  release := admitted.release
  authenticated := admitted.authenticated
  capability := by
    rw [admitted.route]
    exact allows_of_required rfl admitted.allows
  payload := by
    rw [admitted.route]
    exact ⟨body, rfl, admitted.valid⟩
  fresh := by
    intro other same
    obtain ⟨⟩ := admitted.route.symm.trans same
    exact admitted.fresh
  callback := by
    intro other role endpoint window same attach
    obtain ⟨⟩ := admitted.route.symm.trans same
    exact callback role endpoint window attach endpoint rfl

theorem Admitted.mono {more : List AgentEvent} (admitted : Admitted config request body peer past)
    (sub : past ⊆ more) : Admitted config request body peer more where
  route := admitted.route
  release := admitted.release
  authenticated := admitted.authenticated.mono (authorizerEvents_mono sub)
  allows := admitted.allows
  valid := admitted.valid
  fresh := sub admitted.fresh

/-- A program that suits an admitted command which is no attach. -/
theorem Admitted.gated {α : Type} {program : ApiM α}
    (admitted : Admitted config request body peer past)
    (callback : ∀ role endpoint window, body.command = .attachSession role (some endpoint) window →
      ControllerChecked request.source (some endpoint) past)
    (uses : Uses (fun use => Protected use → Suits request peer past use) program.run) :
    Gated config request past program :=
  gated_of_passed (admitted.passed callback)
    (consumed_of_route admitted.route fun _ => Route.noConfusion) uses

theorem gated_applySessionCommand (admitted : Admitted config request body peer past)
    (control : body.command.isSessionControl = true) :
    Gated config request past
      (applySessionCommand config peer request.source body.command body.session) := by
  have route := admitted.route
  cases command : body.command with
  | attachSession role controller window =>
      refine guarded_bind (along_of_unprotected (uses_checkController _ _)) ?_
      intro trace target run
      have sub : past ⊆ past ++ trace := List.subset_append_left _ _
      refine (admitted.mono sub).gated ?_ ?_
      · rintro other endpoint name attach
        rw [command] at attach
        obtain ⟨⟩ := attach
        rintro _ ⟨⟩
        obtain ⟨same, granted, member, all⟩ := controllerChecked_of_traces run endpoint rfl
        exact ⟨same, granted, List.mem_append_right _ member, all⟩
      · have owns := (uses_attach config.lease peer.tailnetNodeId role target
          (window.getD (.byClass moonlightWindowClass))).weaken
            fun _ installs session install => (installs session install).1
        exact uses_run_bind (uses_orFail (uses_onSessions route control owns)) fun _ => trivial
  | detachSession =>
      refine admitted.gated (by rw [command]; exact nofun) ?_
      refine uses_run_bind trivial fun claim => ?_
      refine uses_run_bind (uses_orFail (uses_onSessions route control (uses_detach _ _))) ?_
      rintro (_ | _) <;> exact trivial
  | renewSession =>
      refine admitted.gated (by rw [command]; exact nofun) ?_
      refine uses_run_bind trivial fun claim => ?_
      exact uses_run_bind (uses_orFail (uses_onSessions route control (uses_renew _ _ _)))
        fun _ => trivial
  | sendShortcut chord window =>
      rw [command] at control
      cases control
  | closeWindow window =>
      rw [command] at control
      cases control
  | switchStreamDisplay display =>
      rw [command] at control
      cases control

/-! ### Commands -/

/-- A check of data at hand lets only a good value on. -/
theorem uses_check_bind {ε α β : Type} {permitted : AgentRequest → Prop} {convert : ε → ApiError}
    {result : Except ε α} {second : α → ApiM β}
    (late : ∀ value, result = .ok value → Uses permitted (second value).run) :
    Uses permitted (check convert result >>= second).run := by
  cases result with
  | error error => exact trivial
  | ok value => exact late value rfl

theorem uses_sendDebugNotification {permitted : AgentRequest → Prop} (config : AgentConfig)
    (text : String) (notifies : ∀ notification, permitted (.notify notification)) :
    Uses permitted (sendDebugNotification config text) := by
  unfold sendDebugNotification
  split
  · exact ⟨notifies _, fun _ => trivial⟩
  · exact trivial

/-- What the local branch of `run_command` asks: besides notices and the displays of the other side,
only the command itself, or the shortcut a display switch resolves to. -/
theorem uses_handleHere {permitted : AgentRequest → Prop} {source : SocketAddr}
    {command : RemoteCommand} (notifies : ∀ notification, permitted (.notify notification))
    (asks : ∀ endpoint, permitted (.remoteDisplays endpoint))
    (executes : ∀ executed, (executed = command ∨ ∃ display chord,
      command = .switchStreamDisplay display ∧
        executed = .sendShortcut chord (.byClass moonlightWindowClass)) →
      permitted (.execute executed)) :
    Uses permitted (handleHere config source command).run := by
  have debug (text : String) :
      Uses permitted (liftM (sendDebugNotification config text) : ApiM Unit).run :=
    uses_bind (uses_sendDebugNotification config text notifies) fun _ => trivial
  unfold handleHere
  split
  · rename_i display
    unfold switchDisplayHere
    refine uses_run_bind (debug _) fun _ => ?_
    refine uses_run_bind (uses_orFail ⟨asks _, fun _ => trivial⟩) fun displays => ?_
    refine uses_check_bind fun shortcut resolved => ?_
    obtain ⟨chord, rfl⟩ := sendShortcut_of_resolve resolved
    have permits := executes _ (.inr ⟨display, chord, rfl, rfl⟩)
    refine uses_run_bind ⟨permits, fun _ => trivial⟩ fun outcome => ?_
    refine uses_run_bind (debug _) fun _ => ?_
    exact uses_run_bind trivial fun _ => trivial
  · unfold executeHere
    refine uses_run_bind (uses_orFail ⟨executes _ (.inl rfl), fun _ => trivial⟩) fun _ => ?_
    split
    · exact trivial
    · exact ⟨notifies _, fun _ => trivial⟩

/-- What `run_command` does with a command that controls no session: it is relayed, or handled here. -/
theorem uses_routeCommand {permitted : AgentRequest → Prop} {source : SocketAddr}
    {command : RemoteCommand} (notifies : ∀ notification, permitted (.notify notification))
    (asks : ∀ endpoint, permitted (.remoteDisplays endpoint))
    (executes : ∀ executed, (executed = command ∨ ∃ display chord,
      command = .switchStreamDisplay display ∧
        executed = .sendShortcut chord (.byClass moonlightWindowClass)) →
      permitted (.execute executed))
    (relays : ∀ controller, permitted (.relay controller command)) (session : Option ActiveSession) :
    Uses permitted (routeCommand config source command session).run := by
  have here : Uses permitted (handleHere config source command).run :=
    uses_handleHere notifies asks executes
  unfold routeCommand
  split
  · split
    · refine uses_check_bind fun controller found => ?_
      exact uses_run_bind (uses_orFail ⟨relays _, fun _ => trivial⟩) fun _ => trivial
    · exact here
  · exact here

/-- A snapshot only reads. -/
theorem uses_snapshot : Uses (fun use => use = .lock ∨ use = .instant) snapshot := by
  simp only [snapshot, lock, instant, perform_bind]
  refine ⟨.inl rfl, fun state => ⟨.inr rfl, fun now => ?_⟩⟩
  dsimp only
  split <;> exact trivial

theorem gated_applyCommand (admitted : Admitted config request body peer past) :
    Gated config request past (applyCommand config peer request.source body) := by
  unfold applyCommand
  split <;> rename_i control
  · exact gated_applySessionCommand admitted control
  · have other : body.command.isSessionControl = false := Bool.eq_false_iff.mpr control
    refine admitted.gated ?_ ?_
    · intro role endpoint window attach
      rw [attach] at other
      cases other
    · have reads (use : SessionRequest) (only : use = .lock ∨ use = .instant) :
          Protected (.session use) → Suits request peer past (.session use) := by
        refine fun _ => ⟨body, admitted.route, fun _ => only, ?_⟩
        rintro session rfl
        rcases only with ⟨⟨⟩⟩ | ⟨⟨⟩⟩
      refine uses_run_bind (uses_bind (Uses.within (uses_snapshot.weaken reads)) fun _ => trivial)
        fun session => ?_
      refine uses_routeCommand ?_ ?_ ?_ ?_ session
      · exact fun _ => nofun
      · exact fun _ => nofun
      · exact fun executed suits _ => ⟨body, admitted.route, other, suits⟩
      · exact fun _ _ => ⟨body, admitted.route, other, rfl⟩

end Commands

theorem gated_runCommand {body : Option CommandRequest} (route : request.route = .commands body)
    (release : releaseAccepted request.release = true) :
    Gated config request [] (runCommand config request.source body) := by
  unfold runCommand
  cases body with
  | none => exact guarded_throw
  | some body =>
      refine gated_authorizePeer fun trace peer authenticated allows => ?_
      refine gated_check fun _ valid => ?_
      refine gated_ask ⟨id, fun _ => trivial⟩ fun fresh _ run => ?_
      obtain ⟨_, _, rfl, rfl, ⟨⟩⟩ := run
      have admitted : Admitted config request body peer ([] ++ trace ++
          [⟨.admitRequest body.requestId body.issuedAt, .ok ()⟩]) :=
        { route, release, allows, valid
          authenticated := authenticated.mono (authorizerEvents_mono (List.subset_append_left _ _))
          fresh := List.mem_append_right _ List.mem_cons_self }
      have applied := gated_applyCommand admitted
      exact guarded_bind applied.along fun after response run =>
        guarded_pure (applied.returns after response run)

/-! ### Every route -/

theorem gated_handler (controlled : request.route ≠ .health)
    (release : releaseAccepted request.release = true) :
    Gated config request [] (handler config request.source request.route) := by
  cases route : request.route with
  | health => exact absurd route controlled
  | node => exact gated_node route release
  | capabilities => exact gated_capabilities route release
  | displays =>
      exact gated_readMetadata route release rfl trivial (fun _ => Route.noConfusion)
        (fun _ => Route.noConfusion) ⟨id, fun _ => trivial⟩
  | workspaces =>
      exact gated_readMetadata route release rfl trivial (fun _ => Route.noConfusion)
        (fun _ => Route.noConfusion) ⟨id, fun _ => trivial⟩
  | focusWorkspace body => exact gated_focusWorkspace route release
  | windows filter =>
      exact gated_readMetadata route release rfl trivial (fun _ => Route.noConfusion)
        (fun _ => Route.noConfusion) ⟨id, fun _ => trivial⟩
  | activeWindow =>
      exact gated_readMetadata route release rfl trivial (fun _ => Route.noConfusion)
        (fun _ => Route.noConfusion) ⟨id, fun _ => trivial⟩
  | focusWindow windowId => exact gated_focusWindow route release
  | commands body => exact gated_runCommand route release
  | sunshine =>
      exact gated_readMetadata route release rfl trivial (fun _ => Route.noConfusion)
        (fun _ => Route.noConfusion) ⟨id, fun _ => trivial⟩
  | pairChallenge => exact gated_sunshinePairChallenge route release
  | pair body => exact gated_sunshinePair route release

theorem gated_handle (controlled : request.route ≠ .health) :
    Gated config request [] (handle config request) := by
  unfold handle
  rw [if_neg controlled]
  refine gated_check fun _ accepted => gated_handler controlled ?_
  split at accepted <;> rename_i release
  · exact release
  · cases accepted

/-- The events that change something: the protected ones, except that the clock was read for a
challenge or that a consume was refused. -/
def Changes : AgentEvent → Prop
  | ⟨.pairing .instant, _⟩ => False
  | ⟨.pairing (.take _ _ _), .error _⟩ => False
  | ⟨use, _⟩ => Protected use

theorem Changes.isProtected {event : AgentEvent} (changes : Changes event) : Protected event.1 := by
  unfold Changes at changes
  split at changes
  · exact changes.elim
  · exact changes.elim
  · exact changes

/-- What changes something on the pairing route has consumed a challenge of the peer. -/
theorem consumed_of_changes {body : SunshinePairRequest} {event : AgentEvent}
    (route : request.route = .pair (some body)) (suits : Suits request peer past event.1)
    (changes : Changes event) (trace : List AgentEvent) (sub : past ⊆ trace)
    (member : event ∈ trace) :
    ∃ now, ⟨.pairing (.take peer.tailnetNodeId body.pairingId now), .ok ()⟩ ∈ trace := by
  obtain ⟨use, answer⟩ := event
  cases use with
  | pairing use =>
      rcases suits with ⟨other, _⟩ | ⟨other, same, now, rfl | rfl⟩
      · cases route.symm.trans other
      · exact changes.elim
      · obtain ⟨⟩ := route.symm.trans same
        cases answer with
        | error error => exact changes.elim
        | ok value => exact ⟨now, member⟩
  | submitPin pin clientName =>
      obtain ⟨other, same, _, _, now, taken⟩ := suits
      obtain ⟨⟩ := route.symm.trans same
      exact ⟨now, sub taken⟩
  | dispatch args =>
      rcases suits with ⟨target, other, _⟩ | ⟨windowId, other, _⟩ <;> cases route.symm.trans other
  | execute command =>
      obtain ⟨other, same, _⟩ := suits
      cases route.symm.trans same
  | relay controller command =>
      obtain ⟨other, same, _⟩ := suits
      cases route.symm.trans same
  | session use =>
      obtain ⟨other, same, _⟩ := suits
      cases route.symm.trans same
  | _ => exact changes.elim

/-- **Every effect of the control API is gated.** Whatever the surroundings answer, and wherever a
handler is dropped, a protected request is made only when everything has passed; and a request that
does not pass is answered with an error and changes nothing. -/
theorem handle_gated (config : AgentConfig) (request : HttpRequest)
    (controlled : request.route ≠ .health) :
    Along (Obeys config request) [] (handle config request).run ∧
    ∀ trace result, Traces (handle config request).run trace result →
      (∀ peer, ¬ (Passed config request peer trace ∧ Consumed request peer trace)) →
        (∃ error, result = .error error) ∧ ∀ event ∈ trace, ¬ Changes event := by
  obtain ⟨along, returns⟩ := @gated_handle config request controlled
  refine ⟨along, fun trace result run refused => ⟨?_, fun event member changes => ?_⟩⟩
  · cases result with
    | error error => exact ⟨error, rfl⟩
    | ok value =>
        obtain ⟨peer, passed, consumed⟩ := returns trace value run
        exact absurd ⟨passed, consumed⟩ (refused peer)
  · obtain ⟨before, after, rfl⟩ := List.append_of_mem member
    have sub : before ⊆ before ++ event :: after := List.subset_append_left _ _
    obtain ⟨peer, passed, suits⟩ :=
      along.of_traces run before event after rfl changes.isProtected
    refine refused peer ⟨passed.mono sub, fun body route => ?_⟩
    exact consumed_of_changes route suits changes _ sub member

end Handlers

/-- An agent as it is started by default. -/
def deskConfig : AgentConfig where
  strictTailnetOnly := true
  agentPort := 47900
  lease := defaultLease
  challengeTtl := challengeTtl
  debugAssertions := false

/-- A request to focus a window, and what the agent does for it. -/
theorem handle_gated_focus :
    let request : HttpRequest := ⟨.focusWindow "0x1f", some "0.2.9", ⟨.v4 100 64 0 7, 51234⟩⟩
    (∃ trace, Traces (handle deskConfig request).run trace (.ok .focused) ∧
      ⟨.dispatch ["focuswindow", "address:0x1f"], .ok ()⟩ ∈ trace) ∧
    Along (Obeys deskConfig request) [] (handle deskConfig request).run ∧
    ∀ trace result, Traces (handle deskConfig request).run trace result →
      (∀ peer, ¬ (Passed deskConfig request peer trace ∧ Consumed request peer trace)) →
        (∃ error, result = .error error) ∧ ∀ event ∈ trace, ¬ Changes event := by
  intro request
  let entry : AllowedController := ⟨"laptop", none, 0, [.focusWorkspace]⟩
  have authorized : Traces (authorize true (.v4 100 64 0 7) .focusWorkspace)
      [⟨.limit (.v4 100 64 0 7), true⟩,
        ⟨.instant, (0 : Nat)⟩,
        ⟨.cachedIdentity (.v4 100 64 0 7), some ⟨"laptop", 0⟩⟩,
        ⟨.instant, (0 : Nat)⟩,
        ⟨.cachedAllowlist, some ⟨[entry], 0⟩⟩] (.ok ⟨"laptop", [.focusWorkspace]⟩) :=
    ⟨true, _, rfl, _, _, rfl, _, _, rfl, _, _, rfl, _, _, rfl, rfl, rfl⟩
  have run : Traces (handle deskConfig request).run _ (.ok .focused) :=
    traces_run_bind.mpr (.inr ⟨[], _, (), rfl, traces_check.mpr ⟨rfl, by decide⟩,
      traces_run_bind.mpr (.inr ⟨_, [⟨.dispatch ["focuswindow", "address:0x1f"], .ok ()⟩], _, rfl,
        traces_orFail.mpr (traces_within.mpr ⟨_, rfl, authorized⟩), _, _, rfl, rfl, rfl⟩)⟩)
  exact ⟨⟨_, run, by simp⟩, handle_gated deskConfig request (by decide)⟩

end Omdesky.Agent
