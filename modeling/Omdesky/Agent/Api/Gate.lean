/-
**Every effect of the control API is gated.**

* `Authenticated`: what a successful authentication has checked, read off its events.
* `Passed`: everything a request has to pass on its route: the release, the peer and its capability,
  the payload, the replay guard and the callbacks.
* `Protected`, `Suits`: the requests a handler makes only then, and which of them belong to a route.
* `Gated`: all events of a program obey this, and it returns only if the request has passed.
* `gated_check`, `gated_ask`, `gated_authorizePeer`, `gated_of_passed`: the rules for the checks and
  for what follows them.
-/

import Omdesky.Agent.Api

namespace Omdesky.Agent

open Interaction Interaction.Program Platform

/-! ### What authentication has checked -/

/-- An event of the authorizer. -/
abbrev AuthorizerEvent := Event AuthorizerRequest AuthorizerAnswer

/-- An event of a handler. -/
abbrev AgentEvent := Event AgentRequest AgentAnswer

/-- The events tell that the source address belongs to the node. -/
def TellsNode (source : IpAddr) (node : String) (events : List AuthorizerEvent) : Prop :=
  (∃ cached : CachedIdentity, ⟨.cachedIdentity source, some cached⟩ ∈ events ∧
    cached.tailnetNodeId = node) ∨
  ∃ started identity, ⟨.endLookup source started, .found (some identity)⟩ ∈ events ∧
    identity.tailnetNodeId = node

/-- The events tell what the allowlist holds. -/
def TellsAllowlist (entries : List AllowedController) (events : List AuthorizerEvent) : Prop :=
  (∃ cached : CachedAllowlist, ⟨.cachedAllowlist, some cached⟩ ∈ events ∧
    cached.entries = entries) ∨
  ∃ started, ⟨.endRead started, .ok entries⟩ ∈ events

/-- The source may be used, passed the rate limiter, and belongs to a node of the allowlist. -/
structure Authenticated (strictTailnetOnly : Bool) (source : IpAddr) (peer : AuthorizedPeer)
    (events : List AuthorizerEvent) : Prop where
  tailnet : strictTailnetOnly = true → isTailscaleAddress source = true
  limited : ⟨.limit source, true⟩ ∈ events
  identified : TellsNode source peer.tailnetNodeId events
  listed : ∃ entries, TellsAllowlist entries events ∧
    (entryOf entries peer.tailnetNodeId).map AllowedController.capabilities =
      some peer.capabilities

theorem TellsNode.mono {source : IpAddr} {node : String} {events more : List AuthorizerEvent}
    (tells : TellsNode source node events) (sub : events ⊆ more) : TellsNode source node more := by
  rcases tells with ⟨cached, member, same⟩ | ⟨started, identity, member, same⟩
  · exact .inl ⟨cached, sub member, same⟩
  · exact .inr ⟨started, identity, sub member, same⟩

theorem TellsAllowlist.mono {entries : List AllowedController} {events more : List AuthorizerEvent}
    (tells : TellsAllowlist entries events) (sub : events ⊆ more) : TellsAllowlist entries more := by
  rcases tells with ⟨cached, member, same⟩ | ⟨started, member⟩
  · exact .inl ⟨cached, sub member, same⟩
  · exact .inr ⟨started, sub member⟩

theorem Authenticated.mono {strictTailnetOnly : Bool} {source : IpAddr} {peer : AuthorizedPeer}
    {events more : List AuthorizerEvent}
    (authenticated : Authenticated strictTailnetOnly source peer events) (sub : events ⊆ more) :
    Authenticated strictTailnetOnly source peer more := by
  obtain ⟨tailnet, limited, identified, entries, tells, listed⟩ := authenticated
  exact ⟨tailnet, sub limited, identified.mono sub, entries, tells.mono sub, listed⟩

theorem tellsNode_of_identify {source : IpAddr} {node : String} {events : List AuthorizerEvent}
    (run : Traces (identify source) events (.ok node)) : TellsNode source node events := by
  simp only [identify, lookUp, consult, perform_bind] at run
  obtain ⟨now, _, rfl, cached, _, rfl, run⟩ := run
  dsimp only at run
  split at run <;> rename_i found fresh
  · obtain ⟨rfl, ⟨⟩⟩ := run
    obtain ⟨rfl, _⟩ := Option.filter_eq_some_iff.mp fresh
    exact .inl ⟨found, by simp, rfl⟩
  · obtain ⟨acquired, _, rfl, run⟩ := run
    cases acquired with
    | false =>
        obtain ⟨_, ⟨⟩⟩ := run
    | true =>
        obtain ⟨started, _, rfl, result, _, rfl, _, _, rfl, run⟩ := run
        rcases result with _ | error | (_ | identity)
        · obtain ⟨_, ⟨⟩⟩ := run
        · obtain ⟨_, ⟨⟩⟩ := run
        · obtain ⟨_, ⟨⟩⟩ := run
        · dsimp only at run
          split at run
          · obtain ⟨_, ⟨⟩⟩ := run
          · obtain ⟨_, _, rfl, rfl, ⟨⟩⟩ := run
            exact .inr ⟨started, identity, by simp, rfl⟩

theorem tellsAllowlist_of_allowlist {entries : List AllowedController}
    {events : List AuthorizerEvent} (run : Traces allowlist events (.ok entries)) :
    TellsAllowlist entries events := by
  simp only [allowlist, consult, perform_bind] at run
  obtain ⟨now, _, rfl, cached, _, rfl, run⟩ := run
  dsimp only at run
  split at run <;> rename_i found fresh
  · obtain ⟨rfl, ⟨⟩⟩ := run
    obtain ⟨rfl, _⟩ := Option.filter_eq_some_iff.mp fresh
    exact .inl ⟨found, by simp, rfl⟩
  · obtain ⟨started, _, rfl, result, _, rfl, run⟩ := run
    cases result with
    | error error =>
        obtain ⟨_, ⟨⟩⟩ := run
    | ok read =>
        obtain ⟨_, _, rfl, rfl, ⟨⟩⟩ := run
        exact .inr ⟨started, by simp⟩

theorem authenticated_of_traces {strictTailnetOnly : Bool} {source : IpAddr}
    {peer : AuthorizedPeer} {events : List AuthorizerEvent}
    (run : Traces (authenticate strictTailnetOnly source) events (.ok peer)) :
    Authenticated strictTailnetOnly source peer events := by
  simp only [authenticate, consult, perform_bind] at run
  split at run <;> rename_i outside
  · obtain ⟨_, ⟨⟩⟩ := run
  obtain ⟨admitted, _, rfl, run⟩ := run
  cases admitted with
  | false =>
      obtain ⟨_, ⟨⟩⟩ := run
  | true =>
      obtain ⟨asked, rest, node, rfl, identify, run⟩ := traces_bind.mp run
      cases node with
      | error error =>
          obtain ⟨_, ⟨⟩⟩ := run
      | ok node =>
          obtain ⟨listed, rest, entries, rfl, allowlist, run⟩ := traces_bind.mp run
          cases entries with
          | error error =>
              obtain ⟨_, ⟨⟩⟩ := run
          | ok entries =>
              dsimp only at run
              split at run <;> rename_i found
              · obtain ⟨_, ⟨⟩⟩ := run
              · rename_i entry
                obtain ⟨rfl, ⟨⟩⟩ := run
                have named : entry.tailnetNodeId = node := by simpa using List.find?_some found
                refine ⟨?_, List.mem_cons_self, ?_, entries, ?_, ?_⟩
                · intro strict
                  subst strict
                  simpa using outside
                · rw [named]
                  refine (tellsNode_of_identify identify).mono ?_
                  exact fun event member => by simp [member]
                · refine (tellsAllowlist_of_allowlist allowlist).mono ?_
                  exact fun event member => by simp [member]
                · rw [named, found, Option.map_some]

/-! ### What a request has to pass -/

/-- The capability the action of a route requires. -/
def Route.required : Route → Option ControlCapability
  | .health | .capabilities => none
  | .node | .displays | .workspaces | .windows _ | .activeWindow | .sunshine => some .readMetadata
  | .focusWorkspace _ | .focusWindow _ => some .focusWorkspace
  | .commands body => body.map fun request => request.command.requiredCapability
  | .pairChallenge | .pair _ => some .approvePairing

/-- The payload of a route decodes and passes its validation. -/
def Route.Valid : Route → Prop
  | .focusWorkspace body => ∃ target, body = some target ∧ validateWorkspaceTarget target = .ok ()
  | .focusWindow windowId => isWindowHandle windowId = true
  | .commands body => ∃ request, body = some request ∧ request.command.validate = .ok ()
  | .pair body => ∃ request, body = some request ∧ request.validate = .ok ()
  | _ => True

/-- The events of the authorizer among those of a handler. -/
def authorizerEvents (past : List AgentEvent) : List AuthorizerEvent :=
  past.filterMap fun
    | ⟨.authorizer request, answer⟩ => some ⟨request, answer⟩
    | _ => none

/-- **Everything a request has to pass**, as it shows in the events so far. -/
structure Passed (config : AgentConfig) (request : HttpRequest) (peer : AuthorizedPeer)
    (past : List AgentEvent) : Prop where
  release : releaseAccepted request.release = true
  authenticated : Authenticated config.strictTailnetOnly request.source.ip peer
    (authorizerEvents past)
  capability : ∀ capability, request.route.required = some capability →
    peer.allows capability = true
  payload : request.route.Valid
  fresh : ∀ body, request.route = .commands (some body) →
    ⟨.admitRequest body.requestId body.issuedAt, .ok ()⟩ ∈ past
  callback : ∀ body role endpoint window, request.route = .commands (some body) →
    body.command = .attachSession role (some endpoint) window →
      endpoint.address = request.source.ip ∧
      ∃ granted : List ControlCapability,
        ⟨.grantedCapabilities { address := request.source.ip, port := endpoint.port },
          .ok granted⟩ ∈ past ∧ ∀ capability ∈ ControlCapability.callback, capability ∈ granted

/-- The requests that only a request which has passed may cause: a focus change, a command executed
or relayed, any use of the session or of the pairing challenges, and a PIN. -/
def Protected : AgentRequest → Prop
  | .dispatch _ | .execute _ | .relay _ _ | .session _ | .pairing _ | .submitPin _ _ => True
  | _ => False

/-- The protected request belongs to this route, is the one its payload asks for, and acts for this
peer; a PIN follows a challenge of the peer that was consumed. -/
def Suits (request : HttpRequest) (peer : AuthorizedPeer) (past : List AgentEvent) :
    AgentRequest → Prop
  | .dispatch args =>
      (∃ target, request.route = .focusWorkspace (some target) ∧
        focusWorkspaceDispatch target = .ok args) ∨
      ∃ windowId, request.route = .focusWindow windowId ∧ focusWindowDispatch windowId = .ok args
  | .execute command => ∃ body, request.route = .commands (some body) ∧
      body.command.isSessionControl = false ∧
      (command = body.command ∨ ∃ display chord, body.command = .switchStreamDisplay display ∧
        command = .sendShortcut chord (.byClass moonlightWindowClass))
  | .relay _ command => ∃ body, request.route = .commands (some body) ∧
      body.command.isSessionControl = false ∧ command = body.command
  | .session use => ∃ body, request.route = .commands (some body) ∧
      (body.command.isSessionControl = false → use = .lock ∨ use = .instant) ∧
      ∀ session, use = .install session → session.owner = peer.tailnetNodeId
  | .pairing use =>
      (request.route = .pairChallenge ∧ ∃ now, use = .instant ∨
        use = .admitIssue peer.tailnetNodeId now ∨ use = .record peer.tailnetNodeId now) ∨
      ∃ body, request.route = .pair (some body) ∧ ∃ now, use = .instant ∨
        use = .take peer.tailnetNodeId body.pairingId now
  | .submitPin pin clientName => ∃ body, request.route = .pair (some body) ∧
      pin = body.pin ∧ clientName = body.clientName ∧
      ∃ now, ⟨.pairing (.take peer.tailnetNodeId body.pairingId now), .ok ()⟩ ∈ past
  | _ => True

/-- A pairing request has consumed its challenge. -/
def Consumed (request : HttpRequest) (peer : AuthorizedPeer) (past : List AgentEvent) : Prop :=
  ∀ body, request.route = .pair (some body) →
    ∃ now, ⟨.pairing (.take peer.tailnetNodeId body.pairingId now), .ok ()⟩ ∈ past

/-- What every event of a handler obeys. -/
def Obeys (config : AgentConfig) (request : HttpRequest) (past : List AgentEvent)
    (event : AgentEvent) : Prop :=
  Protected event.1 → ∃ peer, Passed config request peer past ∧ Suits request peer past event.1

/-! ### More has happened -/

theorem authorizerEvents_mono {past more : List AgentEvent} (sub : past ⊆ more) :
    authorizerEvents past ⊆ authorizerEvents more := by
  intro event member
  obtain ⟨whole, here, same⟩ := List.mem_filterMap.mp member
  exact List.mem_filterMap.mpr ⟨whole, sub here, same⟩

section More

variable {config : AgentConfig} {request : HttpRequest} {peer : AuthorizedPeer}
  {past more : List AgentEvent}

theorem Passed.mono (passed : Passed config request peer past) (sub : past ⊆ more) :
    Passed config request peer more where
  release := passed.release
  authenticated := passed.authenticated.mono (authorizerEvents_mono sub)
  capability := passed.capability
  payload := passed.payload
  fresh := fun body route => sub (passed.fresh body route)
  callback := by
    intro body role endpoint window route attach
    obtain ⟨same, granted, member, all⟩ := passed.callback body role endpoint window route attach
    exact ⟨same, granted, sub member, all⟩

theorem Suits.mono {use : AgentRequest} (suits : Suits request peer past use)
    (sub : past ⊆ more) : Suits request peer more use := by
  cases use with
  | submitPin pin clientName =>
      obtain ⟨body, route, samePin, sameName, now, member⟩ := suits
      exact ⟨body, route, samePin, sameName, now, sub member⟩
  | _ => exact suits

/-- Once everything has passed, the requests that suit may be made. -/
theorem along_of_passed {α : Type} {program : AgentM α}
    (passed : Passed config request peer past)
    (uses : Uses (fun use => Protected use → Suits request peer past use) program) :
    Along (Obeys config request) past program := by
  refine uses.along fun more event permits isProtected => ?_
  have sub : past ⊆ past ++ more := List.subset_append_left _ _
  exact ⟨peer, passed.mono sub, (permits isProtected).mono sub⟩

theorem Consumed.mono (consumed : Consumed request peer past) (sub : past ⊆ more) :
    Consumed request peer more := by
  intro body route
  obtain ⟨now, member⟩ := consumed body route
  exact ⟨now, sub member⟩

/-- All events of the program obey, and it returns only if the request has passed. -/
abbrev Gated (config : AgentConfig) (request : HttpRequest) (past : List AgentEvent) {α : Type}
    (program : ApiM α) : Prop :=
  Guarded (Obeys config request)
    (fun past _ => ∃ peer, Passed config request peer past ∧ Consumed request peer past) past program

theorem gated_of_passed {α : Type} {program : ApiM α} (passed : Passed config request peer past)
    (consumed : Consumed request peer past)
    (uses : Uses (fun use => Protected use → Suits request peer past use) program.run) :
    Gated config request past program where
  along := along_of_passed passed uses
  returns := fun _ _ _ => ⟨peer, passed.mono (List.subset_append_left _ _),
    consumed.mono (List.subset_append_left _ _)⟩

end More

/-! ### The checks -/

section Checks

variable {config : AgentConfig} {request : HttpRequest} {source : SocketAddr}
  {past trace : List AgentEvent} {ε α β : Type}

theorem traces_orFail {convert : ε → ApiError} {program : AgentM (Except ε α)} {value : α} :
    Traces (orFail convert program).run trace (.ok value) ↔ Traces program trace (.ok value) := by
  show Traces (program >>= fun result => .done (result.mapError convert)) trace (.ok value) ↔ _
  rw [traces_bind]
  constructor
  · rintro ⟨before, after, error | result, rfl, run, rfl, same⟩
    · cases same
    · cases same
      rwa [List.append_nil]
  · exact fun run => ⟨trace, [], .ok value, (List.append_nil _).symm, run, rfl, rfl⟩

theorem traces_check {convert : ε → ApiError} {result : Except ε α} {value : α} :
    Traces (check convert result).run trace (.ok value) ↔ trace = [] ∧ result = .ok value := by
  unfold check
  cases result with
  | error error => simp [Traces, Except.mapError]
  | ok result => simp [Traces, Except.mapError, eq_comm]

theorem uses_orFail {permitted : AgentRequest → Prop} {convert : ε → ApiError}
    {program : AgentM (Except ε α)} (uses : Uses permitted program) :
    Uses permitted (orFail convert program).run :=
  uses_bind uses fun _ => trivial

/-- A program that may ask anything of its own interface. -/
theorem uses_any {Request : Type} {Answer : Request → Type} {permitted : Request → Prop}
    (all : ∀ request, permitted request) (program : Program Request Answer α) :
    Uses permitted program := by
  induction program with
  | done value => exact trivial
  | ask request next ih => exact ⟨all request, ih⟩

/-- A check that uses nothing protected obeys. -/
theorem along_of_unprotected {program : AgentM α}
    (uses : Uses (fun use => ¬ Protected use) program) :
    Along (Obeys config request) past program :=
  uses.along fun _ _ unprotected isProtected => absurd isProtected unprotected

/-- A check of data at hand. -/
theorem gated_check {convert : ε → ApiError} {result : Except ε α} {second : α → ApiM β}
    (late : ∀ value, result = .ok value → Gated config request past (second value)) :
    Gated config request past (check convert result >>= second) := by
  refine guarded_bind trivial fun trace value run => ?_
  obtain ⟨rfl, passes⟩ := traces_check.mp run
  rw [List.append_nil]
  exact late value passes

/-- A check that asks something unprotected. -/
theorem gated_ask {convert : ε → ApiError} {program : AgentM (Except ε α)} {second : α → ApiM β}
    (uses : Uses (fun use => ¬ Protected use) program)
    (late : ∀ trace value, Traces program trace (.ok value) →
      Gated config request (past ++ trace) (second value)) :
    Gated config request past (orFail convert program >>= second) :=
  guarded_bind (along_of_unprotected (uses_orFail uses)) fun trace value run =>
    late trace value (traces_orFail.mp run)

theorem uses_onAuthorizer {permitted : AgentRequest → Prop}
    (permits : ∀ request, permitted (.authorizer request)) (program : AuthorizerM α) :
    Uses permitted (onAuthorizer program) :=
  Uses.within (uses_any permits program)

theorem authenticated_onAuthorizer {strictTailnetOnly : Bool} {address : IpAddr}
    {peer : AuthorizedPeer}
    (run : Traces (onAuthorizer (authenticate strictTailnetOnly address)) trace (.ok peer)) :
    Authenticated strictTailnetOnly address peer (authorizerEvents trace) := by
  obtain ⟨inner, rfl, small⟩ := traces_within.mp run
  refine (authenticated_of_traces small).mono fun event member => ?_
  exact List.mem_filterMap.mpr ⟨_, List.mem_map.mpr ⟨event, member, rfl⟩, rfl⟩

/-- What `authorize` adds: the capability. -/
theorem authorized_onAuthorizer {strictTailnetOnly : Bool} {address : IpAddr}
    {required : ControlCapability} {peer : AuthorizedPeer}
    (run : Traces (onAuthorizer (authorize strictTailnetOnly address required)) trace (.ok peer)) :
    Authenticated strictTailnetOnly address peer (authorizerEvents trace) ∧
      peer.allows required = true := by
  obtain ⟨inner, rfl, small⟩ := traces_within.mp run
  obtain ⟨asked, rest, result, rfl, authenticate, run⟩ := traces_bind.mp small
  cases result with
  | error error =>
      obtain ⟨_, ⟨⟩⟩ := run
  | ok found =>
      dsimp only at run
      split at run <;> rename_i allows
      · obtain ⟨_, ⟨⟩⟩ := run
      · obtain ⟨rfl, ⟨⟩⟩ := run
        refine ⟨?_, by simpa [AuthorizedPeer.allows] using allows⟩
        rw [List.append_nil]
        exact authenticated_onAuthorizer (traces_within.mpr ⟨asked, rfl, authenticate⟩)

/-- `authorizePeer`, in front of the rest of a handler. -/
theorem gated_authorizePeer {required : ControlCapability} {second : AuthorizedPeer → ApiM β}
    (late : ∀ trace peer,
      Authenticated config.strictTailnetOnly source.ip peer (authorizerEvents trace) →
      peer.allows required = true → Gated config request (past ++ trace) (second peer)) :
    Gated config request past (authorizePeer config source required >>= second) := by
  refine gated_ask (uses_onAuthorizer (fun _ => id) _) fun trace peer run => ?_
  obtain ⟨authenticated, allows⟩ := authorized_onAuthorizer run
  exact late trace peer authenticated allows

end Checks

end Omdesky.Agent
