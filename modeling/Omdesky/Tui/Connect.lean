/-
**The connect task of the terminal interface (`omdesky-tui/src/lib.rs`).**

* `startConnect`: what the task asks for, from the local agent's address to the message that the
  session has ended. The callback of the connection is a call of its own (`PortCall.started`).
* `Succeeds`: a call that succeeds; an attach does when it is granted.
* `restores_of_startConnect`: a task that ran to its end, and whose calls succeeded, has cleared the
  keybindings it installed.
* `sendsLast_startConnect`: the message that ends a session is the last thing a task does.
-/

import Omdesky.Application.Connect.Shortcuts
import Omdesky.Tui.State

namespace Omdesky.Tui

open Application Interaction Interaction.Program

/-! ### The task -/

/-- What the interface was started with, as far as its connect tasks are concerned. -/
structure Services where
  agentPort : UInt16
  clientName : String
  debugAssertions : Bool
  deriving DecidableEq, Repr

/-- What `start_connect` is called with, with the profile it loads and the rounds that its stream is
watched for. -/
structure Connection where
  node : DiscoveredNode
  generation : UInt64
  profile : StreamProfile
  rounds : Nat

/-- A call of a connect task. -/
inductive TaskCall
  | localNode
  | health (endpoint : AgentEndpoint)
  | configured
  | port (call : PortCall)
  | send (message : AsyncMessage)

/-- The answer to each call. -/
abbrev TaskAnswer : TaskCall → Type
  | .localNode => PortResult MeshNodeIdentity
  | .health _ => PortResult HealthResponse
  | .configured => PortResult Bool
  | .port call => PortAnswer call
  | .send _ => Unit

/-- A call of a task with its answer. -/
abbrev TaskEvent := Event TaskCall TaskAnswer

/-- A program of a connect task. -/
abbrev TaskM := Program TaskCall TaskAnswer

/-- `local_agent_endpoint`; what it fails with is not read. -/
def localAgentEndpoint (port : UInt16) : TaskM (Option AgentEndpoint) := do
  match ← perform TaskCall.localNode with
  | .error _ => return none
  | .ok node =>
      return ((node.addresses.find? IpAddr.isIpv4).or node.addresses.head?).map fun address =>
        { address, port }

/-- `stream_exit_message`. -/
def streamExitMessage (nodeName : String) (exit : Int) : String :=
  if exit = 0 then "Disconnected from " ++ nodeName ++ "."
  else "The stream from " ++ nodeName ++ " ended unexpectedly. You can try reconnecting."

/-- What the user is told when a connection fails. -/
def connectFailed (error : PortError) : String :=
  userError "The connection could not be completed." error

/-- The failure is one of this computer. -/
def isLocalFailure (result : PortResult Int) : Bool :=
  match result with
  | .error error => error.code == "LOCAL_AGENT_UNAVAILABLE" || error.code == "LOCAL_SUNSHINE_UNCONFIGURED"
  | .ok _ => false

/-- The request of a connection. -/
def Connection.request (services : Services) (connection : Connection)
    (controllerEndpoint : AgentEndpoint) : ConnectRequest where
  endpoint := { address := connection.node.address, port := services.agentPort }
  controllerEndpoint
  profile := connection.profile
  fullscreen := true
  inputMode := .remote
  focusWorkspace := none
  focusWindow := none
  autoPair := true

/-- The task up to the message it ends with. -/
def session (services : Services) (connection : Connection) : TaskM AsyncMessage := do
  match ← localAgentEndpoint services.agentPort with
  | none =>
      let error : PortError := { code := "LOCAL_AGENT_UNAVAILABLE", message := "", retryable := true }
      return .sessionEnded connection.generation (.error (connectFailed error)) true
  | some controllerEndpoint =>
      let localAgent ← perform (TaskCall.health controllerEndpoint)
      let configured ← perform TaskCall.configured
      match ensureControllerReady localAgent (configured.toOption.getD false) with
      | .error error =>
          return .sessionEnded connection.generation (.error (connectFailed error)) true
      | .ok () =>
          let node : ConnectNode := { clientName := services.clientName, locatesWindows := true }
          let request := connection.request services controllerEndpoint
          let result ← within TaskCall.port (executeWithStarted node connection.rounds request).run
          let told := (result.map (streamExitMessage connection.node.name)).mapError connectFailed
          return .sessionEnded connection.generation told (isLocalFailure result)

/-- `start_connect`. -/
def startConnect (services : Services) (connection : Connection) : TaskM Unit := do
  let ended ← session services connection
  perform (TaskCall.send ended)

/-! ### Calls that succeed -/

/-- The port call succeeds; an attach does when it is granted. -/
def PortSucceeds : PortEvent → Prop
  | ⟨.sendCommand _ (.attachSession _ _ _) _, answer⟩ =>
      ∃ response, answer = .ok response ∧ response.session ≠ none
  | ⟨.sendCommand _ _ _, answer⟩ => answer.isOk = true
  | ⟨.identifySource _, answer⟩ => answer.isOk = true
  | ⟨.listAccess, answer⟩ => answer.isOk = true
  | ⟨.sunshineStatus _, answer⟩ => answer.isOk = true
  | ⟨.sunshinePairChallenge _, answer⟩ => answer.isOk = true
  | ⟨.sunshinePair _ _, answer⟩ => answer.isOk = true
  | ⟨.focusWorkspace _ _, answer⟩ => answer.isOk = true
  | ⟨.focusWindow _ _, answer⟩ => answer.isOk = true
  | ⟨.health _ _, answer⟩ => answer.1.isOk = true ∧ answer.2.isOk = true
  | ⟨.pairingState _, answer⟩ => answer.isOk = true
  | ⟨.beginPairing _, answer⟩ => answer.isOk = true
  | ⟨.completePairing, answer⟩ => answer.isOk = true
  | ⟨.launch _, answer⟩ => answer.isOk = true
  | ⟨.watch _ _, .exited result⟩ => result.isOk = true
  | ⟨.watch _ _, .checked localAlive remoteAlive⟩ => localAlive.isOk = true ∧ remoteAlive.isOk = true
  | ⟨.terminate, answer⟩ => answer.isOk = true
  | ⟨.windowForProcess _, answer⟩ => answer.isOk = true
  | ⟨.install _, answer⟩ => answer.isOk = true
  | ⟨.clear, answer⟩ => answer.isOk = true
  | ⟨.notify _, answer⟩ => answer.isOk = true
  | _ => True

/-- The call of a task succeeds. -/
def Succeeds : TaskEvent → Prop
  | ⟨.localNode, answer⟩ => answer.isOk = true
  | ⟨.health _, answer⟩ => answer.isOk = true
  | ⟨.configured, answer⟩ => answer.isOk = true
  | ⟨.port call, answer⟩ => PortSucceeds ⟨call, answer⟩
  | ⟨.send _, _⟩ => True

/-! ### What a task asks for -/

variable {services : Services} {connection : Connection}

/-- The request sends no message, and installs no keybindings but those of a controller. -/
def OfSession (request : TaskCall) : Prop :=
  (∀ message, request ≠ .send message) ∧ ∀ call, request = .port call → ForController call

theorem uses_session : Uses OfSession (session services connection) := by
  have node : OfSession .localNode := ⟨by rintro _ ⟨⟩, by rintro _ ⟨⟩⟩
  have health (endpoint : AgentEndpoint) : OfSession (.health endpoint) :=
    ⟨by rintro _ ⟨⟩, by rintro _ ⟨⟩⟩
  have configured : OfSession .configured := ⟨by rintro _ ⟨⟩, by rintro _ ⟨⟩⟩
  have endpoint : Uses OfSession (localAgentEndpoint services.agentPort) := by
    unfold localAgentEndpoint
    refine ⟨node, ?_⟩
    rintro (error | identity) <;> exact trivial
  unfold session
  refine uses_bind endpoint ?_
  rintro (_ | controllerEndpoint)
  · exact trivial
  · refine ⟨health controllerEndpoint, fun localAgent => ⟨configured, fun answer => ?_⟩⟩
    dsimp only [Program.bind]
    split
    · exact trivial
    · refine uses_bind (Uses.within (uses_executeWithStarted.weaken ?_)) fun result => trivial
      intro call own
      exact ⟨by rintro _ ⟨⟩, fun other same => TaskCall.port.inj same ▸ own⟩

/-- A message is the last thing the program does. -/
def SendsLast : TaskM Unit → Prop
  | .done _ => True
  | .ask request next => ∀ answer,
      (∀ message, request = .send message → next answer = .done ()) ∧ SendsLast (next answer)

theorem sendsLast_startConnect : SendsLast (startConnect services connection) := by
  have last {program : TaskM AsyncMessage} (uses : Uses OfSession program) :
      SendsLast (program >>= fun ended => perform (TaskCall.send ended)) := by
    induction program with
    | done ended => exact fun answer => ⟨fun _ _ => rfl, trivial⟩
    | ask request next ih =>
        exact fun answer => ⟨fun message same => absurd same (uses.1.1 message), ih answer (uses.2 answer)⟩
  exact last uses_session

theorem SendsLast.of_leaves {program rest : TaskM Unit} {trace : List TaskEvent}
    (last : SendsLast program) (leaves : Leaves program trace rest) : SendsLast rest := by
  induction leaves with
  | begun => exact last
  | event answer earlier ih => exact (ih answer).2

/-! ### What a task leaves behind -/

/-- The events of the connection. -/
def portEvents (trace : List TaskEvent) : List PortEvent :=
  trace.filterMap fun
    | ⟨.port call, answer⟩ => some ⟨call, answer⟩
    | _ => none

theorem portEvents_append (first second : List TaskEvent) :
    portEvents (first ++ second) = portEvents first ++ portEvents second := List.filterMap_append

theorem portEvents_within (inner : List PortEvent) :
    portEvents (inner.map fun event => ⟨.port event.1, event.2⟩) = inner := by
  rw [portEvents, List.filterMap_map]
  exact List.filterMap_some

/-- A call that succeeds is attended to. -/
theorem not_unattended {event : PortEvent} (succeeds : PortSucceeds event) : ¬ Unattended event := by
  obtain ⟨request, answer⟩ := event
  intro unattended
  cases request with
  | install config =>
      cases answer with
      | error error => cases succeeds
      | ok _ => exact unattended
  | sendCommand endpoint command session =>
      cases command with
      | attachSession role controller window =>
          obtain ⟨response, rfl, granted⟩ := succeeds
          exact granted unattended
      | _ => exact unattended
  | _ => exact unattended

/-- A session that ran to its end is a connection that did, or has asked for none. -/
theorem restores_of_session {trace : List TaskEvent} {ended : AsyncMessage}
    (run : Traces (session services connection) trace ended)
    (succeeds : ∀ event ∈ trace, Succeeds event) : Restores (portEvents trace) := by
  obtain ⟨asked, later, endpoint, rfl, located, follows⟩ := traces_bind.mp run
  have aside : portEvents asked = [] := by
    obtain ⟨node, _, rfl, located⟩ := located
    cases node <;> obtain ⟨rfl, _⟩ := located <;> rfl
  rw [portEvents_append, aside, List.nil_append]
  cases endpoint with
  | none =>
      obtain ⟨rfl, _⟩ := follows
      exact trivial
  | some controllerEndpoint =>
      obtain ⟨localAgent, _, rfl, configured, rest, rfl, decides⟩ := follows
      dsimp only [Program.bind] at decides
      split at decides
      · obtain ⟨rfl, _⟩ := decides
        exact trivial
      · obtain ⟨connected, _, result, rfl, connects, rfl, _⟩ := traces_bind.mp decides
        obtain ⟨inner, rfl, runs⟩ := traces_within.mp connects
        rw [List.append_nil] at succeeds ⊢
        change Restores (portEvents (inner.map fun event => ⟨.port event.1, event.2⟩))
        rw [portEvents_within]
        refine restores_of_attended runs fun event member => ?_
        have caused : (⟨.port event.1, event.2⟩ : TaskEvent) ∈ inner.map fun event =>
            ⟨.port event.1, event.2⟩ := List.mem_map.mpr ⟨event, member, rfl⟩
        exact not_unattended (succeeds _ (List.mem_append_right _ (.tail _ (.tail _ caused))))

/-- **A task that ran to its end**, and whose calls succeeded, has cleared what it installed. -/
theorem restores_of_startConnect {trace : List TaskEvent}
    (run : Traces (startConnect services connection) trace ())
    (succeeds : ∀ event ∈ trace, Succeeds event) : Restores (portEvents trace) := by
  obtain ⟨before, after, ended, rfl, runs, sent, _, rfl, rfl, _⟩ := traces_bind.mp run
  have last : portEvents [⟨.send ended, sent⟩] = [] := rfl
  rw [portEvents_append, last, List.append_nil]
  exact restores_of_session runs fun event member => succeeds event (List.mem_append_left _ member)

end Omdesky.Tui
