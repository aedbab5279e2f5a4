/-
**Connecting to a remote desktop (`omdesky-application/src/services.rs`).**

* `PortCall`: every call of a port, with the answers it may get. The two health calls of a round are
  made together, and while the stream runs its exit is awaited together with them (`watch`).
* `PairStream.execute`, `prepare`, `shortcuts`, `waitForProcessOrMonitor`, `restore`: the steps of
  a connection.
* `executeWithStarted`: one connection from beginning to end. The rounds of the health monitor are
  bounded by a parameter; a run that needs more of them is a run with a larger bound.
-/

import Omdesky.Application.Access
import Omdesky.Interaction.Program
import Omdesky.Protocol

namespace Omdesky.Application

open Interaction Interaction.Program

/-! ### The ports -/

/-- How a round of watching the stream ends: the process exits, or both agents have answered. -/
inductive Watch
  | exited (result : PortResult Int)
  | checked (localAlive remoteAlive : PortResult Unit)

/-- A call of a port. The heartbeat is a task of its own: here it is only started and stopped. -/
inductive PortCall
  | identifySource (address : IpAddr)
  | listAccess
  | sunshineStatus (endpoint : AgentEndpoint)
  | sunshinePairChallenge (endpoint : AgentEndpoint)
  | sunshinePair (endpoint : AgentEndpoint) (request : SunshinePairRequest)
  | focusWorkspace (endpoint : AgentEndpoint) (target : WorkspaceTarget)
  | focusWindow (endpoint : AgentEndpoint) (window : String)
  | sendCommand (endpoint : AgentEndpoint) (command : RemoteCommand) (session : Option SessionClaim)
  | health (localAgent remoteAgent : AgentEndpoint)
  | pairingState (host : StreamHostDescriptor)
  | beginPairing (host : StreamHostDescriptor)
  | completePairing
  | launch (request : StreamLaunchRequest)
  | watch (localAgent remoteAgent : AgentEndpoint)
  | terminate
  | windowForProcess (pid : Nat)
  | sleep (duration : Duration)
  | install (config : SessionKeybindConfig)
  | clear
  | notify (notification : Notification)
  | started (pid : Option Nat)
  | spawnHeartbeat (endpoint : AgentEndpoint) (grant : SessionGrant)
  | dropHeartbeat
  | pending

/-- The answer to each call; a launch answers the process identifier, `begin_pairing` the PIN, and
`pending` never comes back. -/
abbrev PortAnswer : PortCall → Type
  | .identifySource _ => PortResult (Option MeshNodeIdentity)
  | .listAccess => PortResult (List AllowedController)
  | .sunshineStatus _ => PortResult SunshineStatusResponse
  | .sunshinePairChallenge _ => PortResult SunshinePairChallengeResponse
  | .sunshinePair _ _ => PortResult Unit
  | .focusWorkspace _ _ => PortResult Unit
  | .focusWindow _ _ => PortResult Unit
  | .sendCommand _ _ _ => PortResult CommandResponse
  | .health _ _ => PortResult Unit × PortResult Unit
  | .pairingState _ => PortResult StreamPairing
  | .beginPairing _ => PortResult String
  | .completePairing => PortResult Unit
  | .launch _ => PortResult (Option Nat)
  | .watch _ _ => Watch
  | .terminate => PortResult Unit
  | .windowForProcess _ => PortResult (Option WindowSelector)
  | .sleep _ => Unit
  | .install _ => PortResult Unit
  | .clear => PortResult Unit
  | .notify _ => PortResult Unit
  | .started _ => Unit
  | .spawnHeartbeat _ _ => Unit
  | .dropHeartbeat => Unit
  | .pending => Empty

/-- A program over the ports. -/
abbrev ConnectM := Program PortCall PortAnswer

/-- A program over the ports in which `?` returns the first error. -/
abbrev Attempt := ExceptT PortError ConnectM

/-- One call, whatever it answers. -/
abbrev call (request : PortCall) : ConnectM (PortAnswer request) := perform request

/-- One call, and `?` on its answer. -/
abbrev attempt {α : Type} (program : ConnectM (PortResult α)) : Attempt α := ExceptT.mk program

/-- `if refused { return Err(error) }`. -/
def failWhen (refused : Bool) (error : PortError) : Attempt Unit :=
  if refused then throw error else return

/-- A send whose result is ignored. -/
def notify (body : String) : ConnectM Unit := do
  let _ ← call (.notify { summary := "Omdesky", body })

/-! ### Pairing -/

/-- `CallbackAccess::verify`. -/
def verifyCallbackAccess (address : IpAddr) : Attempt Unit := do
  match ← attempt (call (.identifySource address)) with
  | none =>
      throw
        { code := "PEER_IDENTITY_UNKNOWN"
          message := "Tailscale does not know the remote address"
          retryable := false }
  | some identity =>
      let allowlist ← attempt (call .listAccess)
      let missing := missingCallbackCapabilities allowlist identity.tailnetNodeId
      failWhen (!missing.isEmpty) (callbackAccessError missing)

/-- The pairing of `PairStream::execute`, for a host that is not paired yet. -/
def PairStream.pair (clientName : String) (endpoint : AgentEndpoint)
    (host : StreamHostDescriptor) : Attempt Unit := do
  let status ← attempt (call (.sunshineStatus endpoint))
  failWhen (!status.running)
    { code := "SUNSHINE_NOT_RUNNING"
      message := "Sunshine is not running on the remote node"
      retryable := true }
  failWhen (!status.pairingApiAvailable)
    { code := "SUNSHINE_API_UNAVAILABLE"
      message := "Sunshine admin credentials are missing on the remote host. " ++
        "Configure them on that machine (Settings -> Configure Sunshine credentials, " ++
        "or `omdesky setup`), not on this controller."
      retryable := false }
  let challenge ← attempt (call (.sunshinePairChallenge endpoint))
  let pin ← attempt (call (.beginPairing host))
  attempt (call (.sunshinePair endpoint { pairingId := challenge.pairingId, pin, clientName }))
  attempt (call .completePairing)
  let state ← attempt (call (.pairingState host))
  failWhen (state != .paired)
    { code := "MOONLIGHT_PAIRING_FAILED"
      message := "Moonlight did not report the host as paired"
      retryable := true }

/-- `PairStream::execute`. -/
def PairStream.execute (clientName : String) (endpoint : AgentEndpoint) : Attempt Unit := do
  let host : StreamHostDescriptor := { address := endpoint.address, application := "Desktop" }
  match ← attempt (call (.pairingState host)) with
  | .paired => return
  | _ => PairStream.pair clientName endpoint host

/-! ### The agents' health -/

/-- `AGENT_HEALTH_FAILURE_LIMIT`. -/
def agentHealthFailureLimit : Nat := 2

/-- `agent_health_failure`. -/
def agentHealthFailure (localFailures remoteFailures failureLimit : Nat) : Option PortError :=
  if failureLimit ≤ localFailures then
    some
      { code := "LOCAL_AGENT_UNAVAILABLE"
        message := "the local omdesky-agent stopped responding"
        retryable := true }
  else if failureLimit ≤ remoteFailures then
    some
      { code := "REMOTE_AGENT_UNAVAILABLE"
        message := "the remote omdesky-agent stopped responding"
        retryable := true }
  else none

/-- `u8::from(result.is_err())`. -/
def failed {α : Type} (result : PortResult α) : Nat := if result.isOk then 0 else 1

/-- `verify_agents`. -/
def verifyAgents (localAgent remoteAgent : AgentEndpoint) : Attempt Unit := do
  let (localAlive, remoteAlive) ← liftM (call (.health localAgent remoteAgent))
  match agentHealthFailure (failed localAlive) (failed remoteAlive) 1 with
  | some error => throw error
  | none => return

/-- The failures in a row after one more answer. -/
def failuresAfter {α : Type} (result : PortResult α) (failures : Nat) : Nat :=
  if result.isOk then 0 else failures + 1

/-- `wait_for_process_or_monitor` with `monitor_agents`, for at most this many rounds. -/
def waitForProcessOrMonitor (localAgent remoteAgent : AgentEndpoint) :
    (rounds localFailures remoteFailures : Nat) → ConnectM (PortResult Int)
  | 0, _, _ => do
      let never ← call .pending
      nomatch never
  | rounds + 1, localFailures, remoteFailures => do
      match ← call (.watch localAgent remoteAgent) with
      | .exited exit => return exit
      | .checked localAlive remoteAlive =>
          let localFailures := failuresAfter localAlive localFailures
          let remoteFailures := failuresAfter remoteAlive remoteFailures
          match agentHealthFailure localFailures remoteFailures agentHealthFailureLimit with
          | some error =>
              let _ ← call .terminate
              return .error error
          | none => waitForProcessOrMonitor localAgent remoteAgent rounds localFailures remoteFailures

/-! ### A connection -/

/-- `STREAM_WINDOW_LOOKUP_ATTEMPTS`. -/
def streamWindowLookupAttempts : Nat := 20

/-- `STREAM_WINDOW_LOOKUP_INTERVAL`: 250 ms. -/
def streamWindowLookupInterval : Duration := 250000000

/-- `ConnectRequest`. -/
structure ConnectRequest where
  endpoint : AgentEndpoint
  controllerEndpoint : AgentEndpoint
  profile : StreamProfile
  fullscreen : Bool
  inputMode : InputMode
  focusWorkspace : Option WorkspaceTarget
  focusWindow : Option String
  autoPair : Bool
  deriving DecidableEq, Repr

/-- What a `ConnectNode` was built with, besides its ports. -/
structure ConnectNode where
  clientName : String
  locatesWindows : Bool
  deriving DecidableEq, Repr

/-- The attempts of `ConnectNode::locate_stream_window`. -/
def lookUpWindow (pid : Nat) : (attempts : Nat) → ConnectM WindowSelector
  | 0 => return .byClass moonlightWindowClass
  | attempts + 1 => do
      match ← call (.windowForProcess pid) with
      | .ok (some window) => return window
      | .ok none =>
          call (.sleep streamWindowLookupInterval)
          lookUpWindow pid attempts
      | .error _ => return .byClass moonlightWindowClass

/-- `ConnectNode::locate_stream_window`. -/
def locateStreamWindow (locatesWindows : Bool) (pid : Option Nat) : ConnectM WindowSelector :=
  match pid, locatesWindows with
  | some pid, true => lookUpWindow pid streamWindowLookupAttempts
  | _, _ => return .byClass moonlightWindowClass

/-- `ConnectNode::attach_session`. -/
def attachSession (request : ConnectRequest) (window : WindowSelector) :
    ConnectM (PortResult SessionGrant) := do
  match ← call (.install { role := .controller, controller := none, window }) with
  | .error error => return .error error
  | .ok () =>
      let controller : SessionEndpoint :=
        { address := request.controllerEndpoint.address, port := request.controllerEndpoint.port }
      let attach := RemoteCommand.attachSession .remote controller window
      match ← call (.sendCommand request.endpoint attach none) with
      | .ok response =>
          match response.session with
          | some grant => return .ok grant
          | none =>
              return .error
                { code := "SESSION_NOT_GRANTED"
                  message := "the remote agent accepted the session without issuing a lease"
                  retryable := false }
      | .error error =>
          let _ ← call .clear
          return .error error

/-- `ConnectNode::detach_session`. -/
def detachSession (request : ConnectRequest) (grant : SessionGrant) :
    ConnectM (PortResult Unit) := do
  let localResult ← call .clear
  match ← call (.sendCommand request.endpoint .detachSession (some grant.claim)), localResult with
  | _, .error error => return .error error
  | .error error, .ok () => return .error error
  | .ok _, .ok () => return .ok ()

/-- The host has to be paired, or is paired now. -/
def ensurePaired (node : ConnectNode) (request : ConnectRequest) (host : StreamHostDescriptor) :
    Attempt Unit := do
  match ← attempt (call (.pairingState host)) with
  | .paired => return
  | _ =>
      failWhen (!request.autoPair)
        { code := "MOONLIGHT_PAIRING_REQUIRED"
          message := "Moonlight is not paired with the host; run `omdesky pair` first"
          retryable := false }
      PairStream.execute node.clientName request.endpoint

/-- What `ConnectNode::execute_with_started` does before the launch. -/
def prepare (node : ConnectNode) (request : ConnectRequest) : Attempt StreamLaunchRequest := do
  verifyCallbackAccess request.endpoint.address
  let status ← attempt (call (.sunshineStatus request.endpoint))
  failWhen (!status.ready)
    { code := "SUNSHINE_NOT_READY"
      message := "Sunshine is not ready to stream on the remote node"
      retryable := true }
  let host : StreamHostDescriptor :=
    { address := request.endpoint.address, application := status.desktopApp.getD "Desktop" }
  ensurePaired node request host
  request.focusWorkspace.forM fun target => attempt (call (.focusWorkspace request.endpoint target))
  request.focusWindow.forM fun window => attempt (call (.focusWindow request.endpoint window))
  verifyAgents request.controllerEndpoint request.endpoint
  return { host, profile := request.profile, fullscreen := request.fullscreen,
           inputMode := request.inputMode }

/-- The shortcuts of the session, right after the launch: the grant, if there is one. -/
def shortcuts (node : ConnectNode) (request : ConnectRequest) (pid : Option Nat) :
    ConnectM (Option SessionGrant) := do
  match request.inputMode with
  | .local => return none
  | .remote =>
      let window ← locateStreamWindow node.locatesWindows pid
      match ← attachSession request window with
      | .ok grant =>
          call (.spawnHeartbeat request.endpoint grant)
          notify "Remote shortcuts are ready. Press SUPER+R to switch shortcut capture."
          return some grant
      | .error error =>
          notify ("The stream started, but remote shortcuts are unavailable. " ++
            error.userMessage)
          return none

/-- What follows the end of the stream. -/
def restore (request : ConnectRequest) (grant : Option SessionGrant) : ConnectM Unit := do
  match grant with
  | none => return
  | some grant =>
      call .dropHeartbeat
      match ← detachSession request grant with
      | .ok () => notify "The stream ended and your local shortcuts were restored."
      | .error _ =>
          notify ("The stream ended, but local shortcuts could not be restored. " ++
            "Restart Hyprland before reconnecting.")

/-- What `ConnectNode::execute_with_started` does once the stream was launched. -/
def stream (node : ConnectNode) (rounds : Nat) (request : ConnectRequest) (pid : Option Nat) :
    ConnectM (PortResult Int) := do
  let grant ← shortcuts node request pid
  call (.started pid)
  let exit ← waitForProcessOrMonitor request.controllerEndpoint request.endpoint rounds 0 0
  restore request grant
  return exit

/-- `ConnectNode::execute_with_started`. -/
def executeWithStarted (node : ConnectNode) (rounds : Nat) (request : ConnectRequest) :
    Attempt Int := do
  let launchRequest ← prepare node request
  let pid ← attempt (call (.launch launchRequest))
  attempt (stream node rounds request pid)

end Omdesky.Application
