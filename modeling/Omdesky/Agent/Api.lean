/-
**The control API (`omdesky-agent/src/lib.rs`).**

A request is a route with its decoded body, the release header and the source address. A handler is
a program over everything the agent can do, in which `?` returns the first error.

* `AgentRequest`: what a handler asks of its surroundings: the authorizer, the session coordinator,
  the pairing challenges, the replay guard, the desktop and the other agents.
* `runCommand`, `applySessionCommand`, `sunshinePair` and the other handlers, under their names.
* `handle`: the router, with the release check in front of every route but `/v1/health`.
-/

import Omdesky.Agent.Authorize
import Omdesky.Agent.Pairing
import Omdesky.Agent.Replay
import Omdesky.Agent.Session
import Omdesky.Platform.Desktop

namespace Omdesky.Agent

open Interaction Interaction.Program Platform

/-! ### Errors -/

/-- `ApiError`. -/
structure ApiError where
  code : ErrorCode
  message : String
  deriving DecidableEq, Repr

namespace ApiError

/-- `ApiError::from(PortError)`. -/
def ofPort (error : PortError) : ApiError :=
  { code := (ErrorCode.fromCode error.code).getD .internal, message := error.userMessage }

/-- `ApiError::from(DomainError)`. -/
def ofDomain (_ : DomainError) : ApiError :=
  { code := .invalidCommand, message := "The requested action is not valid." }

/-- `ApiError::from(SessionError)`. -/
def ofSession (error : SessionError) : ApiError := { code := error.code, message := error.message }

/-- `ApiError::from(PairingError)`. -/
def ofPairing (error : PairingError) : ApiError := { code := error.code, message := error.message }

/-- `ApiError::from(FreshnessError)`. -/
def ofFreshness (error : FreshnessError) : ApiError :=
  { code := error.code, message := error.message }

/-- `ApiError::from(AuthorizationError)`. -/
def ofAuthorization : AuthorizationError → ApiError
  | .rateLimited =>
      { code := .rateLimited, message := "Too many requests. Please slow down." }
  | .unavailable =>
      { code := .identityUnavailable
        message := "This device could not be identified right now. Please try again." }
  | .forbidden =>
      { code := .capabilityDenied
        message := "This device is not allowed to perform that action." }
  | .accessStoreFailed =>
      { code := .accessStoreFailed, message := "The allowed devices list could not be read." }
  | .outsideTailnet | .unauthorized =>
      { code := .unauthorized, message := "This device is not allowed to control Omdesky." }

/-- `body_rejected`. -/
def bodyRejected : ApiError :=
  { code := .invalidCommand, message := "The request body is not valid." }

/-- `callback_access_missing`. -/
def callbackAccessMissing : ApiError :=
  { code := .callbackAccessMissing
    message := "The controller does not allow this device to send shortcuts back." }

/-- `callback_probe_error`. -/
def callbackProbe (error : PortError) : ApiError :=
  match error.code with
  | "UNAUTHORIZED" | "CAPABILITY_DENIED" => callbackAccessMissing
  | "VERSION_INCOMPATIBLE" =>
      { code := .versionIncompatible
        message := "The controller runs a different Omdesky release." }
  | _ =>
      { code := .controllerUnreachable
        message := "This device could not reach the controller's agent." }

/-- `missing_session_claim`. -/
def missingSessionClaim : ApiError :=
  { code := .invalidCommand, message := "This action requires the session it belongs to." }

end ApiError

/-! ### Requests and replies -/

/-- `WindowFilter`. -/
structure WindowFilter where
  workspace : Option Int
  appId : Option String
  deriving DecidableEq, Repr

/-- `filter_matches`. -/
def filterMatches (window : Window) (filter : WindowFilter) : Bool :=
  filter.workspace.all (fun id => window.workspace == id) &&
    filter.appId.all fun needle => window.appId == some needle || window.windowClass == some needle

/-- A route, with its path, its query and its decoded body; `none` is a body that does not decode. -/
inductive Route
  | health
  | node
  | capabilities
  | displays
  | workspaces
  | focusWorkspace (body : Option WorkspaceTarget)
  | windows (filter : WindowFilter)
  | activeWindow
  | focusWindow (windowId : String)
  | commands (body : Option CommandRequest)
  | sunshine
  | pairChallenge
  | pair (body : Option SunshinePairRequest)
  deriving DecidableEq, Repr

/-- A request as the router sees it. The release is the header's text, if it is there and is one. -/
structure HttpRequest where
  route : Route
  release : Option String
  source : SocketAddr
  deriving DecidableEq, Repr

/-- What a handler answers. The data of `/v1/health` and `/v1/node`, fixed when the agent starts, are
left out. -/
inductive ApiReply
  | health
  | node
  | capabilities (capabilities : List ControlCapability)
  | displays (displays : List Display)
  | workspaces (workspaces : List Workspace)
  | windows (windows : List Window)
  | activeWindow (window : Option Window)
  | focused
  | command (response : CommandResponse)
  | sunshine (status : SunshineStatusResponse)
  | challenge (challenge : SunshinePairChallengeResponse)
  | paired
  deriving DecidableEq, Repr

/-- What an agent was started with: its configuration, and whether it is a debug build. -/
structure AgentConfig where
  strictTailnetOnly : Bool
  agentPort : UInt16
  lease : Duration
  challengeTtl : Duration
  debugAssertions : Bool
  deriving DecidableEq, Repr

/-! ### What a handler asks of its surroundings -/

/-- A request of a handler. -/
inductive AgentRequest
  | authorizer (request : AuthorizerRequest)
  | session (request : SessionRequest)
  | pairing (request : PairingRequest)
  | admitRequest (requestId : Uuid) (issuedAt : Int)
  | displays
  | workspaces
  | windows
  | activeWindow
  | dispatch (args : List String)
  | execute (command : RemoteCommand)
  | relay (controller : AgentEndpoint) (command : RemoteCommand)
  | remoteDisplays (endpoint : AgentEndpoint)
  | grantedCapabilities (endpoint : AgentEndpoint)
  | sunshineStatus
  | submitPin (pin clientName : String)
  | notify (notification : Notification)

/-- The answer to each request. -/
abbrev AgentAnswer : AgentRequest → Type
  | .authorizer request => AuthorizerAnswer request
  | .session request => SessionAnswer request
  | .pairing request => PairingAnswer request
  | .admitRequest _ _ => Except FreshnessError Unit
  | .displays => PortResult (List Display)
  | .workspaces => PortResult (List Workspace)
  | .windows => PortResult (List Window)
  | .activeWindow => PortResult (Option Window)
  | .dispatch _ => PortResult Unit
  | .execute _ => PortResult Unit
  | .relay _ _ => PortResult CommandResponse
  | .remoteDisplays _ => PortResult (List Display)
  | .grantedCapabilities _ => PortResult (List ControlCapability)
  | .sunshineStatus => PortResult SunshineStatusResponse
  | .submitPin _ _ => PortResult Unit
  | .notify _ => PortResult Unit

/-- A program of the agent. -/
abbrev AgentM := Program AgentRequest AgentAnswer

/-- A program of the agent in which `?` returns the first error. -/
abbrev ApiM := ExceptT ApiError AgentM

/-- One request. -/
abbrev demand (request : AgentRequest) : AgentM (AgentAnswer request) := perform request

/-- A program of the authorizer, awaited by a handler. -/
abbrev onAuthorizer {α : Type} (program : AuthorizerM α) : AgentM α :=
  within AgentRequest.authorizer program

/-- An operation of the session coordinator, awaited by a handler. -/
abbrev onSessions {α : Type} (program : SessionM α) : AgentM α :=
  within AgentRequest.session program

/-- An operation of the pairing challenges, awaited by a handler. -/
abbrev onChallenges {α : Type} (program : PairingM α) : AgentM α :=
  within AgentRequest.pairing program

/-- `.map_err(convert)?` on a result that is awaited. -/
def orFail {ε α : Type} (convert : ε → ApiError) (program : AgentM (Except ε α)) : ApiM α :=
  ExceptT.mk do return (← program).mapError convert

/-- `.map_err(convert)?` on a result that is at hand. -/
def check {ε α : Type} (convert : ε → ApiError) (result : Except ε α) : ApiM α :=
  ExceptT.mk (.done (result.mapError convert))

/-! ### Authorization and reading -/

/-- `authorize`, the helper of the handlers. -/
def authorizePeer (config : AgentConfig) (source : SocketAddr) (required : ControlCapability) :
    ApiM AuthorizedPeer :=
  orFail .ofAuthorization (onAuthorizer (authorize config.strictTailnetOnly source.ip required))

/-- `capabilities`. -/
def capabilities (config : AgentConfig) (source : SocketAddr) : ApiM ApiReply := do
  let peer ← orFail .ofAuthorization
    (onAuthorizer (authenticate config.strictTailnetOnly source.ip))
  return .capabilities peer.capabilities

/-- The handlers that only read: authorize, ask one question and answer it. -/
def readMetadata {α : Type} (config : AgentConfig) (source : SocketAddr)
    (question : AgentM (PortResult α)) (answer : α → ApiReply) : ApiM ApiReply := do
  let _ ← authorizePeer config source .readMetadata
  return answer (← orFail .ofPort question)

/-- `node`. -/
def node (config : AgentConfig) (source : SocketAddr) : ApiM ApiReply := do
  let _ ← authorizePeer config source .readMetadata
  return .node

/-- `displays`. -/
def displays (config : AgentConfig) (source : SocketAddr) : ApiM ApiReply :=
  readMetadata config source (demand .displays) .displays

/-- `workspaces`. -/
def workspaces (config : AgentConfig) (source : SocketAddr) : ApiM ApiReply :=
  readMetadata config source (demand .workspaces) .workspaces

/-- `windows`. -/
def windows (config : AgentConfig) (source : SocketAddr) (filter : WindowFilter) : ApiM ApiReply :=
  readMetadata config source (demand .windows) fun windows =>
    .windows (windows.filter fun window => filterMatches window filter)

/-- `active_window`. -/
def activeWindow (config : AgentConfig) (source : SocketAddr) : ApiM ApiReply :=
  readMetadata config source (demand .activeWindow) .activeWindow

/-- `sunshine_status`. -/
def sunshineStatus (config : AgentConfig) (source : SocketAddr) : ApiM ApiReply :=
  readMetadata config source (demand .sunshineStatus) .sunshine

/-! ### Focus -/

/-- `validate_workspace_target`. -/
def validateWorkspaceTarget : WorkspaceTarget → Except ApiError Unit
  | .id _ => .ok ()
  | .name name =>
      if name.isEmpty || name.toList.any isWhitespace then
        .error
          { code := .workspaceNotFound, message := "The requested workspace name is not valid." }
      else .ok ()

/-- A dispatch of the adapter, unless its own checks refuse it. -/
def dispatchFocus (dispatch : PortResult (List String)) : AgentM (PortResult Unit) :=
  match dispatch with
  | .error error => return .error error
  | .ok args => demand (.dispatch args)

/-- `focus_workspace`. -/
def focusWorkspace (config : AgentConfig) (source : SocketAddr) (body : Option WorkspaceTarget) :
    ApiM ApiReply := do
  match body with
  | none => throw .bodyRejected
  | some target =>
      let _ ← authorizePeer config source .focusWorkspace
      check id (validateWorkspaceTarget target)
      orFail .ofPort (dispatchFocus (focusWorkspaceDispatch target))
      return .focused

/-- `focus_window`. -/
def focusWindow (config : AgentConfig) (source : SocketAddr) (windowId : String) :
    ApiM ApiReply := do
  let _ ← authorizePeer config source .focusWorkspace
  orFail .ofPort (dispatchFocus (focusWindowDispatch windowId))
  return .focused

/-! ### Session commands -/

/-- `callback_endpoint`. -/
def callbackEndpoint (endpoint : SessionEndpoint) (source : SocketAddr) :
    Except ApiError AgentEndpoint :=
  if endpoint.address != source.ip then
    .error
      { code := .invalidCommand
        message := "The controller endpoint must be the address this request came from." }
  else .ok { address := source.ip, port := endpoint.port }

/-- The callbacks a controller does not grant. -/
def missingCallbacks (granted : List ControlCapability) : List ControlCapability :=
  ControlCapability.callback.filter fun capability => !granted.contains capability

/-- `verify_callback_access`. -/
def verifyCallbackAccess (controller : AgentEndpoint) : ApiM Unit := do
  let granted ← orFail .callbackProbe (demand (.grantedCapabilities controller))
  check id (if missingCallbacks granted = [] then .ok () else .error .callbackAccessMissing)

/-- The checks `apply_session_command` makes on the controller of an attach. -/
def checkController (source : SocketAddr) :
    Option SessionEndpoint → ApiM (Option AgentEndpoint)
  | none => return none
  | some endpoint => do
      let controller ← check id (callbackEndpoint endpoint source)
      verifyCallbackAccess controller
      return some controller

/-- `apply_session_command`. -/
def applySessionCommand (config : AgentConfig) (peer : AuthorizedPeer) (source : SocketAddr)
    (command : RemoteCommand) (claim : Option SessionClaim) : ApiM CommandResponse :=
  match command with
  | .attachSession role controller window => do
      let controller ← checkController source controller
      let window := window.getD (.byClass moonlightWindowClass)
      let grant ← orFail .ofSession
        (onSessions (attach config.lease peer.tailnetNodeId role controller window))
      return .granted grant
  | .detachSession => do
      let claim ← check id (claim.elim (.error .missingSessionClaim) .ok)
      let outcome ← orFail .ofSession (onSessions (detach peer.tailnetNodeId claim))
      match outcome with
      | .applied => return .done
      | .ignored => return .ignored
  | .renewSession => do
      let claim ← check id (claim.elim (.error .missingSessionClaim) .ok)
      let grant ← orFail .ofSession (onSessions (renew config.lease peer.tailnetNodeId claim))
      return .granted grant
  | _ => return .ignored

/-! ### Commands -/

/-- `send_debug_notification`. -/
def sendDebugNotification (config : AgentConfig) (body : String) : AgentM Unit := do
  if config.debugAssertions then
    let _ ← demand (.notify { summary := "Omdesky debug", body })

/-- `controller_command_notification`. -/
def controllerCommandNotification : RemoteCommand → Option Notification
  | .sendShortcut _ _ => some { summary := "Omdesky", body := "Remote shortcut capture changed" }
  | .closeWindow _ => some { summary := "Omdesky", body := "The remote session was closed" }
  | _ => none

/-- The relay of `run_command`, for a session in which this computer is the remote one. -/
def relayCommand (controller : Option AgentEndpoint) (command : RemoteCommand) :
    ApiM CommandResponse := do
  let controller ← check id (controller.elim
    (.error { code := .noController
              message := "remote session has no controller endpoint to relay to" }) .ok)
  let _ ← orFail .ofPort (demand (.relay controller command))
  return .done

/-- A display switch of `run_command` on this computer's own desktop. -/
def switchDisplayHere (config : AgentConfig) (source : SocketAddr) (target : DisplayId) :
    ApiM CommandResponse := do
  sendDebugNotification config ("Display switch requested for " ++ target.value)
  let displays ← orFail .ofPort
    (demand (.remoteDisplays { address := source.ip, port := config.agentPort }))
  let shortcut ← check .ofPort (resolveDisplaySwitchShortcut displays target)
  let outcome ← liftM (demand (.execute shortcut))
  sendDebugNotification config (match outcome with
    | .ok () => "Display switch sent for " ++ target.value
    | .error _ => "Display switch failed for " ++ target.value)
  check .ofPort outcome
  return .done

/-- Another command of `run_command` on this computer's own desktop. -/
def executeHere (command : RemoteCommand) : ApiM CommandResponse := do
  orFail .ofPort (demand (.execute command))
  match controllerCommandNotification command with
  | none => return .done
  | some notification =>
      let _ ← liftM (demand (.notify notification))
      return .done

/-- The local branch of `run_command`. -/
def handleHere (config : AgentConfig) (source : SocketAddr) (command : RemoteCommand) :
    ApiM CommandResponse :=
  match command with
  | .switchStreamDisplay display => switchDisplayHere config source display
  | command => executeHere command

/-- What `run_command` does with a command that does not control a session. -/
def routeCommand (config : AgentConfig) (source : SocketAddr) (command : RemoteCommand)
    (session : Option ActiveSession) : ApiM CommandResponse :=
  match session with
  | some session =>
      match session.role with
      | .remote => relayCommand session.controller command
      | .controller => handleHere config source command
  | none => handleHere config source command

/-- What `run_command` does with a command it has admitted. -/
def applyCommand (config : AgentConfig) (peer : AuthorizedPeer) (source : SocketAddr)
    (request : CommandRequest) : ApiM CommandResponse :=
  if request.command.isSessionControl then
    applySessionCommand config peer source request.command request.session
  else do
    let session ← liftM (onSessions snapshot)
    routeCommand config source request.command session

/-- `run_command`. -/
def runCommand (config : AgentConfig) (source : SocketAddr) (body : Option CommandRequest) :
    ApiM ApiReply := do
  match body with
  | none => throw .bodyRejected
  | some request =>
      let peer ← authorizePeer config source request.command.requiredCapability
      check .ofDomain request.command.validate
      orFail .ofFreshness (demand (.admitRequest request.requestId request.issuedAt))
      return .command (← applyCommand config peer source request)

/-! ### Pairing -/

/-- `sunshine_pair_challenge`. -/
def sunshinePairChallenge (config : AgentConfig) (source : SocketAddr) : ApiM ApiReply := do
  let peer ← authorizePeer config source .approvePairing
  let pairingId ← orFail .ofPairing (onChallenges (issue peer.tailnetNodeId))
  return .challenge { pairingId, expiresInSeconds := config.challengeTtl.asSecs }

/-- `sunshine_pair`. -/
def sunshinePair (config : AgentConfig) (source : SocketAddr) (body : Option SunshinePairRequest) :
    ApiM ApiReply := do
  match body with
  | none => throw .bodyRejected
  | some request =>
      let peer ← authorizePeer config source .approvePairing
      check (fun _ : PairingFieldError =>
          { code := .invalidCommand, message := "The pairing request is not valid." })
        request.validate
      orFail .ofPairing (onChallenges (consume peer.tailnetNodeId request.pairingId))
      orFail .ofPort (demand (.submitPin request.pin request.clientName))
      let _ ← liftM (demand (.notify
        { summary := "Omdesky", body := "Approved stream pairing for " ++ request.clientName }))
      return .paired

/-! ### The router -/

/-- The release header is there and its release is compatible. -/
def releaseAccepted (header : Option String) : Bool := header.any isCompatibleRelease

/-- `require_compatible_release`. -/
def requireCompatibleRelease (header : Option String) : ApiM Unit :=
  check id (if releaseAccepted header then .ok () else .error
    { code := .versionIncompatible
      message := "this device runs Omdesky " ++ Omdesky.release ++
        "; both computers must run the same release" })

/-- The handler of a route. -/
def handler (config : AgentConfig) (source : SocketAddr) : Route → ApiM ApiReply
  | .health => return .health
  | .node => node config source
  | .capabilities => capabilities config source
  | .displays => displays config source
  | .workspaces => workspaces config source
  | .focusWorkspace body => focusWorkspace config source body
  | .windows filter => windows config source filter
  | .activeWindow => activeWindow config source
  | .focusWindow windowId => focusWindow config source windowId
  | .commands body => runCommand config source body
  | .sunshine => sunshineStatus config source
  | .pairChallenge => sunshinePairChallenge config source
  | .pair body => sunshinePair config source body

/-- `router`: every route but `/v1/health` is behind the release check. -/
def handle (config : AgentConfig) (request : HttpRequest) : ApiM ApiReply :=
  if request.route = .health then
    handler config request.source request.route
  else do
    requireCompatibleRelease request.release
    handler config request.source request.route

end Omdesky.Agent
