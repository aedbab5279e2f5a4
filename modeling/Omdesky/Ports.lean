/-
**The ports between the programs and their surroundings (`omdesky-application/src/ports.rs`).**

* `PortError`, `PortResult`: what every port call may fail with, and the text a user sees for it
  (`PortError.userMessage`).
* The values that cross a port: endpoints, notifications, allowlist entries, keybinding
  configurations and external commands.
-/

import Omdesky.Core

namespace Omdesky

/-! ### Errors -/

/-- `PortError`. -/
structure PortError where
  code : String
  message : String
  retryable : Bool
  deriving DecidableEq, Repr, Inhabited

/-- `PortResult`. -/
abbrev PortResult (α : Type) := Except PortError α

/-- `PortError::user_message`. -/
def PortError.userMessage (error : PortError) : String :=
  match error.code with
  | "AGENT_UNREACHABLE" =>
      "This device could not be reached. Check that it is online and connected to Tailscale."
  | "AGENT_PROTOCOL_INVALID" | "AGENT_RESPONSE_LIMIT" | "AGENT_FIELD_LIMIT" =>
      "This device sent an unexpected response. Make sure Omdesky is up to date on both devices."
  | "AGENT_REQUEST_FAILED" =>
      "The other device could not complete the request. Please try again."
  | "UNAUTHORIZED" =>
      "This device is not allowed to connect. Add it to the allowed controllers first."
  | "HYPRLAND_UNAVAILABLE" | "HYPRLAND_DISPATCH_FAILED" =>
      "The desktop could not be controlled. Make sure Hyprland is running."
  | "HYPRLAND_TARGET_MISSING" | "WINDOW_NOT_FOUND" =>
      "The requested window is no longer available."
  | "WORKSPACE_NOT_FOUND" => "The requested workspace could not be found."
  | "DISPLAY_NOT_FOUND" | "DISPLAY_SWITCH_FAILED" =>
      "The requested display is not available for streaming."
  | "SUNSHINE_NOT_INSTALLED" =>
      "Sunshine is not installed on the device you are trying to connect to."
  | "SUNSHINE_NOT_RUNNING" =>
      "Sunshine is not running on the device you are trying to connect to."
  | "SUNSHINE_NOT_READY" =>
      "The other device is not ready to stream yet. Check Sunshine and try again."
  | "SUNSHINE_API_UNAVAILABLE" =>
      "Sunshine needs to be configured on the other device before pairing."
  | "SUNSHINE_PAIRING_FAILED" | "MOONLIGHT_PAIRING_FAILED" =>
      "The devices could not be paired. Check Sunshine and try again."
  | "MOONLIGHT_PAIRING_REQUIRED" =>
      "This device is not paired yet. Run `omdesky pair` first."
  | "MOONLIGHT_NOT_INSTALLED" => "Moonlight is not installed on this device."
  | "STREAM_START_FAILED" =>
      "The stream could not be started. Check Moonlight and try again."
  | "LOCAL_AGENT_UNAVAILABLE" =>
      "The local Omdesky agent is not running. Start omdesky-agent and try again."
  | "REMOTE_AGENT_UNAVAILABLE" =>
      "The remote Omdesky agent stopped responding. The stream was closed."
  | "VERSION_INCOMPATIBLE" =>
      "The other device runs a different Omdesky release. " ++
        "Install the same version on both computers."
  | "LOCAL_AGENT_INCOMPATIBLE" =>
      "The local Omdesky agent runs a different release. Restart omdesky-agent after upgrading."
  | "RATE_LIMITED" => "The other device is busy. Wait a moment and try again."
  | "IDENTITY_UNAVAILABLE" =>
      "The other device could not confirm this computer's Tailscale identity. Try again."
  | "REQUEST_STALE" =>
      "The clocks of the two computers differ too much. Check their time settings."
  | "REQUEST_REPLAYED" => "This action was already applied."
  | "PAIRING_CHALLENGE_INVALID" => "The pairing attempt expired. Start pairing again."
  | "SESSION_ALREADY_OWNED" => "Another computer is already controlling this device."
  | "SESSION_NOT_OWNED" | "SESSION_NOT_FOUND" | "SESSION_NOT_GRANTED" | "NO_CONTROLLER" =>
      "The remote session is no longer active. Connect again."
  | "SESSION_EFFECTS_FAILED" =>
      "The other device could not set up remote shortcuts. Make sure Hyprland is running there."
  | "MOONLIGHT_UNSUPPORTED" => "The installed Moonlight version is not supported."
  | "INVALID_STREAM_PROFILE" => "The stream settings are outside the supported range."
  | "CAPABILITY_DENIED" =>
      "The other device does not allow this action. Grant it there with `omdesky access allow`."
  | "CALLBACK_ACCESS_MISSING" =>
      "This computer does not let the other device send shortcuts back. " ++
        "Run `omdesky access allow` here, naming the other device."
  | "CONTROLLER_UNREACHABLE" =>
      "The other device could not reach this computer's agent. " ++
        "Check that omdesky-agent is running here."
  | "PEER_IDENTITY_UNKNOWN" =>
      "The other device could not be identified through Tailscale."
  | "LOCAL_SUNSHINE_UNCONFIGURED" =>
      "Sunshine is not configured on this device. Run `omdesky setup` and try again."
  | "ACCESS_STORE_FAILED" =>
      "The allowed devices list could not be updated. Check its file permissions."
  | "OMARCHY_UNSUPPORTED_VERSION" =>
      "This Omarchy version is not supported. Omarchy 4 is required."
  | "OMARCHY_VERSION_UNKNOWN" => "The installed Omarchy version could not be detected."
  | "COMMAND_TIMEOUT" => "The operation took too long. Please try again."
  | "COMMAND_NOT_AVAILABLE" =>
      "A required program is not installed or could not be started."
  | "INVALID_COMMAND" | "COMMAND_NOT_EXECUTABLE" =>
      "This action is not available right now."
  | "LAUNCHER_IO_FAILED" =>
      "The desktop shortcut could not be updated. Check the file permissions."
  | _ => "Omdesky could not complete the operation. Please try again."

/-! ### Values -/

/-- `MOONLIGHT_WINDOW_CLASS`. -/
def moonlightWindowClass : String := "com.moonlight_stream.Moonlight"

/-- `AgentEndpoint`. -/
structure AgentEndpoint where
  address : IpAddr
  port : UInt16
  deriving DecidableEq, Repr

/-- `MeshNodeIdentity`. -/
structure MeshNodeIdentity where
  tailnetNodeId : String
  user : Option String
  hostname : Option String
  addresses : List IpAddr
  deriving DecidableEq, Repr

/-- `Notification`. -/
structure Notification where
  summary : String
  body : String
  deriving DecidableEq, Repr

/-- `AllowedController`. -/
structure AllowedController where
  tailnetNodeId : String
  label : Option String
  addedAt : Int
  capabilities : List ControlCapability
  deriving DecidableEq, Repr

/-- `AllowedController::allows`. -/
def AllowedController.allows (entry : AllowedController) (capability : ControlCapability) : Bool :=
  entry.capabilities.contains capability

/-- `StreamHostDescriptor`. -/
structure StreamHostDescriptor where
  address : IpAddr
  application : String
  deriving DecidableEq, Repr

/-- `MAX_STREAM_APPLICATION_BYTES`. -/
def maxStreamApplicationBytes : Nat := 64

/-- `StreamHostDescriptor::validate`. -/
def StreamHostDescriptor.validate (host : StreamHostDescriptor) : PortResult Unit :=
  let name := host.application
  if !name.isEmpty && name.utf8ByteSize ≤ maxStreamApplicationBytes &&
      name.toList.head? != some '-' &&
      name.toList.all fun c => c.isAlphanum || c == ' ' || c == '.' || c == '_' || c == '-' then
    .ok ()
  else
    .error
      { code := "INVALID_STREAM_APPLICATION"
        message := "the remote node advertised an unusable streaming application name"
        retryable := false }

/-- `PairingState`. -/
inductive StreamPairing
  | paired
  | required
  | unsupported
  deriving DecidableEq, Repr

/-- `StreamLaunchRequest`. -/
structure StreamLaunchRequest where
  host : StreamHostDescriptor
  profile : StreamProfile
  fullscreen : Bool
  inputMode : InputMode
  deriving DecidableEq, Repr

/-- `SessionKeybindConfig`. -/
structure SessionKeybindConfig where
  role : SessionRole
  controller : Option AgentEndpoint
  window : WindowSelector
  deriving DecidableEq, Repr

/-! ### External commands -/

/-- `EnvironmentPolicy`. -/
inductive EnvironmentPolicy
  | session
  | inherited
  | empty
  deriving DecidableEq, Repr

/-- `StdinPolicy`. -/
inductive StdinPolicy
  | null
  | inherit
  deriving DecidableEq, Repr

/-- `CapturePolicy`. -/
inductive CapturePolicy
  | both
  | inherit
  | discard
  deriving DecidableEq, Repr

/-- `CommandSpec`. The environment is its variables in order, and the limit of time is in seconds. -/
structure CommandSpec where
  program : String
  args : List String
  environment : List (String × String)
  workingDirectory : Option String
  timeout : Nat
  stdoutLimit : Nat
  stderrLimit : Nat
  environmentPolicy : EnvironmentPolicy
  stdin : StdinPolicy
  capture : CapturePolicy
  redactedArgIndexes : List Nat
  deriving DecidableEq, Repr

/-- `CommandSpec::new`. -/
def CommandSpec.new (program : String) (args : List String) : CommandSpec where
  program
  args
  environment := []
  workingDirectory := none
  timeout := 10
  stdoutLimit := 1024 * 1024
  stderrLimit := 64 * 1024
  environmentPolicy := .session
  stdin := .null
  capture := .both
  redactedArgIndexes := []

/-- `CommandSpec::with_environment_policy`. -/
def CommandSpec.withEnvironmentPolicy (spec : CommandSpec) (policy : EnvironmentPolicy) : CommandSpec :=
  { spec with environmentPolicy := policy }

end Omdesky
