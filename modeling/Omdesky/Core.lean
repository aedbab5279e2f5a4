/-
**The shared domain (`omdesky-core`).**

Identifiers, addresses, capabilities, session claims and the remote commands, with their
validation as the code performs it.

* `Instant`, `Duration`: nanoseconds of the monotonic clock.
* `isTailscaleAddress`, `isWindowAddress`, `WindowSelector.validate`, `KeyChord.validate`,
  `DisplayId.validate`, `SessionEndpoint.validate`: the checks on data from another computer.
* `RemoteCommand`: the six commands, `RemoteCommand.validate`, the capability each requires
  (`RemoteCommand.requiredCapability`) and which of them control a session
  (`RemoteCommand.isSessionControl`).
-/

import Mathlib.Tactic.Common

namespace Omdesky

/-! ### Time -/

/-- A reading of the monotonic clock, in nanoseconds. -/
abbrev Instant := Nat

/-- A length of time, in nanoseconds. -/
abbrev Duration := Nat

/-- `Duration::from_secs`. -/
def Duration.fromSecs (seconds : Nat) : Duration := seconds * 1000000000

/-- `Duration::as_secs`: whole seconds. -/
def Duration.asSecs (duration : Duration) : Nat := duration / 1000000000

/-- `Duration::as_secs_f64`, exactly. -/
def Duration.asSecsExact (duration : Duration) : Rat := duration / 1000000000

/-! ### Identifiers and addresses -/

/-- A version-4 UUID, as its 128 bits. -/
abbrev Uuid := BitVec 128

/-- `SessionId`. -/
structure SessionId where
  uuid : Uuid
  deriving DecidableEq, Repr

/-- `std::net::IpAddr`: four octets or eight segments. -/
inductive IpAddr
  | v4 (a b c d : UInt8)
  | v6 (s0 s1 s2 s3 s4 s5 s6 s7 : UInt16)
  deriving DecidableEq, Repr

/-- `IpAddr::is_ipv4`. -/
def IpAddr.isIpv4 : IpAddr → Bool
  | .v4 .. => true
  | .v6 .. => false

/-- The first longest run of zeros: its start and its length. -/
def longestZeros (segments : List UInt16) : Nat × Nat :=
  (segments.zipIdx.foldl
    (fun (longest, current) (segment, index) =>
      if segment = 0 then
        let current := if current.2 = 0 then (index, 1) else (current.1, current.2 + 1)
        (if longest.2 < current.2 then current else longest, current)
      else (longest, (0, 0)))
    ((0, 0), (0, 0))).1

/-- Segments in hexadecimal, between colons. -/
def segmentsText (segments : List UInt16) : String :=
  ":".intercalate (segments.map fun segment => String.ofList (Nat.toDigits 16 segment.toNat))

/-- The text of an address: octets between dots, or segments with the longest run of zeros left
out; a mapped address ends with its octets. -/
def IpAddr.display : IpAddr → String
  | .v4 a b c d => ".".intercalate ([a, b, c, d].map fun octet => toString octet.toNat)
  | .v6 0 0 0 0 0 0xffff high low =>
      "::ffff:" ++ ".".intercalate ([high / 256, high % 256, low / 256, low % 256].map
        fun octet => toString octet.toNat)
  | .v6 s0 s1 s2 s3 s4 s5 s6 s7 =>
      let segments := [s0, s1, s2, s3, s4, s5, s6, s7]
      let (start, length) := longestZeros segments
      if 1 < length then
        segmentsText (segments.take start) ++ "::" ++ segmentsText (segments.drop (start + length))
      else segmentsText segments

/-- `std::net::SocketAddr`. -/
structure SocketAddr where
  ip : IpAddr
  port : UInt16
  deriving DecidableEq, Repr

/-- `is_tailscale_address`: the shared address range and the Tailscale prefix. -/
def isTailscaleAddress : IpAddr → Bool
  | .v4 a b _ _ => a == 100 && (64 ≤ b && b < 128)
  | .v6 s0 s1 s2 _ _ _ _ _ => s0 == 0xfd7a && s1 == 0x115c && s2 == 0xa1e0

/-- `DomainError`. -/
inductive DomainError
  | invalidKeyChord
  | invalidWindowSelector
  | invalidSessionEndpoint
  | invalidDisplayId
  | invalidStreamProfile
  | unknownCapability
  deriving DecidableEq, Repr

/-- The texts of `DomainError`. -/
def DomainError.message : DomainError → String
  | .invalidKeyChord => "key chord key must be a short ASCII-alphanumeric token"
  | .invalidWindowSelector => "window selector is not a safe class token"
  | .invalidSessionEndpoint => "session endpoint requires a controller address and non-zero port"
  | .invalidDisplayId => "display identifier is not a safe monitor token"
  | .invalidStreamProfile =>
      "stream profile is outside the supported resolution, frame rate or bitrate range"
  | .unknownCapability => "unknown control capability"

/-- `char::is_whitespace`: the Unicode property `White_Space`. -/
def isWhitespace (c : Char) : Bool :=
  let code := c.toNat
  (9 ≤ code && code ≤ 13) || code == 0x20 || code == 0x85 || code == 0xa0 || code == 0x1680 ||
    (0x2000 ≤ code && code ≤ 0x200a) || code == 0x2028 || code == 0x2029 || code == 0x202f ||
    code == 0x205f || code == 0x3000

/-! ### Nodes -/

/-- `NodeStatus`. -/
inductive NodeStatus
  | ready
  | blocked
  | offline
  | unavailable
  deriving DecidableEq, Repr

/-- `BlockerCode`. -/
inductive BlockerCode
  | incompatible
  | denied
  | needsAccess
  deriving DecidableEq, Repr

/-- `BlockerSide`. -/
inductive BlockerSide
  | local
  | remote
  deriving DecidableEq, Repr

/-- `NodeBlocker`. -/
structure NodeBlocker where
  code : BlockerCode
  side : BlockerSide
  fix : String
  deriving DecidableEq, Repr

/-- `ConnectionKind`. -/
inductive ConnectionKind
  | direct
  | relay
  | unknown
  deriving DecidableEq, Repr

/-- `MeshPeer`. -/
structure MeshPeer where
  tailnetNodeId : String
  dnsName : Option String
  hostname : Option String
  ips : List IpAddr
  online : Bool
  connection : ConnectionKind
  latencyMs : Option UInt32
  deriving DecidableEq, Repr

/-! ### Displays, workspaces and windows -/

/-- `DisplayId`. -/
structure DisplayId where
  value : String
  deriving DecidableEq, Repr

/-- `DisplayId::validate`. -/
def DisplayId.validate (display : DisplayId) : Except DomainError Unit :=
  if display.value.isEmpty || 64 < display.value.utf8ByteSize then
    .error .invalidDisplayId
  else if display.value.toList.all fun c => c.isAlphanum || c == '-' || c == '_' || c == '.' then
    .ok ()
  else
    .error .invalidDisplayId

/-- `Display`. The refresh rate, which nothing here reads, is left out. -/
structure Display where
  id : String
  name : String
  width : UInt32
  height : UInt32
  focused : Bool
  deriving DecidableEq, Repr

/-- `RemoteDesktopTopology`. -/
structure RemoteDesktopTopology where
  displays : List DisplayId
  focused : Option DisplayId
  deriving DecidableEq, Repr

/-- `RemoteDesktopTopology::preferred`. -/
def RemoteDesktopTopology.preferred (topology : RemoteDesktopTopology) : Option DisplayId :=
  topology.focused.or topology.displays.head?

/-- `follow_focus_target`. -/
def followFocusTarget (topology : RemoteDesktopTopology) (streamed : DisplayId) :
    Option DisplayId := do
  let target ← topology.preferred
  if target ≠ streamed then some target else none

/-- `Workspace`. -/
structure Workspace where
  id : Int
  name : Option String
  monitor : Option String
  focused : Bool
  windows : UInt32
  deriving DecidableEq, Repr

/-- `Window`. -/
structure Window where
  id : String
  appId : Option String
  windowClass : Option String
  title : Option String
  workspace : Int
  focused : Bool
  deriving DecidableEq, Repr

/-- `WorkspaceTarget`. -/
inductive WorkspaceTarget
  | id (id : Int)
  | name (name : String)
  deriving DecidableEq, Repr

/-! ### Key chords and window selectors -/

/-- `KeyModifier`. -/
inductive KeyModifier
  | super
  | ctrl
  | alt
  | shift
  deriving DecidableEq, Repr

/-- `KeyModifier::as_hypr`. -/
def KeyModifier.asHypr : KeyModifier → String
  | .super => "SUPER"
  | .ctrl => "CTRL"
  | .alt => "ALT"
  | .shift => "SHIFT"

/-- `KeyChord`. A decoded chord keeps the modifier list it was sent with. -/
structure KeyChord where
  mods : List KeyModifier
  key : String
  deriving DecidableEq, Repr

/-- `is_safe_key_token`. -/
def isSafeKeyToken (key : String) : Bool :=
  !key.isEmpty && key.utf8ByteSize ≤ 32 && key.toList.all Char.isAlphanum

/-- `KeyChord::validate`. -/
def KeyChord.validate (chord : KeyChord) : Except DomainError Unit :=
  if isSafeKeyToken chord.key then .ok () else .error .invalidKeyChord

/-- `KeyChord::new`: the modifiers are sorted, each once. -/
def KeyChord.new (mods : List KeyModifier) (key : String) : Except DomainError KeyChord := do
  let chord : KeyChord := { mods := [.super, .ctrl, .alt, .shift].filter mods.contains, key }
  chord.validate
  return chord

/-- `KeyChord::modifiers_hypr`. -/
def KeyChord.modifiersHypr (chord : KeyChord) : String :=
  " ".intercalate (chord.mods.map KeyModifier.asHypr)

/-- `WindowSelector`. -/
inductive WindowSelector
  | activeWindow
  | byClass (name : String)
  | address (value : String)
  deriving DecidableEq, Repr

/-- `is_safe_class_char`. -/
def isSafeClassChar (c : Char) : Bool :=
  c.isAlphanum || c == '.' || c == '_' || c == '-'

/-- `char::is_ascii_hexdigit`. -/
def isAsciiHexdigit (c : Char) : Bool :=
  c.isDigit || ('a' ≤ c && c ≤ 'f') || ('A' ≤ c && c ≤ 'F')

/-- `0x` and at least one hexadecimal digit. -/
def isHexHandle (value : String) : Bool :=
  match value.toList with
  | '0' :: 'x' :: hex => !hex.isEmpty && hex.all isAsciiHexdigit
  | _ => false

/-- `is_window_address`. -/
def isWindowAddress (value : String) : Bool :=
  value.utf8ByteSize ≤ 34 && isHexHandle value

theorem isAlphanum_iff {c : Char} :
    c.isAlphanum = true ↔ (65 ≤ c.toNat ∧ c.toNat ≤ 90) ∨ (97 ≤ c.toNat ∧ c.toNat ≤ 122) ∨
      (48 ≤ c.toNat ∧ c.toNat ≤ 57) := by
  change ((decide ('A'.val ≤ c.val ∧ c.val ≤ 'Z'.val) ||
    (decide ('a'.val ≤ c.val) && decide (c.val ≤ 'z'.val))) || c.isDigit) = true ↔ _
  simp only [Char.isDigit, Bool.or_eq_true, Bool.and_eq_true, decide_eq_true_eq, or_assoc]
  rfl

theorem isAlphanum_of_isAsciiHexdigit {c : Char} (digit : isAsciiHexdigit c = true) :
    c.isAlphanum = true := by
  rw [isAlphanum_iff]
  simp [isAsciiHexdigit, Char.isDigit, Char.le_def, UInt32.le_iff_toNat_le] at digit
  omega

theorem isAlphanum_of_isHexHandle {value : String} (handle : isHexHandle value = true) :
    ∀ c ∈ value.toList, c.isAlphanum = true := by
  unfold isHexHandle at handle
  split at handle
  · next hex written =>
      simp only [Bool.and_eq_true, List.all_eq_true] at handle
      rw [written]
      simp only [List.forall_mem_cons]
      exact ⟨by decide, by decide, fun c member => isAlphanum_of_isAsciiHexdigit (handle.2 c member)⟩
  · cases handle

/-- A window's address is written with letters and digits. -/
theorem isAlphanum_of_isWindowAddress {value : String} (address : isWindowAddress value = true) :
    ∀ c ∈ value.toList, c.isAlphanum = true := by
  rw [isWindowAddress, Bool.and_eq_true] at address
  exact isAlphanum_of_isHexHandle address.2

/-- `WindowSelector::validate`. -/
def WindowSelector.validate : WindowSelector → Except DomainError Unit
  | .activeWindow => .ok ()
  | .byClass name =>
      if !name.isEmpty && name.toList.all isSafeClassChar then .ok ()
      else .error .invalidWindowSelector
  | .address value =>
      if isWindowAddress value then .ok () else .error .invalidWindowSelector

theorem validate_byClass_iff {name : String} :
    (WindowSelector.byClass name).validate = .ok () ↔
      name.toList ≠ [] ∧ ∀ c ∈ name.toList, isSafeClassChar c = true := by
  simp [WindowSelector.validate, String.toList_eq_nil_iff]

theorem validate_address_iff {value : String} :
    (WindowSelector.address value).validate = .ok () ↔ isWindowAddress value = true := by
  simp [WindowSelector.validate]

/-- `WindowSelector::as_hypr`. -/
def WindowSelector.asHypr : WindowSelector → String
  | .activeWindow => "activewindow"
  | .byClass name => "class:" ++ name
  | .address value => "address:" ++ value

/-! ### Sessions -/

/-- `SessionRole`. -/
inductive SessionRole
  | controller
  | remote
  deriving DecidableEq, Repr

/-- `SessionEndpoint`. -/
structure SessionEndpoint where
  address : IpAddr
  port : UInt16
  deriving DecidableEq, Repr

/-- `SessionEndpoint::validate`. -/
def SessionEndpoint.validate (endpoint : SessionEndpoint) : Except DomainError Unit :=
  if endpoint.port == 0 then .error .invalidSessionEndpoint else .ok ()

/-- `SessionClaim`. -/
structure SessionClaim where
  id : SessionId
  generation : Nat
  deriving DecidableEq, Repr

/-- `SessionGrant`. -/
structure SessionGrant where
  id : SessionId
  generation : Nat
  leaseSeconds : Nat
  deriving DecidableEq, Repr

/-- `SessionGrant::claim`. -/
def SessionGrant.claim (grant : SessionGrant) : SessionClaim :=
  { id := grant.id, generation := grant.generation }

/-! ### Streams -/

/-- `CodecPreference`. -/
inductive CodecPreference
  | auto
  | h264
  | hevc
  | av1
  deriving DecidableEq, Repr

/-- `StreamProfile`. -/
structure StreamProfile where
  width : Nat
  height : Nat
  fps : Nat
  codecPreference : CodecPreference
  audio : Bool
  bitrateKbps : Option Nat
  deriving DecidableEq, Repr

/-- `StreamProfile::default`. -/
def StreamProfile.default : StreamProfile where
  width := 1920
  height := 1080
  fps := 60
  codecPreference := .auto
  audio := true
  bitrateKbps := none

/-- `MIN_STREAM_WIDTH`. -/
def minStreamWidth : Nat := 320

/-- `MAX_STREAM_WIDTH`. -/
def maxStreamWidth : Nat := 7680

/-- `MIN_STREAM_HEIGHT`. -/
def minStreamHeight : Nat := 240

/-- `MAX_STREAM_HEIGHT`. -/
def maxStreamHeight : Nat := 4320

/-- `MIN_STREAM_FPS`. -/
def minStreamFps : Nat := 15

/-- `MAX_STREAM_FPS`. -/
def maxStreamFps : Nat := 480

/-- `MIN_STREAM_BITRATE_KBPS`. -/
def minStreamBitrateKbps : Nat := 500

/-- `MAX_STREAM_BITRATE_KBPS`. -/
def maxStreamBitrateKbps : Nat := 500000

/-- `StreamProfile::validate`. -/
def StreamProfile.validate (profile : StreamProfile) : Except DomainError Unit :=
  if minStreamWidth ≤ profile.width && profile.width ≤ maxStreamWidth &&
      minStreamHeight ≤ profile.height && profile.height ≤ maxStreamHeight &&
      minStreamFps ≤ profile.fps && profile.fps ≤ maxStreamFps &&
      profile.bitrateKbps.all fun kbps =>
        minStreamBitrateKbps ≤ kbps && kbps ≤ maxStreamBitrateKbps then
    .ok ()
  else .error .invalidStreamProfile

example : StreamProfile.default.validate = .ok () := by decide

/-- `InputMode`. -/
inductive InputMode
  | local
  | remote
  deriving DecidableEq, Repr

/-! ### Capabilities and commands -/

/-- `ControlCapability`. -/
inductive ControlCapability
  | readMetadata
  | focusWorkspace
  | controlSession
  | sendShortcut
  | closeStream
  | approvePairing
  deriving DecidableEq, Repr

/-- `ControlCapability::ALL`. -/
def ControlCapability.all : List ControlCapability :=
  [.readMetadata, .focusWorkspace, .controlSession, .sendShortcut, .closeStream, .approvePairing]

/-- `ControlCapability::as_str`. -/
def ControlCapability.asStr : ControlCapability → String
  | .readMetadata => "read_metadata"
  | .focusWorkspace => "focus_workspace"
  | .controlSession => "control_session"
  | .sendShortcut => "send_shortcut"
  | .closeStream => "close_stream"
  | .approvePairing => "approve_pairing"

/-- `ControlCapability::CALLBACK`. -/
def ControlCapability.callback : List ControlCapability := [.sendShortcut, .closeStream]

/-- `RemoteCommand`. -/
inductive RemoteCommand
  | sendShortcut (chord : KeyChord) (window : WindowSelector)
  | closeWindow (window : WindowSelector)
  | switchStreamDisplay (display : DisplayId)
  | attachSession (role : SessionRole) (controller : Option SessionEndpoint)
      (window : Option WindowSelector)
  | detachSession
  | renewSession
  deriving DecidableEq, Repr

namespace RemoteCommand

/-- `RemoteCommand::validate`. -/
def validate : RemoteCommand → Except DomainError Unit
  | .sendShortcut chord window => do
      chord.validate
      window.validate
  | .closeWindow window => window.validate
  | .switchStreamDisplay display => display.validate
  | .attachSession role controller window => do
      if let some window := window then
        window.validate
      match role, controller with
      | .remote, some endpoint => endpoint.validate
      | .remote, none => .error .invalidSessionEndpoint
      | .controller, _ => .ok ()
  | .detachSession | .renewSession => .ok ()

/-- `RemoteCommand::is_session_control`. -/
def isSessionControl : RemoteCommand → Bool
  | .attachSession _ _ _ | .detachSession | .renewSession => true
  | _ => false

/-- `RemoteCommand::required_capability`. -/
def requiredCapability : RemoteCommand → ControlCapability
  | .sendShortcut _ _ | .switchStreamDisplay _ => .sendShortcut
  | .closeWindow _ => .closeStream
  | .attachSession _ _ _ | .detachSession | .renewSession => .controlSession

end RemoteCommand

end Omdesky
