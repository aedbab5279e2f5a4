/-
**The wire protocol (`omdesky-protocol`).**

* `ErrorCode`: the wire vocabulary with its texts, HTTP statuses and retry hints;
  `ErrorCode.fromCode_asStr` reads every code back from its text.
* `ReleaseLine.parse`, `isCompatibleRelease`: the release gate.
* `CommandRequest`, `CommandResponse`, `SunshinePairRequest` with its validation.
-/

import Mathlib.Algebra.Group.Nat.Defs
import Omdesky.Ports

namespace Omdesky

/-! ### Error codes -/

/-- `ErrorCode`. -/
inductive ErrorCode
  | unauthorized
  | capabilityDenied
  | callbackAccessMissing
  | rateLimited
  | identityUnavailable
  | accessStoreFailed
  | versionIncompatible
  | controllerUnreachable
  | noController
  | invalidCommand
  | requestStale
  | requestReplayed
  | pairingChallengeInvalid
  | sessionAlreadyOwned
  | sessionNotOwned
  | sessionNotFound
  | sessionEffectsFailed
  | hyprlandUnavailable
  | displayNotFound
  | workspaceNotFound
  | windowNotFound
  | sunshineNotInstalled
  | sunshineNotRunning
  | sunshineApiUnavailable
  | sunshinePairingFailed
  | internal
  deriving DecidableEq, Repr

namespace ErrorCode

/-- `ErrorCode::ALL`. -/
def all : List ErrorCode :=
  [.unauthorized, .capabilityDenied, .callbackAccessMissing, .rateLimited, .identityUnavailable,
    .accessStoreFailed, .versionIncompatible, .controllerUnreachable, .noController,
    .invalidCommand, .requestStale, .requestReplayed, .pairingChallengeInvalid,
    .sessionAlreadyOwned, .sessionNotOwned, .sessionNotFound, .sessionEffectsFailed,
    .hyprlandUnavailable, .displayNotFound, .workspaceNotFound, .windowNotFound,
    .sunshineNotInstalled, .sunshineNotRunning, .sunshineApiUnavailable, .sunshinePairingFailed,
    .internal]

/-- One row of the `error_codes!` table: the wire text, the HTTP status and the retry hint. -/
def row : ErrorCode → String × Nat × Bool
  | .unauthorized => ("UNAUTHORIZED", 401, false)
  | .capabilityDenied => ("CAPABILITY_DENIED", 403, false)
  | .callbackAccessMissing => ("CALLBACK_ACCESS_MISSING", 403, false)
  | .rateLimited => ("RATE_LIMITED", 429, true)
  | .identityUnavailable => ("IDENTITY_UNAVAILABLE", 503, true)
  | .accessStoreFailed => ("ACCESS_STORE_FAILED", 500, false)
  | .versionIncompatible => ("VERSION_INCOMPATIBLE", 409, false)
  | .controllerUnreachable => ("CONTROLLER_UNREACHABLE", 502, true)
  | .noController => ("NO_CONTROLLER", 409, false)
  | .invalidCommand => ("INVALID_COMMAND", 400, false)
  | .requestStale => ("REQUEST_STALE", 400, false)
  | .requestReplayed => ("REQUEST_REPLAYED", 409, false)
  | .pairingChallengeInvalid => ("PAIRING_CHALLENGE_INVALID", 403, false)
  | .sessionAlreadyOwned => ("SESSION_ALREADY_OWNED", 409, false)
  | .sessionNotOwned => ("SESSION_NOT_OWNED", 403, false)
  | .sessionNotFound => ("SESSION_NOT_FOUND", 404, false)
  | .sessionEffectsFailed => ("SESSION_EFFECTS_FAILED", 503, true)
  | .hyprlandUnavailable => ("HYPRLAND_UNAVAILABLE", 503, true)
  | .displayNotFound => ("DISPLAY_NOT_FOUND", 404, false)
  | .workspaceNotFound => ("WORKSPACE_NOT_FOUND", 404, false)
  | .windowNotFound => ("WINDOW_NOT_FOUND", 404, false)
  | .sunshineNotInstalled => ("SUNSHINE_NOT_INSTALLED", 503, false)
  | .sunshineNotRunning => ("SUNSHINE_NOT_RUNNING", 503, true)
  | .sunshineApiUnavailable => ("SUNSHINE_API_UNAVAILABLE", 503, false)
  | .sunshinePairingFailed => ("SUNSHINE_PAIRING_FAILED", 502, false)
  | .internal => ("INTERNAL_ERROR", 500, false)

/-- `ErrorCode::as_str`. -/
def asStr (code : ErrorCode) : String := code.row.1

/-- `ErrorCode::http_status`. -/
def httpStatus (code : ErrorCode) : Nat := code.row.2.1

/-- `ErrorCode::retryable`. -/
def retryable (code : ErrorCode) : Bool := code.row.2.2

/-- `ErrorCode::from_code`. -/
def fromCode (text : String) : Option ErrorCode := all.find? fun code => code.asStr == text

/-- Every code is read back from its wire text. -/
theorem fromCode_asStr (code : ErrorCode) : fromCode code.asStr = some code := by
  cases code <;> decide

/-- Every code is answered with an error status. -/
theorem httpStatus_bounds (code : ErrorCode) : 400 ≤ code.httpStatus ∧ code.httpStatus < 600 := by
  cases code <;> decide

end ErrorCode

/-! ### Releases -/

/-- `PROTOCOL`. -/
def protocol : UInt16 := 2

/-- `RELEASE`, the package version the programs are built with. -/
def release : String := "0.2.0"

/-- `RELEASE_HEADER`. -/
def releaseHeader : String := "omdesky-release"

/-- `MAX_RELEASE_BYTES`. -/
def maxReleaseBytes : Nat := 64

/-- `ReleaseLine`. -/
structure ReleaseLine where
  major : Nat
  minor : Nat
  deriving DecidableEq, Repr

/-- `ReleaseLine` in its derived order. -/
def ReleaseLine.newerThan (line other : ReleaseLine) : Bool :=
  other.major < line.major || (other.major == line.major && other.minor < line.minor)

/-- `parse_component`: a canonical decimal number that fits 64 bits. -/
def parseComponent (component : List Char) : Option Nat :=
  if !component.isEmpty && component.all Char.isDigit &&
      (component == ['0'] || component.head? != some '0') then
    let value := component.foldl (fun value c => value * 10 + (c.toNat - '0'.toNat)) 0
    if value < 2 ^ 64 then some value else none
  else none

/-- `ReleaseLine::parse`. -/
def ReleaseLine.parse (version : String) : Option ReleaseLine :=
  if version.isEmpty || maxReleaseBytes < version.utf8ByteSize then none
  else
    let core := version.toList.takeWhile fun c => c != '-' && c != '+'
    match core.splitOn '.' with
    | [major, minor, patch] => do
        let major ← parseComponent major
        let minor ← parseComponent minor
        let _ ← parseComponent patch
        return { major, minor }
    | _ => none

/-- `ReleaseLine::current`. -/
def ReleaseLine.current : Option ReleaseLine := ReleaseLine.parse release

/-- `is_compatible_release`. -/
def isCompatibleRelease (version : String) : Bool :=
  match ReleaseLine.parse release with
  | some current => ReleaseLine.parse version == some current
  | none => false

example : isCompatibleRelease release = true := by decide

/-! ### Requests and responses -/

/-- `HealthResponse`. -/
structure HealthResponse where
  status : String
  protocol : UInt16
  agentVersion : String
  deriving DecidableEq, Repr

/-- `NodeInfoResponse`. -/
structure NodeInfoResponse where
  nodeId : String
  hostname : String
  omarchyVersion : String
  agentVersion : String
  capabilities : List String
  deriving DecidableEq, Repr

/-- `CommandRequest`. The issue time is in nanoseconds of the wall clock. -/
structure CommandRequest where
  command : RemoteCommand
  session : Option SessionClaim
  requestId : Uuid
  issuedAt : Int
  deriving DecidableEq, Repr

/-- `CommandResponse`. -/
structure CommandResponse where
  executed : Bool
  session : Option SessionGrant
  deriving DecidableEq, Repr

namespace CommandResponse

/-- `CommandResponse::executed`. -/
def done : CommandResponse := { executed := true, session := none }

/-- `CommandResponse::ignored`. -/
def ignored : CommandResponse := { executed := false, session := none }

/-- `CommandResponse::granted`. -/
def granted (session : SessionGrant) : CommandResponse := { executed := true, session := session }

end CommandResponse

/-- `SunshineStatusResponse`. -/
structure SunshineStatusResponse where
  installed : Bool
  running : Bool
  ready : Bool
  desktopApp : Option String
  pairingApiAvailable : Bool
  deriving DecidableEq, Repr

/-- `SunshinePairChallengeResponse`. -/
structure SunshinePairChallengeResponse where
  pairingId : String
  expiresInSeconds : Nat
  deriving DecidableEq, Repr

/-- `MAX_PAIRING_ID_BYTES`. -/
def maxPairingIdBytes : Nat := 64

/-- `MAX_CLIENT_NAME_BYTES`. -/
def maxClientNameBytes : Nat := 64

/-- `SunshinePairRequest`. -/
structure SunshinePairRequest where
  pairingId : String
  pin : String
  clientName : String
  deriving DecidableEq, Repr

/-- `PairingFieldError`. -/
inductive PairingFieldError
  | pin
  | clientName
  | pairingId
  deriving DecidableEq, Repr

/-- `char::is_ascii_graphic`. -/
def isAsciiGraphic (c : Char) : Bool := '!' ≤ c && c ≤ '~'

/-- `SunshinePairRequest::validate`. -/
def SunshinePairRequest.validate (request : SunshinePairRequest) :
    Except PairingFieldError Unit :=
  if !(request.pin.utf8ByteSize == 4 && request.pin.toList.all Char.isDigit) then
    .error .pin
  else if !(!request.clientName.isEmpty && request.clientName.utf8ByteSize ≤ maxClientNameBytes &&
      request.clientName.toList.all fun c => isAsciiGraphic c || c == ' ') then
    .error .clientName
  else if !(!request.pairingId.isEmpty && request.pairingId.utf8ByteSize ≤ maxPairingIdBytes &&
      request.pairingId.toList.all fun c => c.isAlphanum || c == '-') then
    .error .pairingId
  else
    .ok ()

end Omdesky
