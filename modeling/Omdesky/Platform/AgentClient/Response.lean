/-
**A response of an agent, from its header to its value.**

* `ErrorEnvelope`, `encodeCapabilities`, `decodeCapabilities`: the documents. A capability that this
  release does not know is left out.
* `readBody`, `parse`: the body comes in chunks and is held to a limit; a status that is no success
  makes an error of it.
* `grantedCapabilities`: the call, from its response on.
* `grantedCapabilities_of_delivered`: **what an agent grants arrives**, if its answer is within the limit.
-/

import Omdesky.Collections.Gathering
import Omdesky.Json.Compact
import Omdesky.Platform.Access.Limit
import Omdesky.Platform.AgentClient

namespace Omdesky

open Collections Json Platform

/-! ### Documents -/

/-- `ProtocolError`. -/
structure ProtocolError where
  code : String
  message : String
  retryable : Bool
  deriving DecidableEq, Repr

/-- `ErrorEnvelope`. -/
structure ErrorEnvelope where
  error : ProtocolError
  deriving DecidableEq, Repr

/-- `ProtocolError::known_code`. -/
def ProtocolError.knownCode (error : ProtocolError) : Option ErrorCode := ErrorCode.fromCode error.code

/-- `ErrorEnvelope::new`. -/
def ErrorEnvelope.new (code : ErrorCode) (message : String) : ErrorEnvelope where
  error := { code := code.asStr, message, retryable := code.retryable }

/-- A truth value. -/
def asBool : Document → Option Bool
  | .bool value => some value
  | _ => none

/-- The document of an envelope. -/
def ErrorEnvelope.encode (envelope : ErrorEnvelope) : Document :=
  .object [("error", .object [("code", .string envelope.error.code),
    ("message", .string envelope.error.message), ("retryable", .bool envelope.error.retryable)])]

/-- What is read of an error. -/
def ProtocolError.decode (value : Document) : Option ProtocolError := do
  let fields ← members ["code", "message", "retryable"] value
  return { code := ← requiredField "code" asString fields
           message := ← requiredField "message" asString fields
           retryable := ← requiredField "retryable" asBool fields }

/-- What is read of an envelope. -/
def ErrorEnvelope.decode (value : Document) : Option ErrorEnvelope := do
  let fields ← members ["error"] value
  return { error := ← requiredField "error" ProtocolError.decode fields }

/-- `ControlCapability::from_str`. -/
def ControlCapability.fromStr (value : String) : Option ControlCapability :=
  ControlCapability.all.find? fun capability => capability.asStr == value

/-- The document of a `CapabilitiesResponse`. -/
def encodeCapabilities (capabilities : List ControlCapability) : Document :=
  .object [("capabilities", .array (capabilities.map fun capability => .string capability.asStr))]

/-- `known_capabilities`. -/
def knownCapabilities (value : Document) : Option (List ControlCapability) :=
  (asList asString value).map fun values => values.filterMap ControlCapability.fromStr

/-- What is read of a `CapabilitiesResponse`. -/
def decodeCapabilities (value : Document) : Option (List ControlCapability) := do
  requiredField "capabilities" knownCapabilities (← members ["capabilities"] value)

theorem fromStr_asStr (capability : ControlCapability) :
    ControlCapability.fromStr capability.asStr = some capability := by
  cases capability <;> decide

/-- **The tolerant reader** reads every list of capabilities as it was written. -/
theorem decodeCapabilities_encode (capabilities : List ControlCapability) :
    decodeCapabilities (encodeCapabilities capabilities) = some capabilities := by
  have texts : asList asString
      (.array (capabilities.map fun capability => Value.string capability.asStr) : Document) =
        some (capabilities.map ControlCapability.asStr) := by
    have known : ∀ text ∈ capabilities.map ControlCapability.asStr,
        asString (Value.string text : Document) = some text := fun _ _ => rfl
    have read := asList_map known
    rw [List.map_map] at read
    exact read
  have known : (capabilities.map ControlCapability.asStr).filterMap ControlCapability.fromStr =
      capabilities := by
    rw [List.filterMap_map]
    exact (List.filterMap_congr fun capability _ => fromStr_asStr capability).trans List.filterMap_some
  have opened : decodeCapabilities (encodeCapabilities capabilities) =
      requiredField "capabilities" knownCapabilities [("capabilities", .array (capabilities.map
        fun capability => .string capability.asStr))] := rfl
  rw [opened, requiredField_eq (field_single _ _), knownCapabilities, texts]
  exact congrArg some known

namespace Platform

/-! ### Responses -/

/-- `MAX_RESPONSE_BYTES`. -/
def maxResponseBytes : Nat := 1024 * 1024

/-- `StatusCode`, with the text it is displayed as. -/
structure StatusCode where
  code : Nat
  display : String
  deriving DecidableEq, Repr

/-- A response: its status, the text of its release header, and its chunks as far as they come. -/
structure HttpResponse where
  status : StatusCode
  release : Option String
  chunks : List (PortResult (List UInt8))

/-- `StatusCode::is_success`. -/
def StatusCode.isSuccess (status : StatusCode) : Bool := 200 ≤ status.code && status.code < 300

/-- `StatusCode::is_server_error`. -/
def StatusCode.isServerError (status : StatusCode) : Bool := 500 ≤ status.code && status.code < 600

/-- `release_mismatch`. -/
def releaseMismatch (remote : Option String) : PortError where
  code := "VERSION_INCOMPATIBLE"
  message := "the device runs Omdesky " ++
    (remote.map fun release => sanitizeForDisplay release displayNameLimit).getD "an earlier release" ++
    " and this computer runs " ++ release
  retryable := false

/-- `verify_release`. -/
def verifyRelease (response : HttpResponse) : PortResult Unit :=
  if response.release.any isCompatibleRelease then .ok () else .error (releaseMismatch response.release)

/-- The loop of `HttpAgentClient::parse`: a turn for each chunk. -/
def readBody : Loop UInt8 (PortResult (List UInt8)) PortError where
  turn body
    | .error error => .returned (.error error)
    | .ok chunk =>
        if maxResponseBytes < body.length + chunk.length then
          .returned (.error
            { code := "AGENT_RESPONSE_LIMIT"
              message := "the device response exceeded the maximum size"
              retryable := false })
        else .again (body ++ chunk)
  finish body := .ok body

/-- `http_error`. -/
def httpError (status : StatusCode) (envelope : Option ErrorEnvelope) : PortError :=
  match envelope.bind (·.error.knownCode), envelope with
  | some code, some envelope =>
      { code := code.asStr, message := envelope.error.message, retryable := envelope.error.retryable }
  | none, some envelope =>
      { code := "AGENT_REQUEST_FAILED"
        message := envelope.error.message
        retryable := envelope.error.retryable }
  | _, none =>
      { code := "AGENT_REQUEST_FAILED"
        message := "agent returned HTTP " ++ status.display
        retryable := status.isServerError }

variable (libraries : Libraries)

/-- `serde_json::from_slice`, for a value that is decoded so. -/
def fromBytes {α : Type} (decode : Document → Option α) (bytes : List UInt8) : Option α :=
  (libraries.parse bytes).toOption.bind decode

/-- `HttpAgentClient::parse`. -/
def parse {α : Type} (decode : Document → Option α) (response : HttpResponse) : PortResult α := do
  let body ← readBody.run [] response.chunks
  if !response.status.isSuccess then
    throw (httpError response.status (fromBytes libraries ErrorEnvelope.decode body))
  match fromBytes libraries decode body with
  | some value => return value
  | none =>
      throw
        { code := "AGENT_PROTOCOL_INVALID"
          message := "the device returned an incompatible response"
          retryable := false }

/-- `HttpAgentClient::granted_capabilities`, from the response on. -/
def grantedCapabilities (response : HttpResponse) : PortResult (List ControlCapability) := do
  let () ← verifyRelease response
  parse libraries decodeCapabilities response

/-! ### What is delivered -/

section Delivery

variable {libraries}

/-- The error of a body past its limit. -/
def responseLimitError : PortError where
  code := "AGENT_RESPONSE_LIMIT"
  message := "the device response exceeded the maximum size"
  retryable := false

theorem gathers_readBody :
    Gathers maxResponseBytes .ok (fun _ => True) responseLimitError readBody where
  ended _ := rfl
  kept _ _ _ fits := if_neg (Nat.not_lt.mpr fits)
  refused _ _ _ past := if_pos past

/-- A body that comes in chunks is read up to the limit. -/
theorem readBody_ok (chunks : List (List UInt8)) (small : chunks.flatten.length ≤ maxResponseBytes) :
    readBody.run [] (chunks.map .ok) = .ok chunks.flatten :=
  (gathers_readBody.run_eq (Nat.zero_le _) fun _ _ => trivial).trans (if_pos small)

/-- **What an agent grants arrives**, if it is within the limit. -/
theorem grantedCapabilities_of_delivered {response : HttpResponse} {chunks : List (List UInt8)}
    {capabilities : List ControlCapability}
    (compatible : response.release.any isCompatibleRelease = true)
    (success : response.status.isSuccess = true) (arrived : response.chunks = chunks.map .ok)
    (small : chunks.flatten.length ≤ maxResponseBytes)
    (parses : libraries.parse chunks.flatten = .ok (encodeCapabilities capabilities)) :
    grantedCapabilities libraries response = .ok capabilities := by
  have whole : readBody.run [] response.chunks = .ok chunks.flatten := by
    rw [arrived, readBody_ok chunks small]
  have decoded : fromBytes libraries decodeCapabilities chunks.flatten = some capabilities := by
    rw [fromBytes, parses]
    exact decodeCapabilities_encode capabilities
  rw [grantedCapabilities, verifyRelease, if_pos compatible]
  change parse libraries decodeCapabilities response = _
  rw [parse, whole]
  simp only [success, bind, Except.bind, decoded]
  rfl

/-- A status that is no success makes an error. -/
theorem grantedCapabilities_of_refused {response : HttpResponse}
    (refused : response.status.isSuccess = false) :
    ∃ error, grantedCapabilities libraries response = .error error := by
  unfold grantedCapabilities verifyRelease
  split
  · change ∃ error, parse libraries decodeCapabilities response = .error error
    unfold parse
    cases readBody.run [] response.chunks with
    | error error => exact ⟨error, rfl⟩
    | ok body =>
        simp only [refused, bind, Except.bind]
        exact ⟨_, rfl⟩
  · exact ⟨_, rfl⟩

end Delivery

end Platform

end Omdesky
