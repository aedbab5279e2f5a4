/-
**What becomes of an error on its way between agents.**

An agent answers a failure of its ports with an envelope, and the client that asked makes an error of
the envelope again, which may be the failure of a further agent.

* `ErrorEnvelope.decode_encode`: an envelope is read as it was written.
* `length_jsonBody_ofPort_le`: the envelope of a failure is within the limit of the client.
* `HandedOn`, `Passed`: one agent and its client, and a chain of them.
* `passed_iff`: **what arrives is decided by the code alone**. No detail of the failure gets past the
  first agent.
-/

import Omdesky.CallbackAccess

namespace Omdesky

open Json Platform

/-! ### The envelope -/

/-- An envelope is read as it was written. -/
theorem ErrorEnvelope.decode_encode (envelope : ErrorEnvelope) :
    ErrorEnvelope.decode envelope.encode = some envelope := by
  simp [ErrorEnvelope.decode, ErrorEnvelope.encode, ProtocolError.decode, members, requiredField, field,
    asString, asBool]

/-- What stands before the message in the text of an envelope. -/
private def beforeMessage (code : ErrorCode) : List Piece :=
  [.own "\x7b", .own "\"", .own (escape "error"), .own "\":", .own "\x7b", .own "\"",
    .own (escape "code"), .own "\":", .own "\"", .given (escape code.asStr), .own "\"", .own ",",
    .own "\"", .own (escape "message"), .own "\":", .own "\""]

/-- What stands after it. -/
private def afterMessage (code : ErrorCode) : List Piece :=
  [.own "\"", .own ",", .own "\"", .own (escape "retryable"), .own "\":",
    .own (if code.retryable then "true" else "false"), .own "\x7d", .own "\x7d"]

/-- The bytes of an envelope. -/
theorem length_jsonBody_envelope (code : ErrorCode) (message : String) :
    (jsonBody (ErrorEnvelope.new code message).encode).length =
      pieceBytes (beforeMessage code) + (escape message).utf8ByteSize +
        pieceBytes (afterMessage code) := by
  have pieces (write : Writer Empty) : compact write (ErrorEnvelope.new code message).encode =
      beforeMessage code ++ .given (escape message) :: afterMessage code := rfl
  rw [jsonBody, length_flatten_pieces, pieces, pieceBytes_append, pieceBytes_cons, Nat.add_assoc]
  rfl

/-- Escaping makes a text at most so much longer. -/
theorem escape_le (text : String) : (escape text).utf8ByteSize ≤ 12 * text.utf8ByteSize := by
  have one (c : Char) : (String.ofList (escapeChar c)).utf8ByteSize ≤ 12 * c.utf8Size := by
    have least := c.utf8Size_pos
    have digit (value : Nat) : (hexDigit value).utf8Size ≤ 4 := Char.utf8Size_le_four _
    have high := digit (c.toNat / 16)
    have low := digit (c.toNat % 16)
    have empty : (String.ofList []).utf8ByteSize = 0 := rfl
    have ascii : '\\'.utf8Size = 1 ∧ 'u'.utf8Size = 1 ∧ '0'.utf8Size = 1 ∧ '"'.utf8Size = 1 ∧
        'b'.utf8Size = 1 ∧ 't'.utf8Size = 1 ∧ 'n'.utf8Size = 1 ∧ 'f'.utf8Size = 1 ∧
        'r'.utf8Size = 1 := by decide
    unfold escapeChar
    split_ifs <;> simp only [utf8ByteSize_ofList_cons, empty, ascii] <;> omega
  have all (characters : List Char) : (String.ofList (characters.flatMap escapeChar)).utf8ByteSize ≤
      12 * (String.ofList characters).utf8ByteSize := by
    induction characters with
    | nil => exact Nat.zero_le _
    | cons c rest ih =>
        have first := one c
        rw [List.flatMap_cons, String.ofList_append, String.utf8ByteSize_append,
          utf8ByteSize_ofList_cons]
        omega
  have whole := all text.toList
  rwa [String.ofList_toList] at whole

/-- The text a user sees is short. -/
theorem escape_userMessage_le (error : PortError) :
    (escape error.userMessage).utf8ByteSize ≤ 2400 := by
  have short : error.userMessage.utf8ByteSize ≤ 200 := by
    unfold PortError.userMessage
    split <;> decide +kernel
  have longer := escape_le error.userMessage
  omega

/-- The envelope of a failure is within the limit. -/
theorem length_jsonBody_ofPort_le (code : ErrorCode) (error : PortError) :
    (jsonBody (ErrorEnvelope.new code error.userMessage).encode).length ≤ maxResponseBytes := by
  have name : code.asStr.utf8ByteSize ≤ 40 := by
    cases code <;> decide +kernel
  have escaped := escape_le code.asStr
  have before : pieceBytes (beforeMessage code) = 31 + (escape code.asStr).utf8ByteSize := by
    have fixed : (escape "error").utf8ByteSize = 5 ∧ (escape "code").utf8ByteSize = 4 ∧
      (escape "message").utf8ByteSize = 7 := by decide +kernel
    have marks : "\x7b".utf8ByteSize = 1 ∧ "\"".utf8ByteSize = 1 ∧ "\":".utf8ByteSize = 2 ∧
      ",".utf8ByteSize = 1 := by decide +kernel
    have empty : pieceBytes [] = 0 := rfl
    simp only [beforeMessage, pieceBytes_cons, pieceText, fixed, marks, empty]
    omega
  have behind : pieceBytes (afterMessage code) ≤ 100 := by
    rw [afterMessage]
    cases code.retryable <;> decide +kernel
  have message := escape_userMessage_le error
  rw [length_jsonBody_envelope, maxResponseBytes]
  omega

/-! ### One agent -/

/-- The code by which the failure is known on the wire. -/
def PortError.wireCode (error : PortError) : ErrorCode :=
  (ErrorCode.fromCode error.code).getD .internal

/-- The text for a code of the wire. -/
def ErrorCode.userMessage (code : ErrorCode) : String :=
  PortError.userMessage { code := code.asStr, message := "", retryable := false }

/-- `HttpAgentClient::get` and `HttpAgentClient::post_json`, from the response on. -/
def receive {α : Type} (libraries : Libraries) (decode : Document → Option α)
    (response : HttpResponse) : PortResult α := do
  let () ← verifyRelease response
  parse libraries decode response

/-- An agent whose port has failed with `error` answers a request with it, and the client that asked
reads `received`. The answer comes in any chunks, for any kind of request, and the library of the
client reads what the library of the agent has written. -/
def HandedOn (error received : PortError) : Prop :=
  ∃ (libraries : Libraries) (α : Type) (decode : Document → Option α) (response : HttpResponse)
    (release : String),
    isCompatibleRelease release = true ∧
    Agent.Delivers release (.error (.ofPort error)) response ∧
    (∀ document, Agent.replyDocument (.error (.ofPort error)) = some document →
      libraries.parse (jsonBody document) = .ok document) ∧
    receive libraries decode response = .error received

/-- What the client reads. -/
def PortError.handedOn (error : PortError) : PortError where
  code := error.wireCode.asStr
  message := error.userMessage
  retryable := error.wireCode.retryable

/-- The error of an envelope. -/
theorem httpError_new (status : StatusCode) (code : ErrorCode) (message : String) :
    httpError status (some (.new code message)) =
      { code := code.asStr, message, retryable := code.retryable } := by
  simp [httpError, ErrorEnvelope.new, ProtocolError.knownCode, ErrorCode.fromCode_asStr]

/-- An error status is no success. -/
theorem isSuccess_httpStatus {status : StatusCode} {code : ErrorCode}
    (answered : status.code = code.httpStatus) : status.isSuccess = false := by
  have bounds := code.httpStatus_bounds
  rw [StatusCode.isSuccess, answered]
  simp only [Bool.and_eq_false_iff, decide_eq_false_iff_not]
  omega

/-- What the client reads of the answer to a failure. -/
theorem receive_of_delivers {α : Type} {libraries : Libraries} {decode : Document → Option α}
    {response : HttpResponse} {release : String} {error : PortError}
    (compatible : isCompatibleRelease release = true)
    (delivers : Agent.Delivers release (.error (.ofPort error)) response)
    (lossless : ∀ document, Agent.replyDocument (.error (.ofPort error)) = some document →
      libraries.parse (jsonBody document) = .ok document) :
    receive libraries decode response = .error error.handedOn := by
  obtain ⟨document, chunks, written, arrived, whole⟩ := delivers.body
  have parsed := lossless _ written
  obtain rfl : (ErrorEnvelope.new error.wireCode error.userMessage).encode = document :=
    Option.some.inj written
  have body : readBody.run [] response.chunks = .ok chunks.flatten := by
    rw [arrived, readBody_ok chunks (whole ▸ length_jsonBody_ofPort_le _ _)]
  have read : fromBytes libraries ErrorEnvelope.decode chunks.flatten =
      some (.new error.wireCode error.userMessage) := by
    rw [fromBytes, whole, parsed]
    exact ErrorEnvelope.decode_encode _
  have refused : response.status.isSuccess = false := isSuccess_httpStatus delivers.status
  have known : verifyRelease response = .ok () := by
    rw [verifyRelease, delivers.release, Option.any_some, if_pos compatible]
  rw [receive, known]
  change parse libraries decode response = _
  rw [parse, body]
  simp only [refused, bind, Except.bind, read, httpError_new]
  rfl

/-- The answer to a failure can be delivered. -/
theorem handedOn_handedOn (error : PortError) : HandedOn error error.handedOn := by
  let document := (ErrorEnvelope.new error.wireCode error.userMessage).encode
  let libraries : Libraries :=
    { stamps := { write := fun _ => .null, read := fun _ => none }
      parse := fun _ => .ok document
      mismatch := fun _ => "" }
  let response : HttpResponse :=
    { status := { code := error.wireCode.httpStatus, display := "" }
      release := some release
      chunks := [.ok (jsonBody document)] }
  have delivers : Agent.Delivers release (.error (.ofPort error)) response :=
    { status := rfl
      release := rfl
      body := ⟨document, [jsonBody document], rfl, rfl, by simp⟩ }
  have lossless : ∀ other, Agent.replyDocument (.error (.ofPort error)) = some other →
      libraries.parse (jsonBody other) = .ok other := fun other written => by
    obtain rfl : document = other := Option.some.inj written
    rfl
  have compatible : isCompatibleRelease release = true := by decide
  exact ⟨libraries, Unit, fun _ => none, response, release, compatible, delivers, lossless,
    receive_of_delivers compatible delivers lossless⟩

/-- One agent hands on exactly this. -/
theorem handedOn_iff {error received : PortError} : HandedOn error received ↔
    received = error.handedOn := by
  constructor
  · rintro ⟨libraries, α, decode, response, release, compatible, delivers, lossless, read⟩
    exact Except.error.inj (read.symm.trans (receive_of_delivers compatible delivers lossless))
  · rintro rfl
    exact handedOn_handedOn error

/-! ### A chain of agents -/

/-- The failure has been handed on by so many agents, each to the next. -/
inductive Passed (error : PortError) : Nat → PortError → Prop
  | here : Passed error 0 error
  | next {hops : Nat} {between received : PortError} (passed : Passed error hops between)
      (handed : HandedOn between received) : Passed error (hops + 1) received

section Chain

variable {error : PortError}

/-- The text depends on the code alone. -/
theorem PortError.userMessage_eq_of_code {first second : PortError} (same : first.code = second.code) :
    first.userMessage = second.userMessage := by
  rw [userMessage, userMessage, same]

@[simp] theorem PortError.wireCode_handedOn : error.handedOn.wireCode = error.wireCode := by
  rw [wireCode, handedOn, ErrorCode.fromCode_asStr, Option.getD_some]

@[simp] theorem PortError.userMessage_handedOn :
    error.handedOn.userMessage = error.wireCode.userMessage :=
  userMessage_eq_of_code rfl

/-- A code of the wire stays what it is, and so does the text for it. -/
theorem PortError.handedOn_handedOn_handedOn :
    error.handedOn.handedOn.handedOn = error.handedOn.handedOn := by
  rw [handedOn, wireCode_handedOn, wireCode_handedOn, userMessage_handedOn, wireCode_handedOn,
    handedOn, wireCode_handedOn, userMessage_handedOn]

theorem Passed.iterate {hops : Nat} {received : PortError} :
    Passed error hops received ↔ received = PortError.handedOn^[hops] error := by
  induction hops generalizing received with
  | zero =>
      constructor
      · intro passed
        cases passed
        rfl
      · rintro rfl
        exact .here
  | succ hops ih =>
      rw [Function.iterate_succ_apply']
      constructor
      · intro passed
        cases passed with
        | next passed handed => rw [handedOn_iff.mp handed, ih.mp passed]
      · rintro rfl
        exact .next (ih.mpr rfl) (handedOn_handedOn _)

/-- **What arrives is decided by the code alone**, after any number of agents: its code on the wire,
the retry hint for it, and a text that is the one for its code at the first agent, and the one for its
code on the wire from the second agent on. -/
theorem passed_iff (error : PortError) (hops : Nat) (received : PortError) :
    Passed error (hops + 1) received ↔
      received.code = error.wireCode.asStr ∧ received.retryable = error.wireCode.retryable ∧
        received.message = if hops = 0 then error.userMessage else error.wireCode.userMessage := by
  have settled (hops : Nat) : PortError.handedOn^[hops + 2] error = error.handedOn.handedOn := by
    induction hops with
    | zero => rfl
    | succ hops ih =>
        rw [Function.iterate_succ_apply', ih, PortError.handedOn_handedOn_handedOn]
  have fields (first second : PortError) : first = second ↔
      first.code = second.code ∧ first.retryable = second.retryable ∧
        first.message = second.message := by
    cases first
    cases second
    simp only [PortError.mk.injEq]
    tauto
  rw [Passed.iterate]
  cases hops with
  | zero => exact fields _ _
  | succ hops =>
      rw [settled, if_neg (Nat.succ_ne_zero _), fields, PortError.handedOn, PortError.wireCode_handedOn,
        PortError.userMessage_handedOn]

end Chain

end Omdesky
