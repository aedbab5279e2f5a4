/-
**Command requests in JSON (`omdesky-core/src/lib.rs`, `omdesky-protocol/src/lib.rs`).**

The attributes of the types, applied: transparent identifiers, variants in snake case with their tag
outside or in the field `action`, optional fields left out when there is no value.

* `KeyModifier.encode`, ..., `CommandRequest.encode`: the documents, and what each is decoded to.
* `Texts`, `Texts.Lossless`: the texts of identifiers and timestamps.
* `RemoteCommand.decode_encode`: every command is read back.
* `CommandRequest.roundtrip`: a request is decoded as it was encoded, and no other request has the same
  encoding.
-/

import Omdesky.Json.Derive
import Omdesky.Protocol
import Omdesky.Text.Address

namespace Omdesky

open Json

/-- A document of a request; there are no numbers but integers. -/
abbrev Document := Value Empty

/-- A variant by its name. -/
def decodeNamed {α : Type} (all : List α) (wire : α → String) (value : Document) : Option α := do
  let name ← unitVariant value
  all.find? fun variant => wire variant == name

/-! ### Chords and windows -/

/-- A `KeyModifier` in snake case. -/
def KeyModifier.wire : KeyModifier → String
  | .super => "super"
  | .ctrl => "ctrl"
  | .alt => "alt"
  | .shift => "shift"

def KeyModifier.encode (modifier : KeyModifier) : Document := .string modifier.wire

def KeyModifier.decode : Document → Option KeyModifier :=
  decodeNamed [.super, .ctrl, .alt, .shift] KeyModifier.wire

def KeyChord.encode (chord : KeyChord) : Document :=
  .object [("mods", .array (chord.mods.map KeyModifier.encode)), ("key", .string chord.key)]

def KeyChord.decode (value : Document) : Option KeyChord := do
  let fields ← members ["mods", "key"] value
  return { mods := ← requiredField "mods" (asList KeyModifier.decode) fields
           key := ← requiredField "key" asString fields }

def WindowSelector.encode : WindowSelector → Document
  | .activeWindow => .string "active_window"
  | .byClass name => .object [("class", .string name)]
  | .address value => .object [("address", .string value)]

def WindowSelector.decode (value : Document) : Option WindowSelector := do
  match ← variant value with
  | ("active_window", content) => if isUnit content then some .activeWindow else none
  | ("class", some content) => return .byClass (← asString content)
  | ("address", some content) => return .address (← asString content)
  | _ => none

def DisplayId.encode (display : DisplayId) : Document := .string display.value

def DisplayId.decode (value : Document) : Option DisplayId := return ⟨← asString value⟩

/-! ### Sessions -/

/-- A `SessionRole` in snake case. -/
def SessionRole.wire : SessionRole → String
  | .controller => "controller"
  | .remote => "remote"

def SessionRole.encode (role : SessionRole) : Document := .string role.wire

def SessionRole.decode : Document → Option SessionRole :=
  decodeNamed [.controller, .remote] SessionRole.wire

/-- `std::net::IpAddr` in a text format. -/
def IpAddr.encode (address : IpAddr) : Document := .string address.display

def IpAddr.decode (value : Document) : Option IpAddr := do IpAddr.parse (← asString value)

def SessionEndpoint.encode (endpoint : SessionEndpoint) : Document :=
  .object [("address", endpoint.address.encode), ("port", .integer endpoint.port.toNat)]

def SessionEndpoint.decode (value : Document) : Option SessionEndpoint := do
  let fields ← members ["address", "port"] value
  return { address := ← requiredField "address" IpAddr.decode fields
           port := UInt16.ofNat (← requiredField "port" (asNatural UInt16.size) fields) }

/-- The texts of the libraries: of identifiers and of timestamps, which may have none, with what is read
from a text. -/
structure Texts where
  uuid : Uuid → String
  readUuid : String → Option Uuid
  timestamp : Int → Option String
  readTimestamp : String → Option Int

variable (texts : Texts)

def SessionId.encode (id : SessionId) : Document := .string (texts.uuid id.uuid)

def SessionId.decode (value : Document) : Option SessionId :=
  return ⟨← texts.readUuid (← asString value)⟩

def SessionClaim.encode (claim : SessionClaim) : Document :=
  .object [("id", claim.id.encode texts), ("generation", .integer claim.generation)]

def SessionClaim.decode (value : Document) : Option SessionClaim := do
  let fields ← members ["id", "generation"] value
  return { id := ← requiredField "id" (SessionId.decode texts) fields
           generation := ← requiredField "generation" (asNatural UInt64.size) fields }

/-! ### Commands -/

/-- `RemoteCommand::kind`, which is the tag of the command as well. -/
def RemoteCommand.kind : RemoteCommand → String
  | .sendShortcut _ _ => "send_shortcut"
  | .closeWindow _ => "close_window"
  | .switchStreamDisplay _ => "switch_stream_display"
  | .attachSession _ _ _ => "attach_session"
  | .detachSession => "detach_session"
  | .renewSession => "renew_session"

/-- The fields of a command after its tag. -/
def RemoteCommand.fields : RemoteCommand → List (String × Document)
  | .sendShortcut chord window => [("chord", chord.encode), ("window", window.encode)]
  | .closeWindow window => [("window", window.encode)]
  | .switchStreamDisplay display => [("display", display.encode)]
  | .attachSession role controller window => ("role", role.encode) ::
      skipNone "controller" (controller.map SessionEndpoint.encode) ++
        skipNone "window" (window.map WindowSelector.encode)
  | .detachSession | .renewSession => []

def RemoteCommand.encode (command : RemoteCommand) : Document :=
  .object (("action", .string command.kind) :: command.fields)

def RemoteCommand.decode (value : Document) : Option RemoteCommand := do
  match ← taggedVariant "action" value with
  | ("send_shortcut", content) => do
      let fields ← members ["chord", "window"] content
      return .sendShortcut (← requiredField "chord" KeyChord.decode fields)
        (← requiredField "window" WindowSelector.decode fields)
  | ("close_window", content) => do
      let fields ← members ["window"] content
      return .closeWindow (← requiredField "window" WindowSelector.decode fields)
  | ("switch_stream_display", content) => do
      let fields ← members ["display"] content
      return .switchStreamDisplay (← requiredField "display" DisplayId.decode fields)
  | ("attach_session", content) => do
      let fields ← members ["role", "controller", "window"] content
      return .attachSession (← requiredField "role" SessionRole.decode fields)
        (← optionalField "controller" SessionEndpoint.decode fields)
        (← optionalField "window" WindowSelector.decode fields)
  | ("detach_session", _) => return .detachSession
  | ("renew_session", _) => return .renewSession
  | _ => none

/-! ### Requests -/

/-- The fields of a request whose timestamp is written so. -/
def CommandRequest.fields (request : CommandRequest) (issuedAt : String) : List (String × Document) :=
  ("command", request.command.encode) ::
    skipNone "session" (request.session.map (SessionClaim.encode texts)) ++
      [("request_id", .string (texts.uuid request.requestId)), ("issued_at", .string issuedAt)]

def CommandRequest.encode (request : CommandRequest) : Option Document := do
  return .object (request.fields texts (← texts.timestamp request.issuedAt))

def CommandRequest.decode (value : Document) : Option CommandRequest := do
  let fields ← members ["command", "session", "request_id", "issued_at"] value
  return { command := ← requiredField "command" RemoteCommand.decode fields
           session := ← optionalField "session" (SessionClaim.decode texts) fields
           requestId := ← requiredField "request_id" (fun value => do
             texts.readUuid (← asString value)) fields
           issuedAt := ← requiredField "issued_at" (fun value => do
             texts.readTimestamp (← asString value)) fields }

/-! ### The assumptions on the texts -/

/-- The timestamp, in nanoseconds from the beginning of 1970, lies in the years 0000 to 9999. -/
def FourDigitYear (time : Int) : Prop :=
  -62167219200 * 1000000000 ≤ time ∧ time < 253402300800 * 1000000000

/-- What the libraries write they read back: every identifier, and every timestamp whose year has four
digits. -/
structure Texts.Lossless : Prop where
  uuid : ∀ id, texts.readUuid (texts.uuid id) = some id
  timestamp : ∀ time, FourDigitYear time →
    ∃ text, texts.timestamp time = some text ∧ texts.readTimestamp text = some time

/-- A request whose numbers have the widths of their types, with a timestamp that can be written. -/
structure CommandRequest.Typed (request : CommandRequest) : Prop where
  generation : ∀ claim ∈ request.session, claim.generation < UInt64.size
  issuedAt : FourDigitYear request.issuedAt

/-! ### Each value is read back -/

theorem KeyModifier.decode_encode (modifier : KeyModifier) :
    KeyModifier.decode modifier.encode = some modifier := by
  cases modifier <;> decide

theorem SessionRole.decode_encode (role : SessionRole) :
    SessionRole.decode role.encode = some role := by
  cases role <;> decide

theorem KeyChord.decode_encode (chord : KeyChord) : KeyChord.decode chord.encode = some chord := by
  have mods : asList KeyModifier.decode (.array (chord.mods.map KeyModifier.encode)) =
      some chord.mods := asList_map fun modifier _ => modifier.decode_encode
  simp [decode, encode, members, requiredField, field, mods, asString]

theorem WindowSelector.decode_encode (window : WindowSelector) :
    WindowSelector.decode window.encode = some window := by
  cases window <;> simp [decode, encode, variant, isUnit, asString]

theorem IpAddr.decode_encode (address : IpAddr) : IpAddr.decode address.encode = some address := by
  simp [decode, encode, asString, IpAddr.parse_display]

theorem SessionEndpoint.decode_encode (endpoint : SessionEndpoint) :
    SessionEndpoint.decode endpoint.encode = some endpoint := by
  rw [encode, decode, members, Option.bind_eq_bind, Option.bind_some,
    requiredField_eq (field_left (by decide) _ _), IpAddr.decode_encode,
    requiredField_eq (field_right (by decide) _ _), asNatural_integer endpoint.port.toNat_lt_size]
  simp

section Lossless

variable {texts} (lossless : texts.Lossless)

include lossless

theorem SessionId.decode_encode (id : SessionId) :
    SessionId.decode texts (id.encode texts) = some id := by
  simp [decode, encode, asString, lossless.uuid]

theorem SessionClaim.decode_encode {claim : SessionClaim} (small : claim.generation < UInt64.size) :
    SessionClaim.decode texts (claim.encode texts) = some claim := by
  rw [encode, decode, members, Option.bind_eq_bind, Option.bind_some,
    requiredField_eq (field_left (by decide) _ _), SessionId.decode_encode lossless,
    requiredField_eq (field_right (by decide) _ _), asNatural_integer small]
  rfl

end Lossless

/-! ### Commands and requests are read back -/

/-- The tag of a command is read, and its fields are left. -/
theorem taggedVariant_encode (command : RemoteCommand) :
    taggedVariant "action" command.encode = some (command.kind, .object command.fields) := by
  have first : field "action" (("action", .string command.kind) :: command.fields) =
      some (some (.string command.kind)) := by
    cases command with
    | attachSession role controller window =>
        cases controller <;> cases window <;> simp [field, RemoteCommand.fields, skipNone]
    | _ => simp [field, RemoteCommand.fields]
  have rest : (("action", Value.string command.kind) :: command.fields).filter
      (fun field => field.1 != "action") = command.fields := by
    cases command with
    | attachSession role controller window =>
        cases controller <;> cases window <;> simp [RemoteCommand.fields, skipNone]
    | _ => simp [RemoteCommand.fields]
  rw [RemoteCommand.encode, taggedVariant, requiredField_eq first, rest]
  rfl

/-- **Every command is read back**, whichever of its optional fields are there. -/
theorem RemoteCommand.decode_encode (command : RemoteCommand) :
    RemoteCommand.decode command.encode = some command := by
  rw [decode, taggedVariant_encode, Option.bind_eq_bind, Option.bind_some]
  cases command with
  | sendShortcut chord window =>
      simp only [kind, fields, members, Option.bind_eq_bind, Option.bind_some]
      rw [requiredField_eq (field_left (by decide) _ _), KeyChord.decode_encode,
        requiredField_eq (field_right (by decide) _ _), WindowSelector.decode_encode]
      rfl
  | closeWindow window =>
      simp only [kind, fields, members, Option.bind_eq_bind, Option.bind_some]
      rw [requiredField_eq (field_single _ _), WindowSelector.decode_encode]
      rfl
  | switchStreamDisplay display =>
      simp only [kind, fields, members, Option.bind_eq_bind, Option.bind_some]
      rw [requiredField_eq (field_single _ _)]
      rfl
  | attachSession role controller window =>
      have roleRead : requiredField "role" SessionRole.decode
          (attachSession role controller window).fields = some role := by
        have found : field "role" (attachSession role controller window).fields =
            some (some role.encode) := by
          cases controller <;> cases window <;> simp [field, fields, skipNone]
        rw [requiredField_eq found, SessionRole.decode_encode]
      have controllerRead : optionalField "controller" SessionEndpoint.decode
          (attachSession role controller window).fields = some controller := by
        cases controller with
        | none => exact optionalField_none (by cases window <;> simp [field, fields, skipNone])
        | some endpoint =>
            have found : field "controller" (attachSession role (some endpoint) window).fields =
                some (some endpoint.encode) := by
              cases window <;> simp [field, fields, skipNone]
            exact optionalField_some found (fun null => by cases null) endpoint.decode_encode
      have windowRead : optionalField "window" WindowSelector.decode
          (attachSession role controller window).fields = some window := by
        cases window with
        | none => exact optionalField_none (by cases controller <;> simp [field, fields, skipNone])
        | some window =>
            have found : field "window" (attachSession role controller (some window)).fields =
                some (some window.encode) := by
              cases controller <;> simp [field, fields, skipNone]
            have filled : window.encode ≠ .null := by
              intro null
              cases window <;> cases null
            exact optionalField_some found filled window.decode_encode
      simp only [kind, members, Option.bind_eq_bind, Option.bind_some, roleRead, controllerRead,
        windowRead]
      rfl
  | detachSession => rfl
  | renewSession => rfl

section Requests

variable {texts} (lossless : texts.Lossless)

include lossless

/-- **A request is decoded from its document.** -/
theorem CommandRequest.decode_encode {request : CommandRequest} (typed : request.Typed) :
    ∃ document, request.encode texts = some document ∧
      CommandRequest.decode texts document = some request := by
  obtain ⟨text, written, read⟩ := lossless.timestamp _ typed.issuedAt
  refine ⟨.object (request.fields texts text), by rw [encode, written]; rfl, ?_⟩
  have found (name : String) (value : Document) (listed : (name, value) ∈ request.fields texts text)
      (known : name ∈ ["command", "session", "request_id", "issued_at"]) :
      field name (request.fields texts text) = some (some value) := by
    unfold fields skipNone at *
    cases claimed : request.session with
    | none =>
        rw [claimed] at listed
        simp at listed
        rcases listed with ⟨rfl, rfl⟩ | ⟨rfl, rfl⟩ | ⟨rfl, rfl⟩ <;> simp [field]
    | some claim =>
        rw [claimed] at listed
        simp at listed
        rcases listed with ⟨rfl, rfl⟩ | ⟨rfl, rfl⟩ | ⟨rfl, rfl⟩ | ⟨rfl, rfl⟩ <;> simp [field]
  have command := found "command" request.command.encode (by simp [fields]) (by simp)
  have identifier := found "request_id" (.string (texts.uuid request.requestId)) (by simp [fields])
    (by simp)
  have issued := found "issued_at" (.string text) (by simp [fields]) (by simp)
  have session : optionalField "session" (SessionClaim.decode texts) (request.fields texts text) =
      some request.session := by
    cases claimed : request.session with
    | none => exact optionalField_none (by simp [field, fields, skipNone, claimed])
    | some claim =>
        have listed := found "session" (claim.encode texts) (by simp [fields, skipNone, claimed])
          (by simp)
        exact optionalField_some listed (fun null => by cases null)
          (SessionClaim.decode_encode lossless (typed.generation claim claimed))
  simp only [decode, members, Option.bind_eq_bind, Option.bind_some, session,
    requiredField_eq command, RemoteCommand.decode_encode, requiredField_eq identifier,
    requiredField_eq issued, asString, lossless.uuid, read]
  rfl

/-- **A command request survives the wire**: it is decoded as it was encoded, and no other request has
the same encoding. -/
theorem CommandRequest.roundtrip {request : CommandRequest} (typed : request.Typed) :
    ∃ document, request.encode texts = some document ∧
      CommandRequest.decode texts document = some request ∧
        ∀ other : CommandRequest, other.Typed → other.encode texts = some document →
          other = request := by
  obtain ⟨document, encoded, decoded⟩ := CommandRequest.decode_encode lossless typed
  refine ⟨document, encoded, decoded, fun other otherTyped same => ?_⟩
  obtain ⟨again, otherEncoded, otherDecoded⟩ := CommandRequest.decode_encode lossless otherTyped
  obtain rfl := Option.some.inj (otherEncoded.symm.trans same)
  exact Option.some.inj (otherDecoded.symm.trans decoded)

end Requests

/-- Texts that are read back: the identifier of zeros and the beginning of 1970 as they are always
written, every other value by its number of marks. -/
private def marks : Texts where
  uuid id := if id = 0 then "00000000-0000-0000-0000-000000000000" else
    String.ofList (List.replicate id.toNat '|')
  readUuid text := if text = "00000000-0000-0000-0000-000000000000" then some 0 else
    some (BitVec.ofNat 128 text.toList.length)
  timestamp time := if time = 0 then some "1970-01-01T00:00:00Z" else
    some (String.ofList ((if time < 0 then '-' else '+') :: List.replicate time.natAbs '|'))
  readTimestamp text := if text = "1970-01-01T00:00:00Z" then some 0 else
    match text.toList with
    | '-' :: amount => some (-amount.length)
    | _ :: amount => some amount.length
    | [] => none

/-- A text of marks does not begin as the other texts do. -/
private theorem marked_ne (first : Char) (rest : List Char) {other : List Char} {text : String}
    (begins : text.toList = first :: rest) (differs : other.head? ≠ some first) :
    String.ofList other ≠ text := by
  rintro rfl
  rw [String.toList_ofList] at begins
  exact differs (begins ▸ rfl)

private theorem lossless_marks : marks.Lossless where
  uuid id := by
    by_cases zero : id = 0
    · simp [marks, zero]
    · have positive : id.toNat ≠ 0 := fun none => zero (BitVec.toNat_inj.mp none)
      have other : String.ofList (List.replicate id.toNat '|') ≠
          "00000000-0000-0000-0000-000000000000" := by
        refine marked_ne '0' "0000000-0000-0000-0000-000000000000".toList rfl ?_
        simp [List.head?_replicate, positive]
      simp only [marks, if_neg zero, if_neg other, String.toList_ofList, List.length_replicate,
        BitVec.ofNat_toNat, BitVec.setWidth_eq]
  timestamp time _ := by
    by_cases zero : time = 0
    · exact ⟨"1970-01-01T00:00:00Z", by simp [marks, zero], by simp [marks, zero]⟩
    · refine ⟨_, by simp only [marks, if_neg zero]; rfl, ?_⟩
      have other : String.ofList ((if time < 0 then '-' else '+') ::
          List.replicate time.natAbs '|') ≠ "1970-01-01T00:00:00Z" := by
        refine marked_ne '1' "970-01-01T00:00:00Z".toList rfl ?_
        split <;> simp
      by_cases negative : time < 0
      · rw [if_pos negative] at other ⊢
        simp only [marks, if_neg other, String.toList_ofList, List.length_replicate]
        congr 1
        omega
      · rw [if_neg negative] at other ⊢
        simp only [marks, if_neg other, String.toList_ofList]
        change some ((List.replicate time.natAbs '|').length : Int) = some time
        rw [List.length_replicate]
        congr 1
        omega

/-- A request to attach for a controller, in its session. -/
private def attachRequest : CommandRequest where
  command := .attachSession .remote (some ⟨.v6 0xfd7a 0x115c 0xa1e0 0 0 0 0 2, 47991⟩) none
  session := some ⟨⟨0⟩, 3⟩
  requestId := 0
  issuedAt := 0

theorem CommandRequest.roundtrip_attach : ∃ document, attachRequest.encode marks = some document ∧
    CommandRequest.decode marks document = some attachRequest := by
  have typed : attachRequest.Typed :=
    ⟨fun claim claimed => by cases claimed; decide, by constructor <;> decide⟩
  obtain ⟨document, encoded, decoded, _⟩ := CommandRequest.roundtrip lossless_marks typed
  exact ⟨document, encoded, decoded⟩

end Omdesky
