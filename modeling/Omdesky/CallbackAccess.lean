/-
**The three judgements of callback access.**

A session calls back from the remote computer, and three programs judge whether the controller lets it:
the discovery, the connection on the controller, and the agent of the remote computer, which asks the
controller's agent over HTTP. All three look at one allowlist.

* `length_capabilitiesBody_le`: the answer to the remote agent is no longer than the allowlist's file, so
  that it is within the limit of the client.
* `controllerWorld`, `remoteWorld`: the controller's agent, and the remote agent that asks it.
* `judgements_agree`: **the three judgements agree**, and when they agree on yes, the commands that call
  back are authorized.
-/

import Omdesky.Agent.Api
import Omdesky.Agent.Authorize.Informed
import Omdesky.Application.Connect
import Omdesky.Application.Discovery
import Omdesky.Platform.AgentClient.Response

namespace Omdesky

open Interaction Interaction.Program Json Platform

/-! ### The bytes of the answer -/

/-- `Json(value)`: the bytes of a document on one line. -/
def jsonBody (value : Document) : List UInt8 := ((compact nofun value).map (utf8 ∘ pieceText)).flatten

/-- What the texts of the libraries take at least: a text that is parsed takes the bytes of its document,
and a timestamp takes six. -/
structure Platform.Libraries.Spelled (libraries : Libraries) : Prop where
  parse_le : ∀ bytes document, libraries.parse bytes = .ok document →
    document.leastBytes ≤ bytes.length
  stamp_le : ∀ document time, libraries.stamps.read document = some time → 6 ≤ document.leastBytes

section Bytes

/-- The names of capabilities. -/
private def namesOf (capabilities : List ControlCapability) : List Document :=
  capabilities.map fun capability => .string capability.asStr

private theorem pieceBytes_name (capability : ControlCapability) :
    pieceBytes (compact nofun (.string capability.asStr : Document)) =
      (Value.string capability.asStr : Document).leastBytes := by
  cases capability <;> decide +kernel

private theorem pieceBytes_names (capabilities : List ControlCapability) :
    pieceBytes (compactItems nofun (namesOf capabilities)) =
      if capabilities = [] then 0 else 1 + leastItems (namesOf capabilities) := by
  have comma : (pieceText (.own ",")).utf8ByteSize = 1 := rfl
  induction capabilities with
  | nil => rfl
  | cons capability capabilities ih =>
      have rest : namesOf capabilities = [] ↔ capabilities = [] := List.map_eq_nil_iff
      rw [if_neg (List.cons_ne_nil _ _), namesOf, List.map_cons, ← namesOf, compactItems,
        List.cons_append, pieceBytes_cons, pieceBytes_append, pieceBytes_name, ih, comma, leastItems_cons]
      simp only [rest]

/-- **The bytes of the answer.** -/
theorem length_jsonBody_capabilities (capabilities : List ControlCapability) :
    (jsonBody (encodeCapabilities capabilities)).length =
      17 + (Value.array (namesOf capabilities) : Document).leastBytes := by
  have list : pieceBytes (compact nofun (.array (namesOf capabilities))) =
      (Value.array (namesOf capabilities) : Document).leastBytes := by
    cases capabilities with
    | nil => decide +kernel
    | cons capability capabilities =>
        have opening : (pieceText (.own "[")).utf8ByteSize = 1 := rfl
        have closing : pieceBytes [.own "]"] = 1 := rfl
        have rest : namesOf capabilities = [] ↔ capabilities = [] := List.map_eq_nil_iff
        rw [namesOf, List.map_cons, ← namesOf, compact, List.cons_append, List.cons_append,
          pieceBytes_cons, pieceBytes_append, pieceBytes_append, pieceBytes_name, pieceBytes_names,
          opening, closing, leastBytes_array, leastItems_cons]
        simp only [rest]
        omega
  have opening : pieceBytes [.own "\x7b", .own "\"", .own (escape "capabilities"), .own "\":"] = 16 := by
    decide +kernel
  have closing : pieceBytes [.own "\x7d"] = 1 := rfl
  have pieces : compact nofun (encodeCapabilities capabilities) =
      [.own "\x7b", .own "\"", .own (escape "capabilities"), .own "\":"] ++
        compact nofun (.array (namesOf capabilities)) ++ [.own "\x7d"] := by
    rw [encodeCapabilities, compact, compactField, compactFields, ← namesOf]
    simp
  rw [jsonBody, length_flatten_pieces, pieces, pieceBytes_append, pieceBytes_append, list, opening, closing]
  omega

/-- A name that is read of a value is in its text. -/
private theorem leastBytes_of_name {value : Document} {capability : ControlCapability}
    (read : ControlCapability.decode value = some capability) :
    (Value.string capability.asStr : Document).leastBytes ≤ value.leastBytes := by
  obtain ⟨name, named, found⟩ := Option.bind_eq_some_iff.mp read
  obtain rfl : capability.asStr = name := by simpa using List.find?_some found
  obtain ⟨⟨key, content⟩, variant, unit⟩ := Option.bind_eq_some_iff.mp named
  obtain ⟨_, rfl⟩ : isUnit content = true ∧ key = capability.asStr := by simpa using unit
  unfold Json.variant at variant
  split at variant
  · cases variant
    exact Nat.le_refl _
  · cases variant
    simp only [Value.leastBytes, leastFields]
    omega
  · cases variant

/-- Names that are read of a list are in its text. -/
theorem leastBytes_of_names {value : Document} {capabilities : List ControlCapability}
    (read : asList ControlCapability.decode value = some capabilities) :
    (Value.array (namesOf capabilities) : Document).leastBytes ≤ value.leastBytes := by
  have items (items : List Document) : ∀ capabilities, items.mapM ControlCapability.decode =
      some capabilities → leastItems (namesOf capabilities) ≤ leastItems items ∧
        (items = [] → capabilities = []) := by
    induction items with
    | nil =>
        intro capabilities read
        cases read
        exact ⟨Nat.le_refl _, fun _ => rfl⟩
    | cons item items ih =>
        intro capabilities read
        rw [List.mapM_cons] at read
        obtain ⟨first, named, read⟩ := Option.bind_eq_some_iff.mp read
        obtain ⟨rest, others, read⟩ := Option.bind_eq_some_iff.mp read
        cases read
        obtain ⟨shorter, empty⟩ := ih rest others
        have one := leastBytes_of_name named
        refine ⟨?_, nofun⟩
        have none : namesOf rest = [] ↔ rest = [] := List.map_eq_nil_iff
        rw [namesOf, List.map_cons, ← namesOf, leastItems_cons, leastItems_cons]
        simp only [none]
        by_cases last : items = []
        · rw [if_pos (empty last), if_pos last]
          omega
        · rw [if_neg last]
          split_ifs <;> omega
  unfold asList at read
  split at read
  · have shorter := (items _ _ read).1
    rw [leastBytes_array, leastBytes_array]
    omega
  · cases read

/-- An entry with capabilities is longer than their list, by the marks around it and by its timestamp. -/
theorem leastBytes_of_entry {libraries : Libraries} (spelled : libraries.Spelled) {value : Document}
    {entry : AllowedController} (read : AllowedController.decode libraries.stamps value = some entry)
    (granted : entry.capabilities ≠ []) :
    15 + (Value.array (namesOf entry.capabilities) : Document).leastBytes ≤ value.leastBytes := by
  obtain ⟨fields, opened, read⟩ := Option.bind_eq_some_iff.mp read
  obtain ⟨node, identified, read⟩ := Option.bind_eq_some_iff.mp read
  obtain ⟨label, labelled, read⟩ := Option.bind_eq_some_iff.mp read
  obtain ⟨time, stamped, read⟩ := Option.bind_eq_some_iff.mp read
  obtain ⟨capabilities, listed, read⟩ := Option.bind_eq_some_iff.mp read
  cases read
  obtain ⟨found, there, listed⟩ := Option.bind_eq_some_iff.mp listed
  cases found with
  | none =>
      cases listed
      exact absurd rfl granted
  | some list =>
      have names := leastBytes_of_names listed
      unfold members at opened
      split at opened
      · -- an object names its fields
        cases opened
        have inside := leastBytes_le_field (mem_of_field there)
        have key : "capabilities".utf8ByteSize = 12 := by decide +kernel
        rw [leastBytes_object]
        dsimp only
        omega
      · -- a list has the timestamp before the capabilities
        rename_i items
        obtain ⟨short, rfl⟩ : items.length ≤ 4 ∧ [_, _, _, _].zip items = fields := by
          simpa using opened
        rcases items with _ | ⟨id, _ | ⟨name, _ | ⟨stamp, _ | ⟨last, _ | _⟩⟩⟩⟩
        case cons.cons.cons.cons.nil =>
          obtain rfl : last = list := by simpa [field] using there
          have first : asString id = some node := by simpa [requiredField, field] using identified
          have third : libraries.stamps.read stamp = some time := by
            simpa [requiredField, field] using stamped
          have one : 2 ≤ id.leastBytes := by
            cases id <;> cases first
            rw [Value.leastBytes]
            omega
          have two : 2 ≤ name.leastBytes := by
            cases name with
            | null | bool | string | array | object => rw [Value.leastBytes]; omega
            | integer | number => simp [optionalField, field, asString] at labelled
          have three := spelled.stamp_le _ _ third
          simp only [leastBytes_array, leastItems] at names ⊢
          omega
        case cons.cons.cons.cons.cons =>
          simp only [List.length_cons] at short
          omega
        all_goals simp [field] at there
      · cases opened

/-- A list that is read of a file is parsed of its bytes, within the limit. -/
theorem parsed_of_readable {libraries : Libraries} {bytes : List UInt8}
    {entries : List AllowedController} (read : readable libraries (some bytes) = .ok entries) :
    bytes.length ≤ maxStateBytes ∧ ∃ document, libraries.parse bytes = .ok document ∧
      decodeControllers libraries.stamps document = some entries := by
  dsimp only [readable, checkContents] at read
  split at read
  · cases read
  · rename_i fits
    refine ⟨Nat.not_lt.mp fits, ?_⟩
    change (fromSlice libraries bytes).mapError _ = _ at read
    unfold fromSlice at read
    split at read
    · cases read
    · rename_i document parsed
      refine ⟨document, parsed, ?_⟩
      cases decoded : decodeControllers libraries.stamps document with
      | none =>
          rw [decoded] at read
          cases read
      | some controllers =>
          rw [decoded] at read
          cases read
          rfl

/-- **The answer is no longer than the file** of the allowlist, so that it is within the limit. -/
theorem length_answer_le {libraries : Libraries} (spelled : libraries.Spelled)
    {file : Option (List UInt8)} {entries : List AllowedController}
    (read : readable libraries file = .ok entries) {entry : AllowedController} (listed : entry ∈ entries) :
    (jsonBody (encodeCapabilities entry.capabilities)).length ≤ maxResponseBytes := by
  rw [length_jsonBody_capabilities]
  by_cases granted : entry.capabilities = []
  · rw [granted]
    decide +kernel
  cases file with
  | none =>
      cases read
      cases listed
  | some bytes =>
      obtain ⟨fits, document, parsed, decoded⟩ := parsed_of_readable read
      have text := spelled.parse_le _ _ parsed
      obtain ⟨items, rfl, item, member, made⟩ := exists_of_mem_asList decoded listed
      have inside := leastBytes_le_of_mem member
      have longer := leastBytes_of_entry spelled made granted
      rw [leastBytes_array] at text
      unfold maxStateBytes at fits
      unfold maxResponseBytes
      omega

end Bytes

/-! ### The discovery -/

namespace Application

/-- A blocker says that the controller does not allow the callbacks. -/
def NeedsAccess (node : DiscoveredNode) : Prop := ∃ blocker ∈ node.blockers, blocker.code = .needsAccess

/-- The peer has answered both probes as a compatible agent does. -/
def AnswersCompatibly (trace : List DiscoveryEvent) : Prop :=
  ∃ endpoint info, (⟨.nodeInfo endpoint, info⟩ : DiscoveryEvent) ∈ trace ∧
    ∀ error, info = .error error → error.code ≠ "VERSION_INCOMPATIBLE"

/-- The allowlist grants both callbacks to the node. -/
def Grants (listed : PortResult (List AllowedController)) (node : String) : Prop :=
  missingCallbackCapabilities (listed.toOption.getD []) node = []

/-- A missing callback makes a blocker of its own. -/
theorem needsAccess_of_accessBlockers {infoError : Option PortError} {context : DiscoveryContext}
    {node name : String} :
    (∃ blocker ∈ accessBlockers infoError context node name, blocker.code = .needsAccess) ↔
      missingCallbackCapabilities context.allowlist node ≠ [] := by
  unfold accessBlockers
  cases missing : missingCallbackCapabilities context.allowlist node with
  | nil =>
      refine iff_of_false ?_ (not_not_intro rfl)
      rintro ⟨blocker, member, needs⟩
      dsimp only [List.isEmpty_nil] at member
      rw [if_pos rfl, List.append_nil] at member
      split at member
      · cases List.mem_singleton.mp member
        cases needs
      · cases List.mem_singleton.mp member
        cases needs
      · cases member
  | cons capability rest =>
      refine iff_of_true ⟨_, List.mem_append_right _ (List.mem_singleton_self _), rfl⟩ nofun

/-- **The discovery** finds the callbacks missing exactly when the allowlist does not grant them. -/
theorem needsAccess_iff {agentPort : UInt16} {peer : MeshPeer} {self : MeshNodeIdentity}
    {listed : PortResult (List AllowedController)} {includeAll : Bool} {trace : List DiscoveryEvent}
    {found : DiscoveredNode} (answered : AnswersCompatibly trace)
    (run : Traces (probe agentPort peer false (.gather self listed includeAll)) trace (some found)) :
    NeedsAccess found ↔ ¬ Grants listed peer.tailnetNodeId := by
  obtain ⟨endpoint, info, asked, compatible⟩ := answered
  obtain unasked | ⟨plain, heard, health, answer, found⟩ := probe_cases run
  · exact absurd asked (unasked.unasked _ _)
  · obtain ⟨started, answered, rfl⟩ := found.calls
    obtain rfl : answer = info := by
      simp only [List.mem_cons, List.not_mem_nil, or_false] at asked
      rcases asked with same | same | same | same <;> cases same
      rfl
    unfold NeedsAccess Grants
    rw [found.node_eq, DiscoveredNode.withInfo_blockers, ← found.tailnetNodeId_eq]
    have remote := found.isLocal_eq
    dsimp only [DiscoveredNode.withBlockers]
    unfold probeBlockers
    split
    · exact absurd rfl (compatible _ rfl)
    · rw [remote, if_neg Bool.false_ne_true]
      exact needsAccess_of_accessBlockers
    · rw [remote, if_neg Bool.false_ne_true]
      exact needsAccess_of_accessBlockers

/-! ### The connection on the controller -/

/-- The ports of the controller, as far as the judgement asks them. -/
def meshWorld (listed : PortResult (List AllowedController)) (node : String) (address : IpAddr) :
    World PortCall PortAnswer Unit
  | .identifySource asked, (), answer, () => asked = address →
      ∃ identity, answer = .ok (some identity) ∧ identity.tailnetNodeId = node
  | .listAccess, (), answer, () => answer = listed
  | _, (), _, () => True

/-- **The connection** verifies the access exactly when the allowlist grants the callbacks. -/
theorem verified_iff {listed : PortResult (List AllowedController)} {node : String} {address : IpAddr}
    {verdict : PortResult Unit}
    (run : Ends (meshWorld listed node address) (verifyCallbackAccess address).run () verdict ()) :
    verdict = .ok () ↔ Grants listed node := by
  obtain ⟨trace, run⟩ := run
  obtain ⟨answer, _, _, rfl, known, run⟩ := run
  obtain ⟨identity, rfl, rfl⟩ := known rfl
  obtain ⟨read, _, _, rfl, same, run⟩ := run
  obtain rfl : read = listed := same
  cases read with
  | error error =>
      obtain ⟨_, rfl, _⟩ := run
      exact iff_of_false nofun (by rw [Grants]; nofun)
  | ok entries =>
      change Runs _ (failWhen (!(missingCallbackCapabilities entries identity.tailnetNodeId).isEmpty)
        _).run _ _ _ _ at run
      unfold Grants
      dsimp only [Except.toOption, Option.getD_some]
      cases missing : missingCallbackCapabilities entries identity.tailnetNodeId with
      | nil =>
          rw [missing] at run
          obtain ⟨_, rfl, _⟩ := run
          exact iff_of_true rfl rfl
      | cons capability rest =>
          rw [missing] at run
          obtain ⟨_, rfl, _⟩ := run
          exact iff_of_false nofun nofun

end Application

/-! ### The two agents -/

namespace Agent

/-- The agent of the controller, as far as a judgement asks it. -/
def controllerWorld (listed : PortResult (List AllowedController)) (node : String) (source : IpAddr) :
    World AgentRequest AgentAnswer AuthorizerState
  | .authorizer request, state, answer, after => informedWorld listed node source request state answer after
  | _, state, _, after => after = state

/-- The document of an answer: an error is answered with its envelope. -/
def replyDocument : Except ApiError ApiReply → Option Document
  | .ok (.capabilities capabilities) => some (encodeCapabilities capabilities)
  | .ok _ => none
  | .error error => some (ErrorEnvelope.new error.code error.message).encode

/-- A response that delivers an answer, in any chunks, with the release of the one who answers. -/
structure Delivers (release : String) (answer : Except ApiError ApiReply) (response : HttpResponse) :
    Prop where
  status : response.status.code = match answer with
    | .ok _ => 200
    | .error error => error.code.httpStatus
  release : response.release = some release
  body : ∃ document chunks, replyDocument answer = some document ∧
    response.chunks = List.map Except.ok chunks ∧ chunks.flatten = jsonBody document

/-- The agent of the remote computer, which asks the controller's agent what it grants. -/
def remoteWorld (libraries : Libraries) (listed : PortResult (List AllowedController)) (node : String)
    (config : AgentConfig) (source : SocketAddr) (asking answering : String) :
    World AgentRequest AgentAnswer AuthorizerState
  | .grantedCapabilities _, state, granted, after => ∃ answer response,
      Ends (controllerWorld listed node source.ip)
        (handle config { route := .capabilities, release := some asking, source }).run state answer after ∧
      Delivers answering answer response ∧ granted = grantedCapabilities libraries response
  | _, state, _, after => after = state

variable {listed : PortResult (List AllowedController)} {node : String} {config : AgentConfig}
  {source : SocketAddr} {state after : AuthorizerState}

theorem ends_onAuthorizer {program : AuthorizerM (Except AuthorizationError AuthorizedPeer)}
    {result : Except ApiError AuthorizedPeer} :
    Ends (controllerWorld listed node source.ip)
        (orFail .ofAuthorization (onAuthorizer program)).run state result after ↔
      ∃ answer, result = answer.mapError .ofAuthorization ∧
        Ends (informedWorld listed node source.ip) program state answer after := by
  refine ends_bind.trans ?_
  constructor
  · rintro ⟨answer, middle, early, late⟩
    obtain ⟨rfl, rfl⟩ := ends_done.mp late
    have inner : Ends (fun request => controllerWorld listed node source.ip (.authorizer request)) program
      state answer after := ends_within.mp early
    exact ⟨answer, rfl, inner⟩
  · rintro ⟨answer, rfl, run⟩
    have inner : Ends (fun request => controllerWorld listed node source.ip (.authorizer request)) program
      state answer after := run
    exact ⟨answer, after, ends_within.mpr inner, ends_done.mpr ⟨rfl, rfl⟩⟩

/-- The answer of the controller's agent. -/
def answered (listed : PortResult (List AllowedController)) (node : String) : Except ApiError ApiReply :=
  match judged listed node with
  | .error error => .error (.ofAuthorization error)
  | .ok peer => .ok (.capabilities peer.capabilities)

/-- The callbacks are granted exactly when the first entry of the node lists them. -/
theorem grants_iff : Application.Grants listed node ↔
    ∃ peer, judged listed node = .ok peer ∧ missingCallbacks peer.capabilities = [] := by
  unfold Application.Grants judged
  rw [Application.missingCallbackCapabilities_eq_nil]
  cases listed with
  | error error =>
      refine iff_of_false ?_ (by rintro ⟨_, ⟨⟩, _⟩)
      rintro ⟨_, ⟨⟩, _⟩
  | ok entries =>
      dsimp only [Except.toOption, Option.getD_some, entryOf]
      cases entries.find? fun entry => entry.tailnetNodeId == node with
      | none =>
          refine iff_of_false ?_ (by rintro ⟨_, ⟨⟩, _⟩)
          rintro ⟨_, ⟨⟩, _⟩
      | some entry => simp [missingCallbacks, AllowedController.allows]

theorem tailnetNodeId_of_judged {peer : AuthorizedPeer} (decided : judged listed node = .ok peer) :
    peer.tailnetNodeId = node := by
  unfold judged at decided
  split at decided
  · cases decided
  · split at decided
    · cases decided
    · rename_i found
      cases decided
      simpa using List.find?_some found

/-- What is judged rests on an entry of the list. -/
theorem entry_of_judged {peer : AuthorizedPeer} (decided : judged listed node = .ok peer) :
    ∃ entries entry, listed = .ok entries ∧ entry ∈ entries ∧
      entry.capabilities = peer.capabilities := by
  unfold judged at decided
  split at decided
  · cases decided
  · split at decided
    · cases decided
    · rename_i found
      cases decided
      exact ⟨_, _, rfl, List.mem_of_find?_eq_some found, rfl⟩

/-- A request of a compatible release is handled. -/
theorem ends_handle_compatible {asking : String} (compatible : isCompatibleRelease asking = true)
    {answer : Except ApiError ApiReply} : Ends (controllerWorld listed node source.ip)
      (handle config { route := .capabilities, release := some asking, source }).run state answer after ↔
        Ends (controllerWorld listed node source.ip) (capabilities config source).run state answer
          after := by
  have accepted : ∀ outcome reached, Ends (controllerWorld listed node source.ip)
      (requireCompatibleRelease (some asking)).run state outcome reached ↔
        outcome = .ok () ∧ reached = state := by
    intro outcome reached
    rw [requireCompatibleRelease, releaseAccepted, Option.any_some, compatible]
    exact ends_done
  unfold handle
  rw [if_neg nofun]
  exact ends_run_ok accepted

section Source

variable (named : node ≠ "") (inside : config.strictTailnetOnly = true → isTailscaleAddress source.ip = true)

include named inside

theorem ends_handle {asking : String} (compatible : isCompatibleRelease asking = true)
    (consistent : Consistent listed node source.ip state) {answer : Except ApiError ApiReply}
    (run : Ends (controllerWorld listed node source.ip)
      (handle config { route := .capabilities, release := some asking, source }).run state answer after) :
    answer = answered listed node ∧ Consistent listed node source.ip after := by
  obtain ⟨error, rfl, early⟩ | ⟨peer, middle, early, late⟩ :=
    ends_run_bind.mp ((ends_handle_compatible compatible).mp run)
  · obtain ⟨outcome, same, early⟩ := ends_onAuthorizer.mp early
    obtain ⟨rfl, kept⟩ := ends_authenticate named inside consistent early
    unfold answered
    cases decided : judged listed node with
    | error refusal =>
        rw [decided] at same
        cases same
        exact ⟨rfl, kept⟩
    | ok peer =>
        rw [decided] at same
        cases same
  · obtain ⟨outcome, same, early⟩ := ends_onAuthorizer.mp early
    obtain ⟨rfl, kept⟩ := ends_authenticate named inside consistent early
    obtain ⟨rfl, rfl⟩ := ends_done.mp late
    unfold answered
    cases decided : judged listed node with
    | error refusal =>
        rw [decided] at same
        cases same
    | ok peer =>
        rw [decided] at same
        cases same
        exact ⟨rfl, kept⟩

/-- A device that is granted the callbacks is authorized for them. -/
theorem ends_authorizePeer {required : ControlCapability} (callback : required ∈ ControlCapability.callback)
    (grants : Application.Grants listed node) (consistent : Consistent listed node source.ip state)
    {result : Except ApiError AuthorizedPeer}
    (run : Ends (controllerWorld listed node source.ip) (authorizePeer config source required).run state
      result after) :
    ∃ peer, result = .ok peer ∧ peer.tailnetNodeId = node := by
  obtain ⟨peer, decided, complete⟩ := grants_iff.mp grants
  obtain ⟨outcome, rfl, asked⟩ := ends_onAuthorizer.mp run
  obtain ⟨rfl, _⟩ := ends_authorize named inside consistent asked
  have granted : peer.capabilities.contains required = true := by
    simpa using (List.filter_eq_nil_iff.mp complete) required callback
  refine ⟨peer, ?_, tailnetNodeId_of_judged decided⟩
  rw [decided]
  simp only [Except.bind, granted, if_true]
  rfl

/-- **The remote agent** accepts the controller exactly when the allowlist grants the callbacks. -/
theorem accepted_iff {libraries : Libraries} {file : Option (List UInt8)} (spelled : libraries.Spelled)
    (read : readable libraries file = listed)
    (parses : ∀ peer, judged listed node = .ok peer → libraries.parse
      (jsonBody (encodeCapabilities peer.capabilities)) = .ok (encodeCapabilities peer.capabilities))
    {asking answering : String} (asks : isCompatibleRelease asking = true)
    (answers : isCompatibleRelease answering = true)
    (consistent : Consistent listed node source.ip state) {controller : AgentEndpoint}
    {outcome : Except ApiError Unit}
    (run : Ends (remoteWorld libraries listed node config source asking answering)
      (verifyCallbackAccess controller).run state outcome after) :
    (outcome = .ok () ↔ Application.Grants listed node) ∧ Consistent listed node source.ip after := by
  obtain ⟨trace, granted, middle, rest, rfl, ⟨answer, response, handled, delivers, rfl⟩, run⟩ := run
  obtain ⟨rfl, kept⟩ := ends_handle named inside asks consistent handled
  cases decided : judged listed node with
  | error refusal =>
      have refused : response.status.isSuccess = false := by
        have status := delivers.status
        rw [answered, decided] at status
        dsimp only at status
        have bounds := ErrorCode.httpStatus_bounds (ApiError.ofAuthorization refusal).code
        simp only [StatusCode.isSuccess, status, Bool.and_eq_false_iff, decide_eq_false_iff_not]
        omega
      obtain ⟨error, failed⟩ := @grantedCapabilities_of_refused libraries _ refused
      rw [failed] at run
      obtain ⟨_, rfl, rfl⟩ := run
      refine ⟨iff_of_false nofun ?_, kept⟩
      rw [grants_iff, decided]
      nofun
  | ok peer =>
      have released : response.release.any isCompatibleRelease = true := by
        rw [delivers.release, Option.any_some, answers]
      have success : response.status.isSuccess = true := by
        have status := delivers.status
        rw [answered, decided] at status
        simp [StatusCode.isSuccess, status]
      obtain ⟨document, chunks, replied, chunked, whole⟩ := delivers.body
      rw [answered, decided] at replied
      cases replied
      have small : chunks.flatten.length ≤ maxResponseBytes := by
        obtain ⟨entries, entry, rfl, member, same⟩ := entry_of_judged decided
        rw [whole, ← same]
        exact length_answer_le spelled read member
      have arrived := grantedCapabilities_of_delivered released success chunked small
        (whole ▸ parses peer decided)
      rw [arrived] at run
      have complete : Application.Grants listed node ↔ missingCallbacks peer.capabilities = [] := by
        simp [grants_iff, decided]
      rw [complete]
      have ends : Ends (remoteWorld libraries listed node config source asking answering)
          (check id (if missingCallbacks peer.capabilities = [] then .ok () else
            .error .callbackAccessMissing)).run middle outcome after := ⟨_, run⟩
      obtain ⟨rfl, rfl⟩ := ends_done.mp ends
      refine ⟨?_, kept⟩
      split_ifs with none
      · exact iff_of_true rfl none
      · exact iff_of_false nofun none

/-- With empty caches the agent of the controller comes to its answer. -/
theorem exists_handle {asking : String} (compatible : isCompatibleRelease asking = true)
    (identities : state.identities.lookup source.ip = none) (unread : state.allowlist = none)
    (free : (state.limiter.admitSource source.ip state.clock).1 = true) :
    ∃ after, Ends (controllerWorld listed node source.ip)
      (handle config { route := .capabilities, release := some asking, source }).run state
        (answered listed node) after := by
  obtain ⟨after, run⟩ := @exists_authenticate listed node source.ip state config.strictTailnetOnly named
    inside identities unread free
  have asked := ends_onAuthorizer.mpr ⟨_, rfl, run⟩
  refine ⟨after, (ends_handle_compatible compatible).mpr (ends_run_bind.mpr ?_)⟩
  unfold answered
  cases decided : judged listed node with
  | error refusal =>
      rw [decided] at asked
      exact .inl ⟨_, rfl, asked⟩
  | ok peer =>
      rw [decided] at asked
      exact .inr ⟨peer, after, asked, ends_done.mpr ⟨rfl, rfl⟩⟩

end Source

end Agent

/-! ### Agreement -/

/-- The commands that call back. -/
def RemoteCommand.CallsBack : RemoteCommand → Prop
  | .sendShortcut _ _ | .switchStreamDisplay _ | .closeWindow _ => True
  | _ => False

theorem requiredCapability_of_callsBack {command : RemoteCommand} (calls : command.CallsBack) :
    command.requiredCapability ∈ ControlCapability.callback := by
  cases command with
  | sendShortcut | switchStreamDisplay | closeWindow =>
      simp [RemoteCommand.requiredCapability, ControlCapability.callback]
  | attachSession | detachSession | renewSession => cases calls

open Agent Application in
/-- **The three judgements agree**: the discovery misses no callback exactly when the connection verifies
the access, exactly when the remote agent accepts the controller. And when they agree on yes, the
controller's agent authorizes the commands that call back. -/
theorem judgements_agree {libraries : Libraries} (spelled : libraries.Spelled)
    {file : Option (List UInt8)} {listed : PortResult (List AllowedController)}
    (read : readable libraries file = listed) {node : String} (named : node ≠ "")
    (parses : ∀ peer, judged listed node = .ok peer → libraries.parse
      (jsonBody (encodeCapabilities peer.capabilities)) = .ok (encodeCapabilities peer.capabilities))
    {agentPort : UInt16} {peer : MeshPeer} (isPeer : peer.tailnetNodeId = node)
    {self : MeshNodeIdentity} {includeAll : Bool} {trace : List DiscoveryEvent} {found : DiscoveredNode}
    (probed : Traces (probe agentPort peer false (.gather self listed includeAll)) trace (some found))
    (compatibly : AnswersCompatibly trace)
    {address : IpAddr} {verdict : PortResult Unit} (verified : Ends (meshWorld listed node address)
      (Application.verifyCallbackAccess address).run () verdict ())
    {config : AgentConfig} {source : SocketAddr}
    (inside : config.strictTailnetOnly = true → isTailscaleAddress source.ip = true)
    {asking answering : String} (asks : isCompatibleRelease asking = true)
    (answers : isCompatibleRelease answering = true) {state after : AuthorizerState}
    (consistent : Consistent listed node source.ip state) {controller : AgentEndpoint}
    {outcome : Except ApiError Unit}
    (attached : Ends (remoteWorld libraries listed node config source asking answering)
      (Agent.verifyCallbackAccess controller).run state outcome after) :
    (¬ NeedsAccess found ↔ verdict = .ok ()) ∧ (verdict = .ok () ↔ outcome = .ok ()) ∧
      (outcome = .ok () → ∀ command : RemoteCommand, command.CallsBack → ∀ asked result reached,
        Consistent listed node source.ip asked →
          Ends (controllerWorld listed node source.ip)
            (authorizePeer config source command.requiredCapability).run asked result reached →
          ∃ authorized, result = .ok authorized ∧ authorized.tailnetNodeId = node) := by
  have discovers := needsAccess_iff compatibly probed
  have connects := verified_iff verified
  have accepts := (accepted_iff named inside spelled read parses asks answers consistent attached).1
  rw [isPeer] at discovers
  refine ⟨?_, connects.trans accepts.symm, fun accepted command calls asked result reached kept run => ?_⟩
  · rw [discovers, connects, not_not]
  · exact ends_authorizePeer named inside (requiredCapability_of_callsBack calls)
      (accepts.mp accepted) kept run

/-! ### A laptop that may call back -/

/-- The entry of the laptop. -/
private def laptopEntry : AllowedController where
  tailnetNodeId := "nLaptop"
  label := none
  addedAt := 0
  capabilities := ControlCapability.callback

/-- A timestamp is a list of nine numbers; the entry is from the beginning of 1970. -/
private def tupleStamps : Stamps where
  write _ := .array ([1970, 1, 0, 0, 0, 0, 0, 0, 0].map .integer)
  read
    | .array items => if items.length = 9 then some 0 else none
    | _ => none

/-- The libraries, for a file with the entry and an answer that lists its capabilities. -/
private def librariesOf (file answer : List UInt8) : Libraries where
  stamps := tupleStamps
  parse bytes :=
    if bytes = file then .ok (encodeControllers tupleStamps [laptopEntry])
    else if bytes = answer then .ok (encodeCapabilities ControlCapability.callback)
    else .error "expected value at line 1 column 1"
  mismatch _ := "invalid type"

/-- The file as the serializer writes it, and the answer. -/
private def laptopLibraries : Libraries :=
  librariesOf (serialized tupleStamps [laptopEntry]).content
    (jsonBody (encodeCapabilities ControlCapability.callback))

private theorem length_file : (serialized tupleStamps [laptopEntry]).content.length = 245 := by
  rw [length_content]
  decide +kernel

private theorem laptop_spelled : laptopLibraries.Spelled where
  parse_le := by
    intro bytes document parsed
    unfold laptopLibraries librariesOf at parsed
    dsimp only at parsed
    split_ifs at parsed with file answer
    · cases parsed
      rw [file, length_file]
      decide +kernel
    · cases parsed
      rw [answer, length_jsonBody_capabilities]
      decide +kernel
  stamp_le := by
    intro document time stamped
    unfold laptopLibraries librariesOf tupleStamps at stamped
    dsimp only at stamped
    split at stamped
    · rename_i items
      split_ifs at stamped with nine
      have longer := length_le_leastItems items
      rw [leastBytes_array]
      omega
    · cases stamped

private theorem readable_librariesOf {file answer : List UInt8} (small : file.length ≤ maxStateBytes) :
    readable (librariesOf file answer) (some file) = .ok [laptopEntry] := by
  have kept : KeepsStamps tupleStamps [laptopEntry] := by
    rintro entry member
    cases List.mem_singleton.mp member
    rfl
  have parses : (librariesOf file answer).parse file =
      .ok (encodeControllers tupleStamps [laptopEntry]) := if_pos rfl
  have parsed : fromSlice (librariesOf file answer) file = .ok [laptopEntry] := by
    rw [fromSlice, parses]
    dsimp only
    rw [librariesOf, decodeControllers_encode kept]
  unfold readable checkContents
  dsimp only
  rw [if_neg (Nat.not_lt.mpr small)]
  exact congrArg _ parsed

private theorem parse_answer {file answer : List UInt8} (other : answer ≠ file) :
    (librariesOf file answer).parse answer = .ok (encodeCapabilities ControlCapability.callback) :=
  (if_neg other).trans (if_pos rfl)

/-- The laptop, as Tailscale lists it. -/
private def laptopPeer : MeshPeer where
  tailnetNodeId := "nLaptop"
  dnsName := none
  hostname := some "laptop"
  ips := [.v4 100 64 0 2]
  online := true
  connection := .direct
  latencyMs := none

/-- The agent of the controller. -/
private def deskAgent : Agent.AgentConfig where
  strictTailnetOnly := true
  agentPort := 47991
  lease := .fromSecs 30
  challengeTtl := .fromSecs 60
  debugAssertions := false

open Agent Application in
/-- **The laptop may call back**, and all three say so. -/
theorem judgements_agree_laptop : ∃ trace found after,
    Traces (probe 47991 laptopPeer false (.gather ⟨"nDesk", none, some "desk", []⟩
      (.ok [laptopEntry]) false)) trace (some found) ∧ ¬ NeedsAccess found ∧
    Ends (meshWorld (.ok [laptopEntry]) "nLaptop" (.v4 100 64 0 2))
      (Application.verifyCallbackAccess (.v4 100 64 0 2)).run () (.ok ()) () ∧
    Ends (remoteWorld laptopLibraries (.ok [laptopEntry]) "nLaptop" deskAgent ⟨.v4 100 64 0 2, 50000⟩
      release release) (Agent.verifyCallbackAccess ⟨.v4 100 64 0 1, 47991⟩).run (.new 0) (.ok ()) after := by
  have compatible : isCompatibleRelease release = true := by decide
  have judgement : judged (.ok [laptopEntry]) "nLaptop" =
      .ok ⟨"nLaptop", ControlCapability.callback⟩ := by decide
  have parses : ∀ peer, judged (.ok [laptopEntry]) "nLaptop" = .ok peer → laptopLibraries.parse
      (jsonBody (encodeCapabilities peer.capabilities)) = .ok (encodeCapabilities peer.capabilities) := by
    intro peer decided
    rw [judgement] at decided
    cases decided
    have other : jsonBody (encodeCapabilities ControlCapability.callback) ≠
        (serialized tupleStamps [laptopEntry]).content := by
      intro same
      have lengths := congrArg List.length same
      rw [length_file, length_jsonBody_capabilities] at lengths
      revert lengths
      decide +kernel
    exact parse_answer other
  have inside : deskAgent.strictTailnetOnly = true → isTailscaleAddress (.v4 100 64 0 2) = true :=
    fun _ => by decide
  have small : (serialized tupleStamps [laptopEntry]).content.length ≤ maxStateBytes := by
    rw [length_file]
    decide
  have read : readable laptopLibraries (some (serialized tupleStamps [laptopEntry]).content) =
      .ok [laptopEntry] := readable_librariesOf small
  have current : (ensureCompatibleAgent ⟨"ok", protocol, release⟩).isOk = true :=
    ensureCompatibleAgent_isOk.mpr ⟨rfl, compatible⟩
  obtain ⟨trace, found, probed, compatibly⟩ : ∃ trace found, Traces (probe 47991 laptopPeer false
      (.gather ⟨"nDesk", none, some "desk", []⟩ (.ok [laptopEntry]) false)) trace (some found) ∧
        AnswersCompatibly trace := by
    refine ⟨_, _, probe_asks rfl rfl current 0 0 rfl (.ok ⟨"nLaptop", "laptop", "4.0", release, []⟩), ?_⟩
    exact ⟨⟨.v4 100 64 0 2, 47991⟩, .ok ⟨"nLaptop", "laptop", "4.0", release, []⟩, by simp, nofun⟩
  have verified : Ends (meshWorld (.ok [laptopEntry]) "nLaptop" (.v4 100 64 0 2))
      (Application.verifyCallbackAccess (.v4 100 64 0 2)).run () (.ok ()) () :=
    ⟨_, .ok (some ⟨"nLaptop", none, none, []⟩), (), _, rfl, fun _ => ⟨_, rfl, rfl⟩, .ok [laptopEntry], (),
      _, rfl, rfl, rfl, rfl, rfl⟩
  obtain ⟨after, handled⟩ := @exists_handle (.ok [laptopEntry]) "nLaptop" deskAgent
    ⟨.v4 100 64 0 2, 50000⟩ (.new 0) (by decide) inside release compatible rfl rfl (by decide +kernel)
  let response : HttpResponse := ⟨⟨200, "200 OK"⟩, some release,
    [.ok (jsonBody (encodeCapabilities ControlCapability.callback))]⟩
  have delivers : Delivers release (answered (.ok [laptopEntry]) "nLaptop") response := by
    rw [answered, judgement]
    exact ⟨rfl, rfl, _, [_], rfl, rfl, List.append_nil _⟩
  have arrived : grantedCapabilities laptopLibraries response = .ok ControlCapability.callback := by
    have whole : [jsonBody (encodeCapabilities ControlCapability.callback)].flatten =
        jsonBody (encodeCapabilities ControlCapability.callback) := List.append_nil _
    have within := length_answer_le laptop_spelled read (List.mem_singleton_self _)
    have parsed := parses _ judgement
    exact grantedCapabilities_of_delivered compatible rfl rfl (whole ▸ within) (whole ▸ parsed)
  have attached : Ends (remoteWorld laptopLibraries (.ok [laptopEntry]) "nLaptop" deskAgent
      ⟨.v4 100 64 0 2, 50000⟩ release release)
        (Agent.verifyCallbackAccess ⟨.v4 100 64 0 1, 47991⟩).run (.new 0) (.ok ()) after :=
    ⟨_, .ok ControlCapability.callback, after, _, rfl, ⟨_, response, handled, delivers, arrived.symm⟩,
      rfl, rfl, rfl⟩
  have agree := judgements_agree laptop_spelled read (by decide) parses rfl probed compatibly verified
    inside compatible compatible (consistent_of_empty rfl rfl) attached
  exact ⟨trace, found, after, probed, agree.1.mpr rfl, verified, attached⟩

end Omdesky
