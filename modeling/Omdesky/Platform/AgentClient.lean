/-
**The client of another computer's agent (`omdesky-platform/src/agent_client.rs`).**

What the reading calls do with a decoded response: texts are sanitized field by field, and the node
information is held to its limits.

* `nodeInfo`, `displays`, `workspaces`, `windows`: the calls, from the decoded response on.
* `safe_sanitizeForDisplay`: a sanitized text has no control, bidirectional or invisible character.
* `SafeNode`, `SafeDisplay`, `SafeWorkspace`, `SafeWindow`: the texts that are sanitized. A window's
  identifier is not among them.
-/

import Omdesky.Protocol
import Omdesky.Text

namespace Omdesky

/-! ### Sanitized texts -/

/-- `DISPLAY_LINE_LIMIT`. -/
def displayLineLimit : Nat := 256

/-- Every character of the text may be shown. -/
def SafeText (text : String) : Prop := ∀ c ∈ text.toList, isPresentationSafe c = true

/-- Every character of the text, if there is one, may be shown. -/
def SafeOptional (text : Option String) : Prop := ∀ value ∈ text, SafeText value

/-- **A sanitized text may be shown.** -/
theorem safe_sanitizeForDisplay (value : String) (limit : Nat) :
    SafeText (sanitizeForDisplay value limit) := by
  have shown : ∀ c ∈ (value.toList.take limit).map
      (fun c => if isPresentationSafe c then c else replacement), isPresentationSafe c = true := by
    intro c member
    obtain ⟨given, _, rfl⟩ := List.mem_map.mp member
    by_cases safe : isPresentationSafe given = true
    · rwa [if_pos safe]
    · rw [if_neg safe]
      decide
  unfold SafeText sanitizeForDisplay
  rw [String.toList_ofList]
  split
  · intro c member
    rcases List.mem_append.mp member with front | ellipsis
    · exact shown c front
    · obtain rfl := List.mem_singleton.mp ellipsis
      decide
  · exact shown

theorem safe_sanitizeOptional (value : Option String) (limit : Nat) :
    SafeOptional (sanitizeOptional value limit) := by
  intro text member
  obtain ⟨given, _, rfl⟩ := Option.map_eq_some_iff.mp member
  exact safe_sanitizeForDisplay given limit

namespace Platform

/-! ### What an agent answers -/

/-- `Display`, with its refresh rate. -/
structure ShownDisplay (Hertz : Type) extends Display where
  refreshHz : Hertz

/-- `sanitize_display`. -/
def sanitizeDisplay {Hertz : Type} (display : ShownDisplay Hertz) : ShownDisplay Hertz :=
  { display with
    id := sanitizeForDisplay display.id displayNameLimit
    name := sanitizeForDisplay display.name displayNameLimit }

/-- `sanitize_workspace`. -/
def sanitizeWorkspace (workspace : Workspace) : Workspace :=
  { workspace with
    name := sanitizeOptional workspace.name displayNameLimit
    monitor := sanitizeOptional workspace.monitor displayNameLimit }

/-- `sanitize_window`. -/
def sanitizeWindow (window : Window) : Window :=
  { window with
    appId := sanitizeOptional window.appId displayNameLimit
    windowClass := sanitizeOptional window.windowClass displayNameLimit
    title := sanitizeOptional window.title displayLineLimit }

/-- `sanitize_node_info`. -/
def sanitizeNodeInfo (response : NodeInfoResponse) : NodeInfoResponse where
  nodeId := sanitizeForDisplay response.nodeId displayNameLimit
  hostname := sanitizeForDisplay response.hostname displayNameLimit
  omarchyVersion := sanitizeForDisplay response.omarchyVersion displayNameLimit
  agentVersion := sanitizeForDisplay response.agentVersion displayNameLimit
  capabilities := response.capabilities.map fun capability =>
    sanitizeForDisplay capability displayNameLimit

/-- `MAX_NODE_FIELD_BYTES`. -/
def maxNodeFieldBytes : Nat := 256

/-- `MAX_VERSION_BYTES`. -/
def maxVersionBytes : Nat := 128

/-- `MAX_CAPABILITIES`. -/
def maxCapabilities : Nat := 128

/-- `MAX_CAPABILITY_BYTES`. -/
def maxCapabilityBytes : Nat := 128

/-- `validate_node_info`. -/
def validateNodeInfo (response : NodeInfoResponse) : PortResult NodeInfoResponse :=
  let fieldsAreValid := response.nodeId.utf8ByteSize ≤ maxNodeFieldBytes &&
    response.hostname.utf8ByteSize ≤ maxNodeFieldBytes &&
    response.omarchyVersion.utf8ByteSize ≤ maxVersionBytes &&
    response.agentVersion.utf8ByteSize ≤ maxVersionBytes &&
    response.capabilities.length ≤ maxCapabilities &&
    response.capabilities.all fun capability => capability.utf8ByteSize ≤ maxCapabilityBytes
  if fieldsAreValid then .ok (sanitizeNodeInfo response)
  else .error ⟨"AGENT_FIELD_LIMIT", "the device response contained an oversized field", false⟩

/-- A reading request to an agent. -/
inductive AgentGet
  | node
  | displays
  | workspaces
  | windows
  deriving DecidableEq, Repr

/-- The decoded response, or why there is none. -/
abbrev AgentGetAnswer (Hertz : Type) : AgentGet → Type
  | .node => PortResult NodeInfoResponse
  | .displays => PortResult (List (ShownDisplay Hertz))
  | .workspaces => PortResult (List Workspace)
  | .windows => PortResult (List Window)

/-! ### The calls, from the decoded response on -/

/-- `HttpAgentClient::node_info`. -/
def nodeInfo (response : PortResult NodeInfoResponse) : PortResult NodeInfoResponse :=
  response.bind validateNodeInfo

/-- `HttpAgentClient::displays`. -/
def displays {Hertz : Type} (response : PortResult (List (ShownDisplay Hertz))) :
    PortResult (List (ShownDisplay Hertz)) :=
  response.map fun displays => displays.map sanitizeDisplay

/-- `HttpAgentClient::workspaces`. -/
def workspaces (response : PortResult (List Workspace)) : PortResult (List Workspace) :=
  response.map fun workspaces => workspaces.map sanitizeWorkspace

/-- `HttpAgentClient::windows`. -/
def windows (response : PortResult (List Window)) : PortResult (List Window) :=
  response.map fun windows => windows.map sanitizeWindow

/-! ### What may be shown of a value -/

/-- The texts of the node information may be shown. -/
structure SafeNode (node : NodeInfoResponse) : Prop where
  nodeId : SafeText node.nodeId
  hostname : SafeText node.hostname
  omarchyVersion : SafeText node.omarchyVersion
  agentVersion : SafeText node.agentVersion
  capabilities : ∀ capability ∈ node.capabilities, SafeText capability

/-- The texts of a display may be shown. -/
structure SafeDisplay {Hertz : Type} (display : ShownDisplay Hertz) : Prop where
  id : SafeText display.id
  name : SafeText display.name

/-- The texts of a workspace may be shown. -/
structure SafeWorkspace (workspace : Workspace) : Prop where
  name : SafeOptional workspace.name
  monitor : SafeOptional workspace.monitor

/-- The texts of a window may be shown, its identifier apart. -/
structure SafeWindow (window : Window) : Prop where
  appId : SafeOptional window.appId
  windowClass : SafeOptional window.windowClass
  title : SafeOptional window.title

theorem safe_nodeInfo {response : PortResult NodeInfoResponse} {node : NodeInfoResponse}
    (answered : nodeInfo response = .ok node) : SafeNode node := by
  cases response with
  | error error => cases answered
  | ok response =>
      change validateNodeInfo response = .ok node at answered
      unfold validateNodeInfo at answered
      dsimp only at answered
      split at answered
      · obtain rfl := Except.ok.inj answered
        refine ⟨safe_sanitizeForDisplay _ _, safe_sanitizeForDisplay _ _,
          safe_sanitizeForDisplay _ _, safe_sanitizeForDisplay _ _, fun capability member => ?_⟩
        obtain ⟨given, _, rfl⟩ := List.mem_map.mp member
        exact safe_sanitizeForDisplay _ _
      · cases answered

/-- A list that was answered, each value sanitized. -/
theorem map_ok {α : Type} {response : PortResult (List α)} {sanitize : α → α} {shown : List α}
    (answered : response.map (fun values => values.map sanitize) = .ok shown) :
    ∃ listed, response = .ok listed ∧ shown = listed.map sanitize := by
  cases response with
  | error error => cases answered
  | ok listed => exact ⟨listed, rfl, (Except.ok.inj answered).symm⟩

theorem safe_sanitizeDisplay {Hertz : Type} (display : ShownDisplay Hertz) :
    SafeDisplay (sanitizeDisplay display) :=
  ⟨safe_sanitizeForDisplay _ _, safe_sanitizeForDisplay _ _⟩

theorem safe_sanitizeWorkspace (workspace : Workspace) : SafeWorkspace (sanitizeWorkspace workspace) :=
  ⟨safe_sanitizeOptional _ _, safe_sanitizeOptional _ _⟩

theorem safe_sanitizeWindow (window : Window) : SafeWindow (sanitizeWindow window) :=
  ⟨safe_sanitizeOptional _ _, safe_sanitizeOptional _ _, safe_sanitizeOptional _ _⟩

end Platform

end Omdesky
