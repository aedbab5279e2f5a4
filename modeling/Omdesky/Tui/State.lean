/-
**The state of the terminal interface and its handlers (`omdesky-tui/src/lib.rs`).**

What is only drawn, and the settings of the stream, are left out of the state.

* `AppState`, `AsyncMessage`, `Key`: what the interface knows, what its tasks tell it, and what is typed.
* `applyMessage`: the effect of a message.
* `handleKey`, `handleOverlayKey`: the effect of a key, and the tasks it starts.
* `Handles`, `takePending_cases`: what a handler makes of the connection.
-/

import Omdesky.Application.Discovery
import Omdesky.Text

namespace Omdesky.Tui

open Application

/-! ### The state -/

/-- `Activity`. -/
inductive Activity
  | idle
  | connecting
  deriving DecidableEq, Repr

/-- `SessionAction`. -/
inductive SessionAction
  | start
  | focus
  | switch
  deriving DecidableEq, Repr

/-- `session_action`. -/
def sessionAction (activeNodeId : Option String) (selectedNodeId : String) : SessionAction :=
  match activeNodeId with
  | some active => if active = selectedNodeId then .focus else .switch
  | none => .start

/-- `AccessRow`. -/
structure AccessRow where
  tailnetNodeId : String
  label : String
  deriving DecidableEq, Repr

/-- `StreamSetting`. -/
inductive StreamSetting
  | display
  | resolution
  | fps
  | bitrate
  | codec
  | audio
  deriving DecidableEq, Repr

/-- `StreamSetting::next`. -/
def StreamSetting.next : StreamSetting → StreamSetting
  | .display => .resolution
  | .resolution => .fps
  | .fps => .bitrate
  | .bitrate => .codec
  | .codec => .audio
  | .audio => .display

/-- `StreamSetting::previous`. -/
def StreamSetting.previous : StreamSetting → StreamSetting
  | .display => .audio
  | .resolution => .display
  | .fps => .resolution
  | .bitrate => .fps
  | .codec => .bitrate
  | .audio => .codec

/-- `Overlay`. -/
inductive Overlay
  | menu (selected : StreamSetting)
  | credentialsUser (user : String)
  | credentialsPass (user pass : String)
  | access
  deriving DecidableEq, Repr

/-- `LocalReadiness`. -/
inductive LocalReadiness
  | checking
  | ready
  | blocked (reason : String)
  deriving DecidableEq, Repr

/-- `AsyncMessage`. -/
inductive AsyncMessage
  | discovery (result : Except String (List DiscoveredNode))
  | localReadiness (result : Except String Unit)
  | sessionStarted (generation : UInt64) (nodeId nodeName : String) (moonlightPid : Option Nat)
  | sessionEnded (generation : UInt64) (result : Except String String) (localFailure : Bool)
  | focus (result : Except String String)
  | access (result : Except String (List AccessRow))
  | credentialStatus (result : Except String Bool)
  | credentialStored (result : Except String Unit)

/-- `AppState`. -/
structure AppState where
  nodes : List DiscoveredNode
  list : Option Nat
  loading : Bool
  activity : Activity
  activeNodeId : Option String
  activeMoonlightPid : Option Nat
  pendingNode : Option DiscoveredNode
  sessionGeneration : UInt64
  notice : Option String
  error : Option String
  overlay : Option Overlay
  sunshineConfigured : Bool
  localReadiness : LocalReadiness
  accessEntries : List AccessRow

namespace AppState

/-- `AppState::new`. -/
def new : AppState where
  nodes := []
  list := none
  loading := false
  activity := .idle
  activeNodeId := none
  activeMoonlightPid := none
  pendingNode := none
  sessionGeneration := 0
  notice := none
  error := none
  overlay := none
  sunshineConfigured := false
  localReadiness := .checking
  accessEntries := []

/-- What the user is told of a success. -/
def tell (state : AppState) (notice : String) : AppState :=
  { state with notice := some notice, error := none }

/-- What the user is told of a failure. -/
def fail (state : AppState) (error : String) : AppState :=
  { state with error := some error, notice := none }

/-- A notice or an error, as an operation ended. -/
def report (state : AppState) : Except String String → AppState
  | .ok notice => state.tell notice
  | .error error => state.fail error

/-- The end of `AppState::expire_message`: the lifetime of the message is over. -/
def expireMessage (state : AppState) : AppState := { state with error := none, notice := none }

/-- `AppState::selected`. -/
def selected (state : AppState) : Option DiscoveredNode := do state.nodes[← state.list]?

/-- `AppState::selected_remote`. -/
def selectedRemote (state : AppState) : Option DiscoveredNode :=
  state.selected.filter DiscoveredNode.isConnectable

/-- `AppState::unavailable_reason`. -/
def unavailableReason (state : AppState) : Option String :=
  match state.localReadiness with
  | .blocked error => some error
  | .checking => some "Checking local connection requirements. Please wait."
  | .ready => do
      let node ← state.selected
      if node.isLocal then some "This device cannot connect to itself"
      else
        match node.blockers.head? with
        | some blocker => some (blockerMessage node.name blocker)
        | none => if node.status = .ready then none else some "This device is not ready"

/-- `AppState::select_first`. -/
def selectFirst (state : AppState) : AppState :=
  { state with list := if state.nodes.isEmpty then none else some 0 }

/-- `AppState::select_next`. -/
def selectNext (state : AppState) : AppState :=
  if state.nodes.isEmpty then state
  else { state with list := some (state.list.elim 0 fun index => (index + 1) % state.nodes.length) }

/-- `AppState::select_previous`. -/
def selectPrevious (state : AppState) : AppState :=
  if state.nodes.isEmpty then state
  else
    let length := state.nodes.length
    { state with list := some (state.list.elim 0 fun index => (index + length - 1) % length) }

end AppState

/-- `user_error`. -/
def userError (context : String) (error : PortError) : String := context ++ " " ++ error.userMessage

/-! ### Messages -/

/-- `apply_refresh`. -/
def applyRefresh (state : AppState) : Except String (List DiscoveredNode) → AppState
  | .ok nodes =>
      let error := if state.localReadiness = .ready then none else state.error
      { state with loading := false, nodes, error }.selectFirst
  | .error error => { state with loading := false, nodes := [], error := some error, list := none }

/-- `apply_message`. -/
def applyMessage (state : AppState) : AsyncMessage → AppState
  | .discovery result => applyRefresh state result
  | .localReadiness result =>
      match result with
      | .ok () => { state with localReadiness := .ready, error := none }
      | .error error => { state with localReadiness := .blocked error }.fail error
  | .sessionStarted generation nodeId nodeName moonlightPid =>
      if generation = state.sessionGeneration then
        { state with
          activity := .idle
          activeNodeId := some nodeId
          activeMoonlightPid := moonlightPid }.tell ("Connected to " ++ nodeName ++ ".")
      else state
  | .sessionEnded generation result localFailure =>
      if generation = state.sessionGeneration then
        let reason :=
          match result with
          | .error error => error
          | .ok _ => "The local controller is unavailable."
        { state with
          activity := .idle
          activeNodeId := none
          activeMoonlightPid := none
          localReadiness := if localFailure then .blocked reason else state.localReadiness
        }.report result
      else state
  | .focus result => state.report result
  | .access result =>
      match result with
      | .ok entries => { state with accessEntries := entries }
      | .error error => { state with error := some error }
  | .credentialStatus result =>
      match result with
      | .ok configured => { state with sunshineConfigured := configured }
      | .error error => { state with localReadiness := .blocked error, error := some error }
  | .credentialStored result =>
      match result with
      | .ok () =>
          { state with sunshineConfigured := true, localReadiness := .checking }.tell
            "Sunshine credentials saved"
      | .error error => state.fail ("Could not save credentials: " ++ error)

/-! ### Keys -/

/-- A task that a handler starts. -/
inductive Spawn
  | refresh
  | localReadiness
  | connect (node : DiscoveredNode) (generation : UInt64)
  | focus (moonlightPid : Option Nat)
  | accessList
  | accessAllow (controller : AllowedController)
  | accessRevoke (tailnetNodeId : String)
  | credentialStatus
  | credentialStore (username password : String)

/-- What a handler makes of a key. -/
structure Handled where
  state : AppState
  spawned : List Spawn := []
  quits : Bool := false

/-- `KeyCode`. -/
inductive Key
  | char (c : Char)
  | esc
  | enter
  | backspace
  | up
  | down
  | left
  | right
  | other
  deriving DecidableEq, Repr

/-- What a handler hears back of what it does itself: closing the current stream's window, saving a
setting, and the time in seconds. -/
structure Answers where
  closed : PortResult Unit
  saved : Except String Unit
  now : Int

/-- `start_preflight`. -/
def startPreflight (state : AppState) (node : DiscoveredNode) : Handled :=
  let generation := state.sessionGeneration + 1
  { state := { state with
      sessionGeneration := generation
      activity := .connecting
      activeNodeId := none
      error := none
      notice := some ("Checking connection to " ++ node.name ++ "…") }
    spawned := [.connect node generation] }

/-- The end of `save_stream_profile` and `save_display_mode`. -/
def reportSaved (state : AppState) (setting : StreamSetting) (saved : Except String Unit) : AppState :=
  match setting, saved with
  | .display, .ok () => state.tell "Display mode saved"
  | .display, .error error => state.fail ("Could not save display mode: " ++ error)
  | _, .ok () => state.tell "Stream settings saved"
  | _, .error error => state.fail ("Could not save stream settings: " ++ error)

/-- The key in the settings. -/
def handleMenuKey (state : AppState) (selected : StreamSetting) (answers : Answers) (key : Key) :
    Handled :=
  match key with
  | .esc | .char 'q' => { state := { state with overlay := none } }
  | .down | .char 'j' => { state := { state with overlay := some (.menu selected.next) } }
  | .up | .char 'k' => { state := { state with overlay := some (.menu selected.previous) } }
  | .left | .char 'h' | .right | .char 'l' | .enter =>
      { state := reportSaved state selected answers.saved }
  | .char 'c' => { state := { state with overlay := some (.credentialsUser "") } }
  | .char 'a' => { state := { state with overlay := some .access }, spawned := [.accessList] }
  | _ => { state }

/-- The key in the allowlist. -/
def handleAccessKey (state : AppState) (answers : Answers) (key : Key) : Handled :=
  match key with
  | .esc | .char 'q' => { state := { state with overlay := some (.menu .resolution) } }
  | .char 'a' =>
      match state.selectedRemote with
      | some node =>
          { state := { state with notice := some ("Allowed " ++ node.name ++ " to control this device") }
            spawned := [.accessAllow
              { tailnetNodeId := node.tailnetNodeId, label := some node.name, addedAt := answers.now
                capabilities := ControlCapability.all }] }
      | none => { state := { state with error := some "Select a remote device first to grant it access" } }
  | .char 'd' =>
      match state.selected with
      | some node =>
          { state := { state with notice := some ("Revoked access for " ++ node.name) }
            spawned := [.accessRevoke node.tailnetNodeId] }
      | none => { state }
  | _ => { state }

/-- `handle_overlay_key`. -/
def handleOverlayKey (state : AppState) (overlay : Overlay) (answers : Answers) (key : Key) :
    Handled :=
  match overlay with
  | .menu selected => handleMenuKey state selected answers key
  | .credentialsUser user =>
      match key with
      | .esc => { state := { state with overlay := some (.menu .resolution) } }
      | .backspace =>
          let user := String.ofList user.toList.dropLast
          { state := { state with overlay := some (.credentialsUser user) } }
      | .char c =>
          if isControl c then { state }
          else { state := { state with overlay := some (.credentialsUser (user.push c)) } }
      | .enter =>
          if user.isEmpty then { state }
          else { state := { state with overlay := some (.credentialsPass user "") } }
      | _ => { state }
  | .credentialsPass user pass =>
      match key with
      | .esc => { state := { state with overlay := some (.menu .resolution) } }
      | .backspace =>
          let pass := String.ofList pass.toList.dropLast
          { state := { state with overlay := some (.credentialsPass user pass) } }
      | .char c =>
          if isControl c then { state }
          else { state := { state with overlay := some (.credentialsPass user (pass.push c)) } }
      | .enter =>
          if pass.isEmpty then { state }
          else
            { state := { state with overlay := some (.menu .resolution) }
              spawned := [.credentialStore user pass] }
      | _ => { state }
  | .access => handleAccessKey state answers key

/-- The key that connects to the selected device, or goes to its stream. -/
def handleEnter (state : AppState) (answers : Answers) : Handled :=
  match state.unavailableReason with
  | some reason => { state := state.fail ("ATTENTION: " ++ reason) }
  | none =>
      match state.selectedRemote with
      | none => { state }
      | some node =>
          match sessionAction state.activeNodeId node.tailnetNodeId with
          | .focus =>
              { state := state.tell ("Focusing " ++ node.name ++ "…")
                spawned := [.focus state.activeMoonlightPid] }
          | .switch =>
              match answers.closed with
              | .ok () =>
                  { state := { state with pendingNode := some node }.tell
                      ("Switching to " ++ node.name ++ "…") }
              | .error error =>
                  { state := { state with pendingNode := none }.fail
                      (userError "The current stream could not be closed." error) }
          | .start => if state.activity = .idle then startPreflight state node else { state }

/-- `handle_key`. -/
def handleKey (state : AppState) (answers : Answers) (key : Key) : Handled :=
  match state.overlay with
  | some overlay => handleOverlayKey state overlay answers key
  | none =>
      match key with
      | .char 'q' | .esc => { state, quits := true }
      | .down | .char 'j' => { state := state.selectNext }
      | .up | .char 'k' => { state := state.selectPrevious }
      | .char 'r' =>
          if state.loading then { state }
          else
            { state := { state with
                loading := true, localReadiness := .checking, error := none, notice := none }
              spawned := [.refresh, .localReadiness] }
      | .char 's' =>
          { state := { state with overlay := some (.menu .display) }, spawned := [.credentialStatus] }
      | .enter => handleEnter state answers
      | _ => { state }

/-! ### The loop -/

/-- The state in which the loop of `run_loop` begins. -/
def AppState.opened : AppState := { AppState.new with loading := true }

/-- What a round of the loop does with a device that waits for the current stream to end. -/
def takePending (state : AppState) : Handled :=
  if state.activity = .idle ∧ state.activeNodeId = none then
    match state.pendingNode with
    | some node => startPreflight { state with pendingNode := none } node
    | none => { state }
  else { state }

/-! ### Connections -/

/-- A connection is being made, or its stream is running. -/
def AppState.Busy (state : AppState) : Prop :=
  state.activity = .connecting ∨ state.activeNodeId ≠ none

/-- The connections that a handler starts. -/
def Handled.connects (handled : Handled) : List (DiscoveredNode × UInt64) :=
  handled.spawned.filterMap fun
    | .connect node generation => some (node, generation)
    | _ => none

/-- A handler starts no connection, or one while there is none. -/
inductive Paced (state : AppState) (handled : Handled) : Prop
  | none (connects : handled.connects = []) (busy : state.Busy → handled.state.Busy)
  | one (free : ¬ state.Busy) (connection : DiscoveredNode × UInt64)
      (connects : handled.connects = [connection]) (busy : handled.state.Busy)

/-- The device that the key for connecting asks to switch to. -/
def enterTarget (state : AppState) : Option DiscoveredNode :=
  if state.unavailableReason = none then
    state.selectedRemote.filter fun node =>
      sessionAction state.activeNodeId node.tailnetNodeId = .switch
  else none

/-- The device that a key asks to switch to. -/
def switchTarget (state : AppState) (key : Key) : Option DiscoveredNode :=
  if state.overlay = none ∧ key = .enter then enterTarget state else none

/-- A handler leaves the connection as it is, makes the device it was `asked` to switch to wait, or
begins the next connection while there is none. -/
inductive Handles (asked : Option DiscoveredNode) (state : AppState) (handled : Handled) : Prop
  | none (asks : asked = none) (connects : handled.connects = [])
      (activity : handled.state.activity = state.activity)
      (active : handled.state.activeNodeId = state.activeNodeId)
      (generation : handled.state.sessionGeneration = state.sessionGeneration)
      (pending : handled.state.pendingNode = state.pendingNode)
  | switch (node : DiscoveredNode) (asks : asked = some node) (connects : handled.connects = [])
      (activity : handled.state.activity = state.activity)
      (active : handled.state.activeNodeId = state.activeNodeId)
      (generation : handled.state.sessionGeneration = state.sessionGeneration)
      (pending : handled.state.pendingNode = some node ∨ handled.state.pendingNode = none)
  | one (asks : asked = none) (free : ¬ state.Busy) (node : DiscoveredNode)
      (connects : handled.connects = [(node, state.sessionGeneration + 1)])
      (activity : handled.state.activity = .connecting) (active : handled.state.activeNodeId = none)
      (generation : handled.state.sessionGeneration = state.sessionGeneration + 1)
      (pending : handled.state.pendingNode = state.pendingNode)

section Paced

variable {state : AppState}

theorem AppState.not_busy_iff : ¬ state.Busy ↔ state.activity = .idle ∧ state.activeNodeId = none := by
  cases activity : state.activity <;> simp [Busy, activity]

/-- A message that ends no session leaves a connection under way. -/
theorem busy_applyMessage {message : AsyncMessage}
    (running : ∀ generation result failure, message ≠ .sessionEnded generation result failure)
    (busy : state.Busy) : (applyMessage state message).Busy := by
  cases message with
  | sessionEnded generation result failure => exact absurd rfl (running _ _ _)
  | sessionStarted generation nodeId nodeName pid =>
      unfold applyMessage
      dsimp only
      split
      · exact .inr nofun
      · exact busy
  | _ result => cases result <;> exact busy

theorem handles_startPreflight (node : DiscoveredNode) (free : ¬ state.Busy) :
    Handles none state (startPreflight state node) :=
  .one rfl free node rfl rfl rfl rfl rfl

/-- The loop takes the device that waits, once there is no connection. -/
theorem takePending_cases : takePending state = { state } ∨ ∃ node, ¬ state.Busy ∧
    state.pendingNode = some node ∧
      takePending state = startPreflight { state with pendingNode := none } node := by
  unfold takePending
  split
  · next idle =>
      cases pending : state.pendingNode with
      | none => exact .inl rfl
      | some node => exact .inr ⟨node, AppState.not_busy_iff.mpr idle, rfl, rfl⟩
  · exact .inl rfl

theorem handles_handleMenuKey (selected : StreamSetting) (answers : Answers) (key : Key) :
    Handles none state (handleMenuKey state selected answers key) := by
  have saved : Handles none state { state := reportSaved state selected answers.saved } := by
    unfold reportSaved
    split <;> exact .none rfl rfl rfl rfl rfl rfl
  unfold handleMenuKey
  split <;> first
    | exact .none rfl rfl rfl rfl rfl rfl
    | exact saved

theorem handles_handleOverlayKey (overlay : Overlay) (answers : Answers) (key : Key) :
    Handles none state (handleOverlayKey state overlay answers key) := by
  cases overlay with
  | menu selected => exact handles_handleMenuKey selected answers key
  | credentialsUser user =>
      unfold handleOverlayKey
      cases key with
      | char c | enter =>
          dsimp only
          split <;> exact .none rfl rfl rfl rfl rfl rfl
      | _ => exact .none rfl rfl rfl rfl rfl rfl
  | credentialsPass user pass =>
      unfold handleOverlayKey
      cases key with
      | char c | enter =>
          dsimp only
          split <;> exact .none rfl rfl rfl rfl rfl rfl
      | _ => exact .none rfl rfl rfl rfl rfl rfl
  | access =>
      dsimp only [handleOverlayKey, handleAccessKey]
      split <;> first
        | exact .none rfl rfl rfl rfl rfl rfl
        | split <;> exact .none rfl rfl rfl rfl rfl rfl

/-- A session starts only where there is none. -/
theorem inactive_of_start {activeNodeId : Option String} {selectedNodeId : String}
    (start : sessionAction activeNodeId selectedNodeId = .start) : activeNodeId = none := by
  cases activeNodeId with
  | none => rfl
  | some active =>
      unfold sessionAction at start
      dsimp only at start
      split at start
      · cases start
      · cases start

theorem handles_handleEnter (answers : Answers) :
    Handles (enterTarget state) state (handleEnter state answers) := by
  cases reason : state.unavailableReason with
  | some text =>
      have asks : enterTarget state = none := by simp [enterTarget, reason]
      rw [handleEnter, reason]
      exact .none asks rfl rfl rfl rfl rfl
  | none =>
      cases chosen : state.selectedRemote with
      | none =>
          have asks : enterTarget state = none := by simp [enterTarget, reason, chosen]
          simp only [handleEnter, reason, chosen]
          exact .none asks rfl rfl rfl rfl rfl
      | some node =>
          simp only [handleEnter, reason, chosen]
          cases action : sessionAction state.activeNodeId node.tailnetNodeId with
          | focus =>
              have asks : enterTarget state = none := by simp [enterTarget, reason, chosen, action]
              exact .none asks rfl rfl rfl rfl rfl
          | switch =>
              have asks : enterTarget state = some node := by
                simp [enterTarget, reason, chosen, action]
              dsimp only
              split
              · exact .switch node asks rfl rfl rfl rfl (.inl rfl)
              · exact .switch node asks rfl rfl rfl rfl (.inr rfl)
          | start =>
              have asks : enterTarget state = none := by simp [enterTarget, reason, chosen, action]
              dsimp only
              split
              · next idle =>
                  rw [asks]
                  exact handles_startPreflight node
                    (AppState.not_busy_iff.mpr ⟨idle, inactive_of_start action⟩)
              · exact .none asks rfl rfl rfl rfl rfl

theorem handles_handleKey (answers : Answers) (key : Key) :
    Handles (switchTarget state key) state (handleKey state answers key) := by
  cases shown : state.overlay with
  | some overlay =>
      have asks : switchTarget state key = none := by simp [switchTarget, shown]
      rw [asks]
      simp only [handleKey, shown]
      exact handles_handleOverlayKey overlay answers key
  | none =>
      by_cases enter : key = .enter
      · subst enter
        have asks : switchTarget state .enter = enterTarget state := by simp [switchTarget, shown]
        rw [asks]
        simp only [handleKey, shown]
        exact handles_handleEnter answers
      · have asks : switchTarget state key = none := by simp [switchTarget, enter]
        have first : Handles none state { state := state.selectNext } := by
          unfold AppState.selectNext
          split <;> exact .none rfl rfl rfl rfl rfl rfl
        have second : Handles none state { state := state.selectPrevious } := by
          unfold AppState.selectPrevious
          split <;> exact .none rfl rfl rfl rfl rfl rfl
        rw [asks]
        simp only [handleKey, shown]
        split
        all_goals first
          | exact first
          | exact second
          | exact absurd rfl enter
          | exact .none rfl rfl rfl rfl rfl rfl
          | split <;> exact .none rfl rfl rfl rfl rfl rfl

/-- What leaves a connection as it is leaves the interface as busy as it was. -/
theorem Handles.paced {asked : Option DiscoveredNode} {handled : Handled}
    (handles : Handles asked state handled) : Paced state handled := by
  have same (activity : handled.state.activity = state.activity)
      (active : handled.state.activeNodeId = state.activeNodeId) :
      state.Busy → handled.state.Busy := fun busy => by
    unfold AppState.Busy
    rwa [activity, active]
  cases handles with
  | none asks connects activity active generation => exact .none connects (same activity active)
  | switch node asks connects activity active generation =>
      exact .none connects (same activity active)
  | one asks free node connects activity active generation =>
      exact .one free _ connects (.inl activity)

theorem paced_takePending : Paced state (takePending state) := by
  rcases @takePending_cases state with same | ⟨node, free, _, same⟩
  · rw [same]
    exact .none rfl id
  · rw [same]
    exact .one free _ rfl (.inl rfl)

theorem paced_handleKey (answers : Answers) (key : Key) :
    Paced state (handleKey state answers key) := (handles_handleKey answers key).paced

end Paced

end Omdesky.Tui
