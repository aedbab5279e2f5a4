/-
**Where the connections of the terminal interface come from (`omdesky-tui/src/lib.rs`).**

Anything may happen to the interface here, in any order: any message at any time, any key, any round of
its loop.

* `Happening`, `AppState.meets`, `after`: what may happen, and the state after it.
* `LastHeard`: the last message of a kind.
* `Vetted`: a device that the interface offers for a connection when the key for it is pressed.
* `nodes_after`, `ready_after`: what the interface knows is what it heard last.
* `begun_vetted`: **every connection goes back to a key** pressed on a device that the last discovery
  listed as ready, while the last local check had succeeded.
* `exists_after_of_arrived`: the interface of `Generations` is one of these.
-/

import Omdesky.Tui.Generations

namespace Omdesky.Tui

open Application

/-! ### Runs -/

/-- What happens to the interface. -/
inductive Happening
  | message (message : AsyncMessage)
  | round (expired : Bool)
  | key (answers : Answers) (key : Key)

/-- What the interface makes of it. -/
def AppState.meets (state : AppState) : Happening → Handled
  | .message message => { state := applyMessage state message }
  | .round expired =>
      let handled := takePending state
      { handled with state := if expired then handled.state.expireMessage else handled.state }
  | .key answers key => handleKey state answers key

/-- The state after what has happened since the loop began. -/
def after (past : List Happening) : AppState :=
  past.foldl (fun state happening => (state.meets happening).state) .opened

theorem after_append (past : List Happening) (happening : Happening) :
    after (past ++ [happening]) = ((after past).meets happening).state := by
  simp [after]

/-- The message is a result of a discovery. -/
def AsyncMessage.ofDiscovery : AsyncMessage → Bool
  | .discovery _ => true
  | _ => false

/-- The message is a result of the local checks. -/
def AsyncMessage.ofLocalReadiness : AsyncMessage → Bool
  | .localReadiness _ => true
  | _ => false

/-- This is the last message of its kind. -/
inductive LastHeard (kind : AsyncMessage → Bool) (message : AsyncMessage) : List Happening → Prop
  | now {past : List Happening} : LastHeard kind message (past ++ [.message message])
  | later {past : List Happening} {happening : Happening} (heard : LastHeard kind message past)
      (other : ∀ later, happening = .message later → kind later = false) :
      LastHeard kind message (past ++ [happening])

/-- The device is one to connect to: it is selected in the list, the last discovery has listed it, and
as ready, the last local check has succeeded, and nothing has cast doubt on it since. -/
structure Vetted (past : List Happening) (node : DiscoveredNode) : Prop where
  shown : (after past).overlay = none
  selected : (after past).selected = some node
  listed : ∃ nodes, node ∈ nodes ∧ LastHeard AsyncMessage.ofDiscovery (.discovery (.ok nodes)) past
  connectable : node.isConnectable = true
  checked : LastHeard AsyncMessage.ofLocalReadiness (.localReadiness (.ok ())) past
  ready : (after past).localReadiness = .ready

section Provenance

variable {past : List Happening} {state : AppState} {node : DiscoveredNode}

/-! ### Keys -/

/-- The key for connecting finds this device. -/
def AppState.Offers (state : AppState) (node : DiscoveredNode) : Prop :=
  state.overlay = none ∧ state.unavailableReason = none ∧ state.selectedRemote = some node

/-- What a key does: it leaves the devices as they are, and the local checks too unless it starts new
ones. It connects, or makes a device wait, only where that device is offered; and a device waits only
once the stream before it is closed. -/
structure Keyed (state : AppState) (answers : Answers) (key : Key) (handled : Handled) : Prop where
  nodes : handled.state.nodes = state.nodes
  readiness : handled.state.localReadiness = .ready → state.localReadiness = .ready
  begins : ∀ connection ∈ handled.connects, key = .enter ∧ state.Offers connection.1
  waits : ∀ node, handled.state.pendingNode = some node →
    state.pendingNode = some node ∨ key = .enter ∧ state.Offers node ∧ answers.closed = .ok ()

/-- A key that is about something else. -/
theorem Keyed.quiet {answers : Answers} {key : Key} {handled : Handled}
    (nodes : handled.state.nodes = state.nodes)
    (readiness : handled.state.localReadiness = .ready → state.localReadiness = .ready)
    (connects : handled.connects = []) (pending : handled.state.pendingNode = state.pendingNode) :
    Keyed state answers key handled where
  nodes := nodes
  readiness := readiness
  begins connection member := by
    rw [connects] at member
    cases member
  waits node waits := .inl (pending.symm.trans waits)

theorem keyed_handleMenuKey (selected : StreamSetting) (answers : Answers) (key : Key) :
    Keyed state answers key (handleMenuKey state selected answers key) := by
  have saved : Keyed state answers key { state := reportSaved state selected answers.saved } := by
    unfold reportSaved
    split <;> exact .quiet rfl id rfl rfl
  unfold handleMenuKey
  split <;> first
    | exact .quiet rfl id rfl rfl
    | exact saved

theorem keyed_handleOverlayKey (overlay : Overlay) (answers : Answers) (key : Key) :
    Keyed state answers key (handleOverlayKey state overlay answers key) := by
  cases overlay with
  | menu selected => exact keyed_handleMenuKey selected answers key
  | credentialsUser user | credentialsPass user pass =>
      unfold handleOverlayKey
      cases key with
      | char c | enter =>
          dsimp only
          split <;> exact .quiet rfl id rfl rfl
      | _ => exact .quiet rfl id rfl rfl
  | access =>
      dsimp only [handleOverlayKey, handleAccessKey]
      split <;> first
        | exact .quiet rfl id rfl rfl
        | split <;> exact .quiet rfl id rfl rfl

theorem keyed_handleEnter (shown : state.overlay = none) (answers : Answers) :
    Keyed state answers .enter (handleEnter state answers) := by
  unfold handleEnter
  cases reason : state.unavailableReason with
  | some text => exact .quiet rfl id rfl rfl
  | none =>
      cases chosen : state.selectedRemote with
      | none => exact .quiet rfl id rfl rfl
      | some node =>
          have offers : state.Offers node := ⟨shown, reason, chosen⟩
          dsimp only
          cases sessionAction state.activeNodeId node.tailnetNodeId with
          | focus => exact .quiet rfl id rfl rfl
          | switch =>
              dsimp only
              split
              · next closed =>
                  refine ⟨rfl, id, ?_, ?_⟩
                  · intro connection member
                    cases member
                  · intro other waits
                    obtain rfl := Option.some.inj waits
                    exact .inr ⟨rfl, offers, closed⟩
              · refine ⟨rfl, id, ?_, ?_⟩
                · intro connection member
                  cases member
                · intro other waits
                  cases waits
          | start =>
              dsimp only
              split
              · refine ⟨rfl, id, ?_, fun other waits => .inl waits⟩
                intro connection member
                obtain rfl := List.mem_singleton.mp member
                exact ⟨rfl, offers⟩
              · exact .quiet rfl id rfl rfl

/-- **What a key does.** -/
theorem keyed_handleKey (answers : Answers) (key : Key) :
    Keyed state answers key (handleKey state answers key) := by
  have next : Keyed state answers key { state := state.selectNext } := by
    unfold AppState.selectNext
    split <;> exact .quiet rfl id rfl rfl
  have previous : Keyed state answers key { state := state.selectPrevious } := by
    unfold AppState.selectPrevious
    split <;> exact .quiet rfl id rfl rfl
  unfold handleKey
  cases shown : state.overlay with
  | some overlay => exact keyed_handleOverlayKey overlay answers key
  | none =>
      dsimp only
      split
      · exact .quiet rfl id rfl rfl
      · exact .quiet rfl id rfl rfl
      · exact next
      · exact next
      · exact previous
      · exact previous
      · split
        · exact .quiet rfl id rfl rfl
        · refine .quiet rfl (fun ready => ?_) rfl rfl
          cases ready
      · exact .quiet rfl id rfl rfl
      · exact keyed_handleEnter shown answers
      · exact .quiet rfl id rfl rfl

/-! ### Messages and rounds -/

theorem nodes_applyMessage {message : AsyncMessage} (other : message.ofDiscovery = false) :
    (applyMessage state message).nodes = state.nodes := by
  cases message with
  | discovery result => cases other
  | sessionStarted generation nodeId nodeName pid =>
      unfold applyMessage
      dsimp only
      split <;> rfl
  | sessionEnded generation result localFailure =>
      unfold applyMessage
      dsimp only
      split
      · cases result <;> rfl
      · rfl
  | _ result => cases result <;> rfl

/-- Only a local check makes the interface ready. -/
theorem ready_applyMessage {message : AsyncMessage} (other : message.ofLocalReadiness = false)
    (ready : (applyMessage state message).localReadiness = .ready) : state.localReadiness = .ready := by
  cases message with
  | localReadiness result => cases other
  | sessionStarted generation nodeId nodeName pid =>
      unfold applyMessage at ready
      dsimp only at ready
      split at ready <;> exact ready
  | sessionEnded generation result localFailure =>
      unfold applyMessage at ready
      dsimp only at ready
      split at ready
      · cases localFailure with
        | false => cases result <;> exact ready
        | true => cases result <;> cases ready
      · exact ready
  | credentialStatus result | credentialStored result | discovery result =>
      cases result <;> first
        | exact ready
        | cases ready
  | _ result => cases result <;> exact ready

/-- A round only takes the device that waits. -/
theorem round_frame (expired : Bool) :
    (state.meets (.round expired)).state.nodes = state.nodes ∧
      (state.meets (.round expired)).state.localReadiness = state.localReadiness ∧
      (∀ node, (state.meets (.round expired)).state.pendingNode = some node →
        state.pendingNode = some node) ∧
      ∀ connection ∈ (state.meets (.round expired)).connects,
        state.pendingNode = some connection.1 := by
  unfold AppState.meets
  rcases @takePending_cases state with same | ⟨node, free, pending, same⟩
  · rw [same]
    cases expired <;> exact ⟨rfl, rfl, fun _ waits => waits, fun _ member => by cases member⟩
  · rw [same]
    have only : ∀ connection ∈ (startPreflight { state with pendingNode := none } node).connects,
        state.pendingNode = some connection.1 := by
      intro connection member
      obtain rfl := List.mem_singleton.mp member
      exact pending
    cases expired <;> exact ⟨rfl, rfl, fun _ waits => (by cases waits), only⟩

/-! ### What the interface knows -/

/-- **The devices are those of the last discovery.** -/
theorem nodes_after (past : List Happening) (listed : node ∈ (after past).nodes) :
    ∃ nodes, node ∈ nodes ∧ LastHeard AsyncMessage.ofDiscovery (.discovery (.ok nodes)) past := by
  induction past using List.reverseRecOn with
  | nil => cases listed
  | append_singleton past happening ih =>
      rw [after_append] at listed
      have kept (same : ((after past).meets happening).state.nodes = (after past).nodes)
          (other : ∀ later, happening = .message later → later.ofDiscovery = false) :
          ∃ nodes, node ∈ nodes ∧ LastHeard AsyncMessage.ofDiscovery (.discovery (.ok nodes))
            (past ++ [happening]) := by
        obtain ⟨nodes, member, heard⟩ := ih (same ▸ listed)
        exact ⟨nodes, member, heard.later other⟩
      cases happening with
      | key answers key => exact kept (keyed_handleKey answers key).nodes fun _ same => by cases same
      | round expired => exact kept (round_frame expired).1 fun _ same => by cases same
      | message message =>
          cases kind : message.ofDiscovery with
          | false =>
              refine kept (nodes_applyMessage kind) fun later same => ?_
              obtain rfl := Happening.message.inj same
              exact kind
          | true =>
              cases message with
              | discovery result =>
                  cases result with
                  | ok nodes => exact ⟨nodes, listed, .now⟩
                  | error error => cases listed
              | _ => cases kind

/-- **The interface is ready after a local check that succeeded.** -/
theorem ready_after (past : List Happening) (ready : (after past).localReadiness = .ready) :
    LastHeard AsyncMessage.ofLocalReadiness (.localReadiness (.ok ())) past := by
  induction past using List.reverseRecOn with
  | nil => cases ready
  | append_singleton past happening ih =>
      rw [after_append] at ready
      cases happening with
      | key answers key =>
          exact (ih ((keyed_handleKey answers key).readiness ready)).later fun _ same => by cases same
      | round expired =>
          exact (ih ((round_frame expired).2.1 ▸ ready)).later fun _ same => by cases same
      | message message =>
          cases kind : message.ofLocalReadiness with
          | false =>
              refine (ih (ready_applyMessage kind ready)).later fun later same => ?_
              obtain rfl := Happening.message.inj same
              exact kind
          | true =>
              cases message with
              | localReadiness result =>
                  cases result with
                  | ok done => exact .now
                  | error error => cases ready
              | _ => cases kind

/-- A device that is offered is vetted. -/
theorem vetted_of_offers (offers : (after past).Offers node) : Vetted past node := by
  obtain ⟨shown, available, chosen⟩ := offers
  obtain ⟨selected, connectable⟩ := Option.filter_eq_some_iff.mp chosen
  have ready : (after past).localReadiness = .ready := by
    unfold AppState.unavailableReason at available
    split at available
    · cases available
    · cases available
    · assumption
  have listed : node ∈ (after past).nodes := by
    obtain ⟨index, _, found⟩ := Option.bind_eq_some_iff.mp selected
    exact List.mem_of_getElem? found
  exact ⟨shown, selected, nodes_after past listed, connectable, ready_after past ready, ready⟩

/-! ### Where connections come from -/

/-- The key for connecting was pressed on the device, when it was vetted. -/
def Pressed (past : List Happening) (node : DiscoveredNode) (answers : Answers)
    (later : List Happening) : Prop :=
  ∃ earlier, past = earlier ++ .key answers .enter :: later ∧ Vetted earlier node

theorem Pressed.append {answers : Answers} {later : List Happening}
    (pressed : Pressed past node answers later) (happening : Happening) :
    Pressed (past ++ [happening]) node answers (later ++ [happening]) := by
  obtain ⟨earlier, rfl, vetted⟩ := pressed
  exact ⟨earlier, by simp, vetted⟩

/-- **A device that waits** was asked for, and the stream before it has been closed. -/
theorem waits_pressed (past : List Happening) (waits : (after past).pendingNode = some node) :
    ∃ answers later, Pressed past node answers later ∧ answers.closed = .ok () := by
  induction past using List.reverseRecOn with
  | nil => cases waits
  | append_singleton past happening ih =>
      rw [after_append] at waits
      have kept (same : (after past).pendingNode = some node) : ∃ answers later,
          Pressed (past ++ [happening]) node answers later ∧ answers.closed = .ok () := by
        obtain ⟨answers, later, pressed, closed⟩ := ih same
        exact ⟨answers, later ++ [happening], pressed.append happening, closed⟩
      cases happening with
      | message message => exact kept ((pendingNode_applyMessage _ message) ▸ waits)
      | round expired => exact kept ((round_frame expired).2.2.1 node waits)
      | key answers key =>
          rcases (keyed_handleKey answers key).waits node waits with same | ⟨rfl, offers, closed⟩
          · exact kept same
          · exact ⟨answers, [], ⟨past, rfl, vetted_of_offers offers⟩, closed⟩

/-- **Every connection goes back to a key.** Whatever happens to the interface, a connection it begins
is to a device on which the key for connecting was pressed while it was vetted; either just now, or
before, when the stream that was running then had been closed. -/
theorem begun_vetted (past : List Happening) (happening : Happening) (node : DiscoveredNode)
    (generation : UInt64) (begun : (node, generation) ∈ ((after past).meets happening).connects) :
    ∃ answers later, Pressed (past ++ [happening]) node answers later ∧
      (later ≠ [] → answers.closed = .ok ()) := by
  cases happening with
  | message message => cases begun
  | round expired =>
      have waits := (round_frame expired).2.2.2 _ begun
      obtain ⟨answers, later, pressed, closed⟩ := waits_pressed past waits
      exact ⟨answers, later ++ [.round expired], pressed.append _, fun _ => closed⟩
  | key answers key =>
      obtain ⟨rfl, offers⟩ := (keyed_handleKey answers key).begins _ begun
      exact ⟨answers, [], ⟨past, rfl, vetted_of_offers offers⟩, fun some => absurd rfl some⟩

end Provenance

/-- A device of the tailnet that is ready. -/
private def readyDevice : DiscoveredNode where
  tailnetNodeId := "nAttic"
  name := "attic"
  address := .v4 100 64 0 2
  status := .ready
  blockers := []
  connection := .direct
  latencyMs := none
  agentVersion := some release
  omarchyVersion := none
  capabilities := .new []
  isLocal := false

/-- The first connection of a run. -/
theorem begun_vetted_first : ∃ answers later,
    Pressed [.message (.localReadiness (.ok ())), .message (.discovery (.ok [readyDevice])),
      .key ⟨.ok (), .ok (), 0⟩ .enter] readyDevice answers later ∧ (later ≠ [] → answers.closed = .ok ()) :=
  begun_vetted [.message (.localReadiness (.ok ())), .message (.discovery (.ok [readyDevice]))]
    (.key ⟨.ok (), .ok (), 0⟩ .enter) readyDevice 1 (List.mem_singleton_self _)

/-! ### The interface and its tasks -/

/-- A connection that has been begun at some time. -/
def Begun (past : List Happening) (connection : DiscoveredNode × UInt64) : Prop :=
  ∃ before happening later, past = before ++ happening :: later ∧
    connection ∈ ((after before).meets happening).connects

theorem Begun.append {past : List Happening} {connection : DiscoveredNode × UInt64}
    (begun : Begun past connection) (happening : Happening) : Begun (past ++ [happening]) connection := by
  obtain ⟨before, other, later, rfl, member⟩ := begun
  exact ⟨before, other, later ++ [happening], by simp, member⟩

/-- The tasks of a handler are begun by it. -/
theorem begun_of_outstanding {past : List Happening} {happening : Happening} {task : Outstanding}
    (member : task ∈ ((after past).meets happening).outstanding) :
    Begun (past ++ [happening]) (task.node, task.generation) := by
  obtain ⟨connection, begun, rfl⟩ := List.mem_map.mp member
  exact ⟨past, happening, [], rfl, begun⟩

/-- **The interface with its tasks** runs through these states, and its tasks have been begun on the
way. -/
theorem exists_after_of_arrived {i : Interface} (arrived : Arrived i) :
    ∃ past, i.app = after past ∧ ∀ task ∈ i.outstanding, Begun past (task.node, task.generation) := by
  induction arrived with
  | refl => exact ⟨[], rfl, fun task member => by cases member⟩
  | tail _ turn ih =>
      obtain ⟨past, same, begun⟩ := ih
      have others (happening : Happening) {task : Outstanding}
          (known : Begun past (task.node, task.generation)) :
          Begun (past ++ [happening]) (task.node, task.generation) := known.append happening
      cases turn with
      | @started before task later pid receiving listed first =>
          refine ⟨past ++ [.message (.sessionStarted task.generation task.node.tailnetNodeId
            task.node.name pid)], by rw [after_append, ← same]; rfl, fun other member => ?_⟩
          rw [listed] at begun
          rcases List.mem_append.mp member with earlier | member
          · exact others _ (begun other (List.mem_append_left _ earlier))
          rcases List.mem_cons.mp member with rfl | later
          · exact others _ (begun task (List.mem_append_right _ List.mem_cons_self))
          · exact others _ (begun other (List.mem_append_right _ (List.mem_cons_of_mem _ later)))
      | @ended before task later result localFailure receiving listed =>
          refine ⟨past ++ [.message (.sessionEnded task.generation result localFailure)],
            by rw [after_append, ← same]; rfl, fun other member => others _ (begun other ?_)⟩
          rw [listed]
          rcases List.mem_append.mp member with earlier | later
          · exact List.mem_append_left _ earlier
          · exact List.mem_append_right _ (List.mem_cons_of_mem _ later)
      | other receiving foreign =>
          exact ⟨past ++ [.message _], by rw [after_append, ← same]; rfl,
            fun task member => others _ (begun task member)⟩
      | drained expired receiving =>
          refine ⟨past ++ [.round expired], by rw [after_append, ← same]; rfl, fun task member => ?_⟩
          rcases List.mem_append.mp member with earlier | taken
          · exact others _ (begun task earlier)
          · rw [same] at taken
            exact begun_of_outstanding taken
      | key answers key waiting stays =>
          refine ⟨past ++ [.key answers key], by rw [after_append, ← same]; rfl, fun task member => ?_⟩
          rcases List.mem_append.mp member with earlier | taken
          · exact others _ (begun task earlier)
          · rw [same] at taken
            exact begun_of_outstanding taken
      | pass waiting => exact ⟨past, same, begun⟩

end Omdesky.Tui
