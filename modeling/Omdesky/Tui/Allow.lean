/-
**Allowing a device from the terminal interface.**

* `press`, `pressKeys`: keys, and the round of the loop after each. `runs_pressKeys` is the run of
  the loop in which nothing else happens.
* `AllowsListed`: a handler keeps the devices, and allows only one of them that can be connected to.
* `Typing`: whatever is answered, keys lead to a state; `typing_select` selects any device and opens
  the allowlist.
* `allow_iff`: the key allows the selected device, and keys allow a device at all, exactly when it can
  be connected to.
* `needed_access`: the device that needs to be allowed cannot be.
-/

import Omdesky.CallbackAccess
import Omdesky.Tui.Loop

namespace Omdesky.Tui

open Application Interaction Interaction.Program Platform

/-! ### Keys one after the other -/

/-- A key, what its handler hears, and whether the message shown is over in the round that follows. -/
structure Press where
  key : Key
  answers : Answers
  expired : Bool

/-- A key and the round of the loop after it. -/
def press (state : AppState) (pressed : Press) : Handled :=
  let handled := handleKey state pressed.answers pressed.key
  if handled.quits then handled
  else
    let taken := takePending handled.state
    { state := if pressed.expired then taken.state.expireMessage else taken.state
      spawned := handled.spawned ++ taken.spawned }

/-- Keys, until one ends the loop. -/
def pressKeys (state : AppState) : List Press → Handled
  | [] => { state }
  | pressed :: rest =>
      let handled := press state pressed
      if handled.quits then handled
      else
        let after := pressKeys handled.state rest
        { after with spawned := handled.spawned ++ after.spawned }

/-- The entries that a handler starts to add to the allowlist. -/
def Handled.allowed (handled : Handled) : List AllowedController :=
  handled.spawned.filterMap fun
    | .accessAllow controller => some controller
    | _ => none

/-- The entry is for the device, with all capabilities. -/
def Admits (tailnetNodeId : String) (entry : AllowedController) : Prop :=
  entry.tailnetNodeId = tailnetNodeId ∧ entry.capabilities = ControlCapability.all

/-- The key starts an allow for the device. -/
def StartsAllow (state : AppState) (node : DiscoveredNode) : Prop :=
  ∀ answers, ∃ entry, (handleKey state answers (.char 'a')).allowed = [entry] ∧
    Admits node.tailnetNodeId entry

/-- There are keys that, whatever is answered, start an allow for the device. -/
def CanAllow (state : AppState) (tailnetNodeId : String) : Prop :=
  ∃ keys, ∀ presses : List Press, presses.map Press.key = keys →
    ∃ entry ∈ (pressKeys state presses).allowed, Admits tailnetNodeId entry

/-- A device of the list that can be connected to. -/
def Connectable (state : AppState) (tailnetNodeId : String) : Prop :=
  ∃ node ∈ state.nodes, node.tailnetNodeId = tailnetNodeId ∧ node.isConnectable = true

/-- A handler keeps the devices, and starts an allow only for one that can be connected to. -/
structure AllowsListed (state : AppState) (handled : Handled) : Prop where
  nodes : handled.state.nodes = state.nodes
  allowed : ∀ entry ∈ handled.allowed, Connectable state entry.tailnetNodeId

section Keys

variable {state : AppState}

/-! ### What keys allow -/

theorem AllowsListed.none {handled : Handled} (nodes : handled.state.nodes = state.nodes)
    (allowed : handled.allowed = []) : AllowsListed state handled where
  nodes := nodes
  allowed := by
    rw [allowed]
    exact fun entry member => absurd member List.not_mem_nil

theorem allowed_append (state : AppState) (first second : List Spawn) (quits : Bool) :
    Handled.allowed { state, spawned := first ++ second, quits } =
      Handled.allowed { state, spawned := first } ++ Handled.allowed { state, spawned := second } :=
  List.filterMap_append

theorem selectedRemote_eq_some {node : DiscoveredNode} (chosen : state.selectedRemote = some node) :
    state.selected = some node ∧ node.isConnectable = true :=
  Option.filter_eq_some_iff.mp chosen

theorem mem_nodes_of_selected {node : DiscoveredNode} (chosen : state.selected = some node) :
    node ∈ state.nodes := by
  obtain ⟨index, _, found⟩ := Option.bind_eq_some_iff.mp chosen
  exact List.mem_of_getElem? found

theorem allowsListed_handleAccessKey (answers : Answers) (key : Key) :
    AllowsListed state (handleAccessKey state answers key) := by
  unfold handleAccessKey
  split
  · exact .none rfl rfl
  · exact .none rfl rfl
  · split
    · next node chosen =>
        obtain ⟨selected, connectable⟩ := selectedRemote_eq_some chosen
        refine ⟨rfl, fun entry member => ?_⟩
        obtain rfl := List.mem_singleton.mp member
        exact ⟨node, mem_nodes_of_selected selected, rfl, connectable⟩
    · exact .none rfl rfl
  · split <;> exact .none rfl rfl
  · exact .none rfl rfl

theorem allowsListed_handleMenuKey (selected : StreamSetting) (answers : Answers) (key : Key) :
    AllowsListed state (handleMenuKey state selected answers key) := by
  have saved : AllowsListed state { state := reportSaved state selected answers.saved } := by
    unfold reportSaved
    split <;> exact .none rfl rfl
  unfold handleMenuKey
  split <;> first
    | exact .none rfl rfl
    | exact saved

theorem allowsListed_handleOverlayKey (overlay : Overlay) (answers : Answers) (key : Key) :
    AllowsListed state (handleOverlayKey state overlay answers key) := by
  unfold handleOverlayKey
  cases overlay with
  | menu selected => exact allowsListed_handleMenuKey selected answers key
  | access => exact allowsListed_handleAccessKey answers key
  | credentialsUser user | credentialsPass user pass =>
      cases key with
      | char c | enter =>
          dsimp only
          split <;> exact .none rfl rfl
      | _ => exact .none rfl rfl

theorem allowsListed_handleEnter (answers : Answers) :
    AllowsListed state (handleEnter state answers) := by
  unfold handleEnter
  split
  · exact .none rfl rfl
  · split
    · exact .none rfl rfl
    · split
      · exact .none rfl rfl
      · split <;> exact .none rfl rfl
      · split <;> exact .none rfl rfl

/-- **A key allows only a device that can be connected to.** -/
theorem allowsListed_handleKey (answers : Answers) (key : Key) :
    AllowsListed state (handleKey state answers key) := by
  have next : AllowsListed state { state := state.selectNext } := by
    unfold AppState.selectNext
    split <;> exact .none rfl rfl
  have previous : AllowsListed state { state := state.selectPrevious } := by
    unfold AppState.selectPrevious
    split <;> exact .none rfl rfl
  unfold handleKey
  split
  · exact allowsListed_handleOverlayKey _ answers key
  · split
    · exact .none rfl rfl
    · exact .none rfl rfl
    · exact next
    · exact next
    · exact previous
    · exact previous
    · split <;> exact .none rfl rfl
    · exact .none rfl rfl
    · exact allowsListed_handleEnter answers
    · exact .none rfl rfl

/-- Taking the device that waits changes nothing that a key for the allowlist looks at. -/
theorem takePending_frame : (takePending state).state.nodes = state.nodes ∧
    (takePending state).state.list = state.list ∧
    (takePending state).state.overlay = state.overlay ∧ (takePending state).allowed = [] := by
  rcases @takePending_cases state with same | ⟨node, _, _, same⟩
  · rw [same]
    exact ⟨rfl, rfl, rfl, rfl⟩
  · rw [same]
    exact ⟨rfl, rfl, rfl, rfl⟩

theorem allowed_press (pressed : Press) :
    (press state pressed).allowed = (handleKey state pressed.answers pressed.key).allowed := by
  unfold press
  dsimp only
  split
  · rfl
  · rw [allowed_append]
    exact (congrArg _ takePending_frame.2.2.2).trans (List.append_nil _)

theorem nodes_press (pressed : Press) :
    (press state pressed).state.nodes = (handleKey state pressed.answers pressed.key).state.nodes := by
  unfold press
  dsimp only
  split
  · rfl
  · split <;> exact takePending_frame.1

theorem allowsListed_press (pressed : Press) : AllowsListed state (press state pressed) where
  nodes := (nodes_press pressed).trans (allowsListed_handleKey _ _).nodes
  allowed := by
    rw [allowed_press]
    exact (allowsListed_handleKey _ _).allowed

/-- **Keys allow only devices that can be connected to.** -/
theorem allowsListed_pressKeys (presses : List Press) :
    AllowsListed state (pressKeys state presses) := by
  induction presses generalizing state with
  | nil => exact .none rfl rfl
  | cons pressed rest ih =>
      have first : AllowsListed state (press state pressed) := allowsListed_press pressed
      unfold pressKeys
      dsimp only
      split
      · exact first
      · have others := @ih (press state pressed).state
        refine ⟨others.nodes.trans first.nodes, fun entry member => ?_⟩
        rw [allowed_append] at member
        rcases List.mem_append.mp member with now | later
        · exact first.allowed entry now
        · obtain ⟨node, listed, found⟩ := others.allowed entry later
          exact ⟨node, first.nodes ▸ listed, found⟩

/-! ### Where keys lead -/

/-- What a key for the allowlist looks at. -/
structure Views (nodes : List DiscoveredNode) (list : Option Nat) (overlay : Option Overlay)
    (state : AppState) : Prop where
  nodes : state.nodes = nodes
  list : state.list = list
  overlay : state.overlay = overlay

/-- Whatever is answered, the keys keep the loop going and lead to such a state. -/
def Typing (state : AppState) (keys : List Key) (shown : AppState → Prop) : Prop :=
  ∀ presses : List Press, presses.map Press.key = keys →
    (pressKeys state presses).quits = false ∧ shown (pressKeys state presses).state

/-- While no key ends the loop, the next one begins where the first has led. -/
theorem pressKeys_cons {pressed : Press} (goes : (press state pressed).quits = false)
    (rest : List Press) : pressKeys state (pressed :: rest) =
      { pressKeys (press state pressed).state rest with
        spawned := (press state pressed).spawned ++
          (pressKeys (press state pressed).state rest).spawned } := by
  rw [pressKeys]
  exact if_neg (ne_true_of_eq_false goes)

theorem quits_press {pressed : Press} {rest : List Press}
    (stays : (pressKeys state (pressed :: rest)).quits = false) :
    (press state pressed).quits = false := by
  by_contra quits
  have ends : pressKeys state (pressed :: rest) = press state pressed := by
    rw [pressKeys]
    exact if_pos (eq_true_of_ne_false quits)
  exact quits (ends ▸ stays)

theorem pressKeys_append {first : List Press} (stays : (pressKeys state first).quits = false)
    (second : List Press) :
    (pressKeys state (first ++ second)).state =
        (pressKeys (pressKeys state first).state second).state ∧
      (pressKeys state (first ++ second)).quits =
        (pressKeys (pressKeys state first).state second).quits ∧
      (pressKeys state (first ++ second)).allowed =
        (pressKeys state first).allowed ++
          (pressKeys (pressKeys state first).state second).allowed := by
  induction first generalizing state with
  | nil => exact ⟨rfl, rfl, rfl⟩
  | cons pressed rest ih =>
      have goes := quits_press stays
      rw [pressKeys_cons goes] at stays
      obtain ⟨same, ends, allowed⟩ := ih stays
      rw [List.cons_append, pressKeys_cons goes, pressKeys_cons goes]
      refine ⟨same, ends, ?_⟩
      rw [allowed_append, allowed_append]
      exact (congrArg _ allowed).trans (List.append_assoc _ _ _).symm

theorem typing_nil {shown : AppState → Prop} (now : shown state) : Typing state [] shown := by
  intro presses keys
  obtain rfl := List.map_eq_nil_iff.mp keys
  exact ⟨rfl, now⟩

theorem Typing.append {first second : List Key} {before after : AppState → Prop}
    (leads : Typing state first before)
    (goesOn : ∀ between, before between → Typing between second after) :
    Typing state (first ++ second) after := by
  intro presses keys
  obtain ⟨early, late, rfl, earlier, later⟩ := List.map_eq_append_iff.mp keys
  obtain ⟨stays, shown⟩ := leads early earlier
  obtain ⟨same, ends, _⟩ := pressKeys_append stays late
  rw [same, ends]
  exact goesOn _ shown late later

/-- One key. -/
theorem typing_key {key : Key} {nodes : List DiscoveredNode} {list : Option Nat}
    {overlay : Option Overlay}
    (handles : ∀ answers, (handleKey state answers key).quits = false ∧
      Views nodes list overlay (handleKey state answers key).state) :
    Typing state [key] (Views nodes list overlay) := by
  intro presses keys
  obtain ⟨pressed, _, rfl, rfl, none⟩ := List.map_eq_cons_iff.mp keys
  obtain rfl := List.map_eq_nil_iff.mp none
  obtain ⟨stays, views⟩ := handles pressed.answers
  obtain ⟨sameNodes, sameList, sameOverlay, _⟩ :=
    @takePending_frame (handleKey state pressed.answers pressed.key).state
  have goes : ¬ (handleKey state pressed.answers pressed.key).quits = true := by rw [stays]; nofun
  have shown : Views nodes list overlay (press state pressed).state := by
    unfold press
    dsimp only
    rw [if_neg goes]
    constructor
    · exact (apply_ite AppState.nodes _ _ _).trans ((ite_self _).trans (sameNodes.trans views.nodes))
    · exact (apply_ite AppState.list _ _ _).trans ((ite_self _).trans (sameList.trans views.list))
    · exact (apply_ite AppState.overlay _ _ _).trans
        ((ite_self _).trans (sameOverlay.trans views.overlay))
  have ends : (press state pressed).quits = false := by
    unfold press
    dsimp only
    rw [if_neg goes]
  unfold pressKeys
  dsimp only
  rw [ends]
  exact ⟨rfl, shown⟩

/-! ### The way to a device -/

variable {nodes : List DiscoveredNode} {list : Option Nat}

/-- Escape closes whatever is open. -/
theorem typing_esc (overlay : Option Overlay) (views : Views nodes list overlay state) :
    ∃ keys, Typing state keys (Views nodes list none) := by
  have menu (between : AppState) (selected : StreamSetting)
      (views : Views nodes list (some (.menu selected)) between) :
      Typing between [.esc] (Views nodes list none) := by
    refine typing_key fun answers => ?_
    rw [handleKey, views.overlay]
    exact ⟨rfl, views.nodes, views.list, rfl⟩
  have back (leaves : ∀ answers, (handleKey state answers .esc).quits = false ∧
      Views nodes list (some (.menu .resolution)) (handleKey state answers .esc).state) :
      Typing state ([.esc] ++ [.esc]) (Views nodes list none) :=
    (typing_key leaves).append fun between shown => menu between _ shown
  cases overlay with
  | none => exact ⟨[], typing_nil views⟩
  | some overlay =>
      cases overlay with
      | menu selected => exact ⟨[.esc], menu state selected views⟩
      | credentialsUser user | credentialsPass user pass | access =>
          refine ⟨_, back fun answers => ?_⟩
          rw [handleKey, views.overlay]
          exact ⟨rfl, views.nodes, views.list, rfl⟩

/-- The keys for the settings and their allowlist. -/
theorem typing_open (views : Views nodes list none state) :
    Typing state ([.char 's'] ++ [.char 'a']) (Views nodes list (some .access)) := by
  have settings : Typing state [.char 's'] (Views nodes list (some (.menu .display))) := by
    refine typing_key fun answers => ?_
    rw [handleKey, views.overlay]
    exact ⟨rfl, views.nodes, views.list, rfl⟩
  refine settings.append fun between shown => typing_key fun answers => ?_
  unfold handleKey
  rw [shown.overlay]
  exact ⟨rfl, shown.nodes, shown.list, rfl⟩

/-- The key for the next device. -/
theorem typing_next (filled : nodes ≠ []) (views : Views nodes list none state) :
    Typing state [.char 'j']
      (Views nodes (some (list.elim 0 fun index => (index + 1) % nodes.length)) none) := by
  refine typing_key fun answers => ?_
  have listed : ¬ state.nodes.isEmpty = true := by
    rw [views.nodes, List.isEmpty_iff]
    exact filled
  rw [handleKey, views.overlay]
  dsimp only
  rw [AppState.selectNext, if_neg listed, views.nodes, views.list]
  exact ⟨rfl, rfl, rfl, views.overlay⟩

/-- The key for the next device, `count` times. -/
theorem typing_down {index : Nat} (within : index < nodes.length) (count : Nat)
    (views : Views nodes (some index) none state) :
    Typing state (List.replicate count (.char 'j'))
      (Views nodes (some ((index + count) % nodes.length)) none) := by
  have filled : nodes ≠ [] := List.ne_nil_of_length_pos (Nat.zero_lt_of_lt within)
  induction count with
  | zero =>
      rw [Nat.add_zero, Nat.mod_eq_of_lt within]
      exact typing_nil views
  | succ count ih =>
      rw [List.replicate_succ']
      refine ih.append fun between shown => ?_
      have next := typing_next filled shown
      rw [Option.elim_some, Nat.mod_add_mod] at next
      exact next

/-- **Keys select any device**, and open the allowlist on it. -/
theorem typing_select {index : Nat} (within : index < state.nodes.length) :
    ∃ keys, Typing state keys (Views state.nodes (some index) (some .access)) := by
  have filled : state.nodes ≠ [] := List.ne_nil_of_length_pos (Nat.zero_lt_of_lt within)
  obtain ⟨closes, closed⟩ := typing_esc state.overlay ⟨rfl, rfl, rfl⟩
  -- the first step down finds the list within its bounds, the others reach the device
  obtain ⟨start, bound, found⟩ : ∃ start, start < state.nodes.length ∧
      state.list.elim 0 (fun index => (index + 1) % state.nodes.length) = start := by
    refine ⟨_, ?_, rfl⟩
    cases state.list with
    | none => exact Nat.zero_lt_of_lt within
    | some index => exact Nat.mod_lt _ (Nat.zero_lt_of_lt within)
  have around : (start + (state.nodes.length - start + index)) % state.nodes.length = index := by
    rw [← Nat.add_assoc, Nat.add_sub_cancel' bound.le, Nat.add_mod_left, Nat.mod_eq_of_lt within]
  refine ⟨closes ++ ([.char 'j'] ++ (List.replicate (state.nodes.length - start + index)
    (.char 'j') ++ ([.char 's'] ++ [.char 'a']))), ?_⟩
  refine closed.append fun shut views => ?_
  have first := typing_next filled views
  rw [found] at first
  refine first.append fun normal views => ?_
  have down := typing_down bound (state.nodes.length - start + index) views
  rw [around] at down
  exact down.append fun chosen views => typing_open views

/-! ### What can be allowed -/

/-- **The key for allowing** acts on the selected device exactly when it can be connected to. -/
theorem startsAllow_iff {node : DiscoveredNode} (shown : state.overlay = some .access)
    (chosen : state.selected = some node) :
    StartsAllow state node ↔ node.isConnectable = true := by
  have handles (answers : Answers) :
      handleKey state answers (.char 'a') = handleAccessKey state answers (.char 'a') := by
    unfold handleKey
    rw [shown]
    rfl
  by_cases connectable : node.isConnectable = true
  · have remote : state.selectedRemote = some node := by
      rw [AppState.selectedRemote, chosen]
      exact Option.filter_some_pos connectable
    refine iff_of_true (fun answers => ?_) connectable
    rw [handles]
    unfold handleAccessKey
    rw [remote]
    exact ⟨_, rfl, rfl, rfl⟩
  · have remote : state.selectedRemote = none := by
      rw [AppState.selectedRemote, chosen]
      exact Option.filter_some_neg (eq_false_of_ne_true connectable)
    refine iff_of_false (fun starts => ?_) connectable
    obtain ⟨entry, started, _⟩ := starts ⟨.ok (), .ok (), 0⟩
    rw [handles] at started
    unfold handleAccessKey at started
    rw [remote] at started
    cases started

/-- **Keys can allow a device** exactly when it is listed as one that can be connected to. -/
theorem canAllow_iff {tailnetNodeId : String} :
    CanAllow state tailnetNodeId ↔ Connectable state tailnetNodeId := by
  constructor
  · rintro ⟨keys, allows⟩
    obtain ⟨entry, allowed, same, _⟩ := allows
      (keys.map fun key => ⟨key, ⟨.ok (), .ok (), 0⟩, false⟩) (by simp [Function.comp_def])
    exact same ▸ (allowsListed_pressKeys _).allowed entry allowed
  · rintro ⟨node, member, same, connectable⟩
    obtain ⟨index, within, found⟩ := List.getElem_of_mem member
    obtain ⟨keys, leads⟩ := typing_select within
    refine ⟨keys ++ [.char 'a'], fun presses typed => ?_⟩
    obtain ⟨early, late, rfl, earlier, later⟩ := List.map_eq_append_iff.mp typed
    obtain ⟨pressed, _, rfl, pressedKey, none⟩ := List.map_eq_cons_iff.mp later
    obtain rfl := List.map_eq_nil_iff.mp none
    obtain ⟨stays, views⟩ := leads early earlier
    have chosen : (pressKeys state early).state.selected = some node := by
      rw [AppState.selected, views.list, views.nodes]
      exact List.getElem?_eq_some_iff.mpr ⟨within, found⟩
    obtain ⟨entry, started, admits⟩ :=
      (startsAllow_iff views.overlay chosen).mpr connectable pressed.answers
    refine ⟨entry, ?_, same ▸ admits⟩
    obtain ⟨_, _, allowed⟩ := pressKeys_append stays [pressed]
    rw [allowed]
    refine List.mem_append_right _ ?_
    have now : entry ∈ (press (pressKeys state early).state pressed).allowed := by
      rw [allowed_press, pressedKey, started]
      exact List.mem_cons_self
    rw [pressKeys]
    dsimp only
    split
    · exact now
    · rw [allowed_append]
      exact List.mem_append_left _ now

end Keys

/-- **What the discovery finds to need the access of this computer** cannot be connected to. -/
theorem not_connectable_of_needsAccess {agentPort : UInt16} {peer : MeshPeer} {isLocal : Bool}
    {context : DiscoveryContext} {trace : List DiscoveryEvent} {node : DiscoveredNode}
    (run : Traces (probe agentPort peer isLocal context) trace (some node))
    (needs : NeedsAccess node) : ¬ node.isConnectable = true := by
  obtain ⟨blocker, listed, _⟩ := needs
  have blocked := (probe_blocked_iff run).mpr (List.ne_nil_of_mem listed)
  simp [DiscoveredNode.isConnectable, blocked]

/-! ### Keys in the loop -/

/-- **Keys and the loop.** While nothing else happens, keys take the interface where `pressKeys`
says. -/
theorem runs_pressKeys {services : Services} {t : Terminal} (waiting : t.receiving = false)
    (empty : t.queue = []) (presses : List Press) (stays : (pressKeys t.app presses).quits = false) :
    ∃ tasks, Relation.ReflTransGen (Step services) t
      { t with app := (pressKeys t.app presses).state, tasks } := by
  induction presses generalizing t with
  | nil => exact ⟨t.tasks, .refl⟩
  | cons pressed rest ih =>
      have goes := quits_press stays
      rw [pressKeys_cons goes] at stays ⊢
      have continues : (handleKey t.app pressed.answers pressed.key).quits = false := by
        by_contra quits
        have ends : press t.app pressed = handleKey t.app pressed.answers pressed.key :=
          if_pos (eq_true_of_ne_false quits)
        exact quits (ends ▸ goes)
      have typed : Step services t _ :=
        .key .default 1 pressed.answers pressed.key waiting continues
      have round := Relation.ReflTransGen.tail (.single typed)
        (.drained .default 1 pressed.expired rfl empty)
      have shown : (if pressed.expired then
          (takePending (handleKey t.app pressed.answers pressed.key).state).state.expireMessage
          else (takePending (handleKey t.app pressed.answers pressed.key).state).state) =
            (press t.app pressed).state := by
        unfold press
        dsimp only
        rw [if_neg (ne_true_of_eq_false continues)]
      rw [shown] at round
      obtain ⟨tasks, others⟩ := ih (t := { t with
        app := (press t.app pressed).state, receiving := false, tasks := _ }) rfl empty stays
      exact ⟨tasks, waiting ▸ round.trans others⟩

/-! ### The device that needs it -/

/-- A computer of the tailnet, as Tailscale lists it. -/
private def denPeer : MeshPeer where
  tailnetNodeId := "den"
  dnsName := none
  hostname := some "den"
  ips := [.v4 100 64 0 3]
  online := true
  connection := .direct
  latencyMs := none

/-- What its agent says of it. -/
private def denInfo : NodeInfoResponse := ⟨"den", "den", "4.0", release, []⟩

/-- It, once its agent has answered for its health. -/
private def denPlain : DiscoveredNode :=
  (DiscoveredNode.fromPeer denPeer (probeName denPeer) (.v4 100 64 0 3) false).withHealth
    ⟨"ok", protocol, release⟩ (measuredLatencyMs 0 false)

/-- What this computer, which allows nobody, is to the discovery. -/
private def deskContext : DiscoveryContext := .gather ⟨"desk", none, some "desk", []⟩ (.ok []) false

/-- What the discovery lists it as. -/
private def blockedDen : DiscoveredNode :=
  (denPlain.withBlockers (probeBlockers (.ok denInfo) release deskContext denPlain)).withInfo
    (some denInfo)

/-- The interface once this computer is ready and `blockedDen` is listed. -/
private def denListed : AppState :=
  applyMessage (applyMessage .opened (.localReadiness (.ok ()))) (.discovery (.ok [blockedDen]))

/-- The keys for the settings and their allowlist. -/
private def opening : List Press :=
  [⟨.char 's', ⟨.ok (), .ok (), 0⟩, false⟩, ⟨.char 'a', ⟨.ok (), .ok (), 0⟩, false⟩]

/-- What stands in its way. -/
private def denBlocker : NodeBlocker := ⟨.needsAccess, .local, allowCommand "den"⟩

private theorem blockers_blockedDen : blockedDen.blockers = [denBlocker] := by decide

private theorem reached_opening (services : Services) : ∃ tasks, Reached services .bare
    { Terminal.opened .bare with
      app := (pressKeys denListed opening).state, receiving := false, tasks } := by
  have told : Reached services .bare { Terminal.opened .bare with
      queue := [.localReadiness (.ok ()), .discovery (.ok [blockedDen])] } :=
    (Relation.ReflTransGen.refl.tail (.other rfl (by decide))).tail (.other rfl (by decide))
  have heard : Reached services .bare { Terminal.opened .bare with app := denListed } :=
    (Relation.ReflTransGen.tail told (.receive rfl rfl)).tail (.receive rfl rfl)
  have waits : Reached services .bare { Terminal.opened .bare with
      app := denListed, receiving := false } :=
    Relation.ReflTransGen.tail heard (.drained .default 1 false rfl rfl)
  obtain ⟨tasks, typed⟩ := @runs_pressKeys services { Terminal.opened .bare with
    app := denListed, receiving := false } rfl rfl opening rfl
  exact ⟨tasks, Relation.ReflTransGen.trans waits typed⟩

/-- The same computer, once it needs nothing. -/
private def readyDen : DiscoveredNode := denPlain.withBlockers []

/-- **The interface allows a device** exactly when it can be connected to, whatever has led to its
state: with the key, where the device is selected in the open allowlist, and with any keys, where it
is listed. -/
theorem allow_iff (state : AppState) :
    (∀ node, state.overlay = some .access → state.selected = some node → node.isLocal = false →
      (StartsAllow state node ↔ node.isConnectable = true)) ∧
    ∀ tailnetNodeId, CanAllow state tailnetNodeId ↔ Connectable state tailnetNodeId :=
  ⟨fun _ shown chosen _ => startsAllow_iff shown chosen, fun _ => canAllow_iff⟩

/-- The allowlist is open on a device that is ready. -/
theorem allow_iff_ready :
    StartsAllow { AppState.new with nodes := [readyDen], list := some 0, overlay := some .access }
      readyDen ∧
    CanAllow { AppState.new with nodes := [readyDen], list := some 0, overlay := some .access } "den" :=
  ⟨((allow_iff _).1 readyDen rfl rfl rfl).mpr rfl,
    ((allow_iff _).2 "den").mpr ⟨readyDen, List.mem_cons_self, rfl, rfl⟩⟩

/-- **A device that only needs the access of this computer** is found, listed and selected, and
neither the key nor any others allow it. -/
theorem needed_access : ∃ services desktop t trace node, Reached services desktop t ∧
    Traces (probe 47900 denPeer false deskContext) trace (some node) ∧
    t.app.overlay = some .access ∧ t.app.selected = some node ∧ node.isLocal = false ∧
    node.blockers = [⟨.needsAccess, .local, allowCommand node.name⟩] ∧
    t.app.unavailableReason =
      some (blockerMessage node.name ⟨.needsAccess, .local, allowCommand node.name⟩) ∧
    ¬ StartsAllow t.app node ∧ ¬ CanAllow t.app node.tailnetNodeId := by
  have compatible : (ensureCompatibleAgent ⟨"ok", protocol, release⟩).isOk = true :=
    ensureCompatibleAgent_isOk.mpr ⟨rfl, by decide⟩
  obtain ⟨tasks, reached⟩ := reached_opening ⟨47900, "desk", false⟩
  have probed : Traces (probe 47900 denPeer false deskContext) _ (some blockedDen) :=
    probe_asks rfl rfl compatible 0 0 rfl (.ok denInfo)
  have needs : NeedsAccess blockedDen := ⟨denBlocker, by simp [blockers_blockedDen], rfl⟩
  have blocked := not_connectable_of_needsAccess probed needs
  have shown : (pressKeys denListed opening).state.overlay = some .access := rfl
  have chosen : (pressKeys denListed opening).state.selected = some blockedDen := rfl
  refine ⟨_, _, _, _, blockedDen, reached, probed, shown, chosen, rfl, blockers_blockedDen, ?_, ?_, ?_⟩
  · rfl
  · exact fun starts => blocked ((startsAllow_iff shown chosen).mp starts)
  · intro can
    obtain ⟨node, listed, _, connectable⟩ := canAllow_iff.mp can
    obtain rfl := List.mem_singleton.mp listed
    exact blocked connectable

end Omdesky.Tui
