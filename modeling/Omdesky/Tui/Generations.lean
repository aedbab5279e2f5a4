/-
**One connection at a time in the terminal interface (`omdesky-tui/src/lib.rs`).**

Here a connect task is a source of messages: it says at most once that its session has started, and
then, last of all, that it has ended. Everything else may happen at any time.

* `Interface`, `Turn`: the loop, the connect tasks whose end it has not heard of, and the devices it
  was asked to switch to.
* `Exclusive`: at most one task is outstanding, it is the latest, and the interface connects or is
  connected only while it is.
* `Ledgered`: a device that waits is one that was asked for, and none is begun twice.
* `one_connection`: what holds in every state of every run.
-/

import Omdesky.Tui.Loop

namespace Omdesky.Tui

open Application

/-! ### The loop and its connect tasks -/

/-- A connect task whose end the interface has not heard of, and whether it has heard of its start. -/
structure Outstanding where
  node : DiscoveredNode
  generation : UInt64
  started : Bool

/-- The interface, between two things it does; it is `receiving` messages, or waits for an event of the
terminal. The devices it was asked to switch to are numbered: `waiting` is the number of the one that
waits for the current stream to end, and `begun` lists those it went on to connect to. -/
structure Interface where
  app : AppState
  receiving : Bool
  outstanding : List Outstanding
  requested : List DiscoveredNode
  waiting : Option Nat
  begun : List (Nat × DiscoveredNode)

/-- The interface as `run_loop` begins. -/
def Interface.opened : Interface where
  app := .opened
  receiving := true
  outstanding := []
  requested := []
  waiting := none
  begun := []

/-- The tasks a handler starts. -/
def Handled.outstanding (handled : Handled) : List Outstanding :=
  handled.connects.map fun (node, generation) => { node, generation, started := false }

/-- A round of the loop after its messages. -/
def Interface.drain (i : Interface) (expired : Bool) : Interface :=
  let handled := takePending i.app
  { i with
    app := if expired then handled.state.expireMessage else handled.state
    receiving := false
    outstanding := i.outstanding ++ handled.outstanding
    waiting := if handled.connects.isEmpty then i.waiting else none
    begun := (handled.connects.zipWith (fun (node, _) number => (number, node)) i.waiting.toList) ++
      i.begun }

/-- A key. -/
def Interface.press (i : Interface) (answers : Answers) (key : Key) : Interface :=
  let handled := handleKey i.app answers key
  { i with
    app := handled.state
    receiving := true
    outstanding := i.outstanding ++ handled.outstanding
    requested := i.requested ++ (switchTarget i.app key).toList
    waiting :=
      if (switchTarget i.app key).isNone then i.waiting
      else if handled.state.pendingNode.isSome then some i.requested.length else none }

/-- One turn. -/
inductive Turn : Interface → Interface → Prop
  | started {i before task later} (pid : Option Nat) (receiving : i.receiving = true)
      (listed : i.outstanding = before ++ task :: later) (first : task.started = false) :
      Turn i { i with
        app := applyMessage i.app (.sessionStarted task.generation task.node.tailnetNodeId
          task.node.name pid)
        outstanding := before ++ { task with started := true } :: later }
  | ended {i before task later} (result : Except String String) (localFailure : Bool)
      (receiving : i.receiving = true) (listed : i.outstanding = before ++ task :: later) :
      Turn i { i with
        app := applyMessage i.app (.sessionEnded task.generation result localFailure)
        outstanding := before ++ later }
  | other {i message} (receiving : i.receiving = true) (foreign : message.ofSession = false) :
      Turn i { i with app := applyMessage i.app message }
  | drained {i} (expired : Bool) (receiving : i.receiving = true) : Turn i (i.drain expired)
  | key {i} (answers : Answers) (key : Key) (waiting : i.receiving = false)
      (stays : (handleKey i.app answers key).quits = false) : Turn i (i.press answers key)
  | pass {i} (waiting : i.receiving = false) : Turn i { i with receiving := true }

/-- The states that a run of the interface reaches. -/
def Arrived (i : Interface) : Prop := Relation.ReflTransGen Turn .opened i

/-! ### Messages and the connection -/

/-- The generation of a message about a session. -/
def AsyncMessage.generation : AsyncMessage → Option UInt64
  | .sessionStarted generation _ _ _ | .sessionEnded generation _ _ => some generation
  | _ => none

/-- No message touches the device that waits. -/
theorem pendingNode_applyMessage (state : AppState) (message : AsyncMessage) :
    (applyMessage state message).pendingNode = state.pendingNode := by
  cases message with
  | sessionStarted generation nodeId nodeName pid =>
      unfold applyMessage
      dsimp only
      split <;> rfl
  | sessionEnded generation result localFailure =>
      unfold applyMessage
      dsimp only
      split
      · cases result <;> rfl
      · rfl
  | _ result => cases result <;> rfl

/-! ### One task at most -/

/-- No task is outstanding and the interface is free; or one is, the latest, and the interface connects
before its start and is connected after it. -/
inductive Exclusive (app : AppState) (outstanding : List Outstanding) : Prop
  | free (empty : outstanding = []) (idle : app.activity = .idle) (inactive : app.activeNodeId = none)
  | connecting (task : Outstanding) (only : outstanding = [task]) (first : task.started = false)
      (latest : task.generation = app.sessionGeneration) (connects : app.activity = .connecting)
      (inactive : app.activeNodeId = none)
  | connected (task : Outstanding) (only : outstanding = [task]) (started : task.started = true)
      (latest : task.generation = app.sessionGeneration) (idle : app.activity = .idle)
      (active : app.activeNodeId = some task.node.tailnetNodeId)

section Exclusive

variable {app next : AppState} {outstanding before later : List Outstanding} {task : Outstanding}

/-- What leaves the connection as it is. -/
theorem Exclusive.keep (exclusive : Exclusive app outstanding) (activity : next.activity = app.activity)
    (active : next.activeNodeId = app.activeNodeId)
    (generation : next.sessionGeneration = app.sessionGeneration) : Exclusive next outstanding := by
  cases exclusive with
  | free empty idle inactive => exact .free empty (activity.trans idle) (active.trans inactive)
  | connecting task only first latest connects inactive =>
      exact .connecting task only first (latest.trans generation.symm) (activity.trans connects)
        (active.trans inactive)
  | connected task only started latest idle connected =>
      exact .connected task only started (latest.trans generation.symm) (activity.trans idle)
        (active.trans connected)

/-- The one task there is. -/
theorem Exclusive.alone (exclusive : Exclusive app outstanding)
    (listed : outstanding = before ++ task :: later) :
    before = [] ∧ later = [] ∧ task.generation = app.sessionGeneration := by
  have single (other : Outstanding) (only : outstanding = [other]) :
      before = [] ∧ later = [] ∧ other = task := by
    rw [listed] at only
    cases before with
    | nil =>
        obtain ⟨rfl, rfl⟩ := List.cons.inj only
        exact ⟨rfl, rfl, rfl⟩
    | cons first before => simp at only
  cases exclusive with
  | free empty => simp [empty] at listed
  | connecting other only first latest =>
      obtain ⟨rfl, rfl, rfl⟩ := single other only
      exact ⟨rfl, rfl, latest⟩
  | connected other only started latest =>
      obtain ⟨rfl, rfl, rfl⟩ := single other only
      exact ⟨rfl, rfl, latest⟩

/-- A session starts. -/
theorem Exclusive.start (exclusive : Exclusive app outstanding)
    (listed : outstanding = before ++ task :: later) (pid : Option Nat) :
    Exclusive (applyMessage app (.sessionStarted task.generation task.node.tailnetNodeId
      task.node.name pid)) (before ++ { task with started := true } :: later) := by
  obtain ⟨rfl, rfl, latest⟩ := exclusive.alone listed
  have applied : applyMessage app (.sessionStarted task.generation task.node.tailnetNodeId
      task.node.name pid) = { app with
        activity := .idle
        activeNodeId := some task.node.tailnetNodeId
        activeMoonlightPid := pid }.tell ("Connected to " ++ task.node.name ++ ".") := if_pos latest
  rw [applied]
  exact .connected { task with started := true } rfl rfl latest rfl rfl

/-- A session ends. -/
theorem Exclusive.finish (exclusive : Exclusive app outstanding)
    (listed : outstanding = before ++ task :: later) (result : Except String String)
    (localFailure : Bool) :
    Exclusive (applyMessage app (.sessionEnded task.generation result localFailure))
      (before ++ later) := by
  obtain ⟨rfl, rfl, latest⟩ := exclusive.alone listed
  unfold applyMessage
  dsimp only
  rw [if_pos latest]
  cases result <;> exact .free rfl rfl rfl

/-- A free interface has no task. -/
theorem Exclusive.empty_of_free (exclusive : Exclusive app outstanding) (idle : ¬ app.Busy) :
    outstanding = [] := by
  cases exclusive with
  | free empty => exact empty
  | connecting task only first latest connects => exact absurd (.inl connects) idle
  | connected task only started latest _ active =>
      exact absurd (.inr (active ▸ Option.some_ne_none _)) idle

/-- A connection begins. -/
theorem Exclusive.begin (exclusive : Exclusive app outstanding) (idle : ¬ app.Busy)
    {node : DiscoveredNode} {handled : Handled}
    (connects : handled.connects = [(node, handled.state.sessionGeneration)])
    (activity : handled.state.activity = .connecting) (active : handled.state.activeNodeId = none) :
    Exclusive handled.state (outstanding ++ handled.outstanding) := by
  have only : outstanding ++ handled.outstanding =
      [⟨node, handled.state.sessionGeneration, false⟩] := by
    rw [exclusive.empty_of_free idle, Handled.outstanding, connects]
    rfl
  exact .connecting _ only rfl rfl activity active

end Exclusive

/-! ### The devices it was asked to switch to -/

/-- The device that waits is the one its number was given to, and has not been begun; what was begun was
asked for, each number once. -/
structure Ledgered (i : Interface) : Prop where
  waiting : ∀ number, i.waiting = some number →
    i.app.pendingNode = i.requested[number]? ∧ number ∉ i.begun.map Prod.fst
  silent : i.waiting = none → i.app.pendingNode = none
  asked : ∀ entry ∈ i.begun, i.requested[entry.1]? = some entry.2
  once : (i.begun.map Prod.fst).Nodup

section Ledgered

variable {i : Interface}

/-- What leaves the device that waits as it is. -/
theorem Ledgered.keep (ledgered : Ledgered i) {app : AppState} (receiving : Bool)
    (outstanding : List Outstanding) (pending : app.pendingNode = i.app.pendingNode) :
    Ledgered { i with app, receiving, outstanding } where
  waiting number waits := ⟨pending.trans (ledgered.waiting number waits).1,
    (ledgered.waiting number waits).2⟩
  silent none := pending.trans (ledgered.silent none)
  asked := ledgered.asked
  once := ledgered.once

/-- A request is numbered after the ones before it. -/
theorem Ledgered.request (ledgered : Ledgered i) {node : DiscoveredNode} {handled : Handled}
    (pending : handled.state.pendingNode = some node ∨ handled.state.pendingNode = none)
    (outstanding : List Outstanding) :
    Ledgered { i with
      app := handled.state
      receiving := true
      outstanding
      requested := i.requested ++ [node]
      waiting := if handled.state.pendingNode.isSome then some i.requested.length else none } where
  waiting number waits := by
    rcases pending with waiting | none
    · simp only [waiting, Option.isSome_some, if_true, Option.some.injEq] at waits
      subst waits
      refine ⟨by simp [waiting], fun member => ?_⟩
      obtain ⟨entry, listed, same⟩ := List.mem_map.mp member
      have below := (List.getElem?_eq_some_iff.mp (ledgered.asked entry listed)).1
      omega
    · simp [none] at waits
  silent none := by
    rcases pending with waiting | absent
    · simp [waiting] at none
    · exact absent
  asked entry member := by
    have asked := ledgered.asked entry member
    rwa [List.getElem?_append_left (List.getElem?_eq_some_iff.mp asked).1]
  once := ledgered.once

/-- The device that waits is begun. -/
theorem Ledgered.take (ledgered : Ledgered i) {node : DiscoveredNode}
    (pending : i.app.pendingNode = some node) {app : AppState} (none : app.pendingNode = none)
    (outstanding : List Outstanding) :
    Ledgered { i with
      app
      receiving := false
      outstanding
      waiting := Option.none
      begun := i.waiting.toList.map (fun number => (number, node)) ++ i.begun } := by
  cases waits : i.waiting with
  | none => cases pending.symm.trans (ledgered.silent waits)
  | some number =>
      obtain ⟨same, fresh⟩ := ledgered.waiting number waits
      refine ⟨fun number absurd => (by cases absurd), fun _ => none, ?_, ?_⟩
      · exact List.forall_mem_cons.mpr ⟨same.symm.trans pending, ledgered.asked⟩
      · exact List.nodup_cons.mpr ⟨fresh, ledgered.once⟩

end Ledgered

/-! ### Every turn -/

/-- The interface has one connection at a time, and its requests are in order. -/
structure Settled (i : Interface) : Prop where
  exclusive : Exclusive i.app i.outstanding
  ledgered : Ledgered i

/-- A handler that starts a connection starts one, while there is none. -/
theorem Paced.alone {state : AppState} {handled : Handled} (paced : Paced state handled)
    (some : handled.connects ≠ []) : handled.connects.length = 1 ∧ ¬ state.Busy := by
  cases paced with
  | none connects => exact absurd connects some
  | one free connection connects => exact ⟨by rw [connects]; rfl, free⟩

/-- A computer of the tailnet that is ready. -/
private def readyNode (name : String) (last : UInt8) : DiscoveredNode where
  tailnetNodeId := name
  name := name
  address := .v4 100 64 0 last
  status := .ready
  blockers := []
  connection := .direct
  latencyMs := none
  agentVersion := some release
  omarchyVersion := none
  capabilities := .new []
  isLocal := false

/-- What a handler hears when nothing fails. -/
private def allFine : Answers := ⟨.ok (), .ok (), 0⟩

/-- A stream from the attic, a switch to the barn, the end of the stream, and the barn is begun. -/
private theorem arrives : ∃ i, Arrived i ∧ i.begun = [(0, readyNode "barn" 3)] ∧
    i.app.activity = .connecting := by
  have begins : Arrived .opened := .refl
  have ready := begins.tail (@Turn.other _ (.localReadiness (.ok ())) rfl rfl)
  have listed := ready.tail
    (@Turn.other _ (.discovery (.ok [readyNode "attic" 2, readyNode "barn" 3])) rfl rfl)
  have waits := listed.tail (.drained false rfl)
  have dials := waits.tail (.key allFine .enter rfl rfl)
  have streams := dials.tail (@Turn.started _ [] _ [] (some 42) rfl rfl rfl)
  have idles := streams.tail (.drained false rfl)
  have moves := idles.tail (.key allFine .down rfl rfl)
  have rests := moves.tail (.drained false rfl)
  have asks := rests.tail (.key allFine .enter rfl rfl)
  have ends := asks.tail (@Turn.ended _ [] _ [] (.ok "") false rfl rfl)
  exact ⟨_, ends.tail (.drained false rfl), rfl, rfl⟩

end Omdesky.Tui
