/-
**The signals that follow-focus listens to (`omdesky-platform/src/display.rs`).**

* `EventSocket`: the event socket of Hyprland, by what it answers.
* `FocusTask`, `FocusState.step`: the task of `spawn_focus_signals`, from one wait to the next.
* `stateAt`: the task after some steps, while the receiver of the signals is open or closed.
* `step_forwarding`: what is read of the socket ends with what the socket ends with.
* `goesOn_iff`: **the signals never dry up, unless the socket ends cleanly.**
-/

import Mathlib.Logic.Function.Iterate
import Omdesky.Core

namespace Omdesky.Platform

/-! ### The event socket -/

/-- How the stream of the socket ends. -/
inductive StreamEnd
  | failed (error : String)
  | invalidUtf8
  | closed
  deriving DecidableEq, Repr

/-- What the last `next_line` returns. -/
def StreamEnd.result : StreamEnd → Except String (Option String)
  | .failed error => .error error
  | .invalidUtf8 => .error "stream did not contain valid UTF-8"
  | .closed => .ok none

/-- The event socket: it refuses the connection, or gives some lines and ends. -/
structure EventSocket where
  refusal : Option String
  lines : List String
  ending : StreamEnd
  deriving DecidableEq, Repr

namespace EventSocket

/-- `UnixStream::connect`. -/
def connect (socket : EventSocket) : Except String Unit :=
  match socket.refusal with
  | some error => .error error
  | none => .ok ()

/-- `lines.next_line`. -/
def nextLine (socket : EventSocket) : Except String (Option String) × EventSocket :=
  match socket.lines with
  | line :: rest => (.ok (some line), { socket with lines := rest })
  | [] => (socket.ending.result, socket)

end EventSocket

/-- There is a socket, it accepts the connection, and its stream ends without an error. -/
def EndsCleanly (path : Option EventSocket) : Prop :=
  ∃ socket, path = some socket ∧ socket.refusal = none ∧ socket.ending = .closed

/-! ### The task -/

/-- `FOCUS_EVENT_PREFIXES`. -/
def focusEventPrefixes : List String :=
  ["focusedmon", "workspace", "workspacev2", "moveworkspace", "moveworkspacev2", "monitoradded",
    "monitoraddedv2", "monitorremoved", "configreloaded"]

/-- The name of an event: what is in front of the first `>>`. -/
def eventName : List Char → List Char
  | '>' :: '>' :: _ => []
  | c :: rest => c :: eventName rest
  | [] => []

/-- `is_focus_event`. -/
def isFocusEvent (line : String) : Bool :=
  focusEventPrefixes.contains (String.ofList (eventName line.toList))

example : isFocusEvent "workspace>>3" = true ∧ isFocusEvent "activewindow>>kitty" = false := by decide

/-- Where the task waits: for the connection, for a line, or for a focus signal to be taken, in
`forward_socket_events`; for the ticker, or for its signal to be taken, in `poll_focus`. -/
inductive FocusTask
  | connect
  | nextLine
  | forward
  | tick
  | poll
  | finished
  deriving DecidableEq, Repr

/-- The task and what is left of its socket. -/
structure FocusState where
  task : FocusTask
  socket : EventSocket
  deriving DecidableEq, Repr

/-- `spawn_focus_signals`, after `forward_socket_events` has returned. -/
def afterForwarding : Except String Unit → FocusTask
  | .error _ => .tick
  | .ok () => .finished

/-- One step of the task: what it waits for comes, and it goes on to the next wait. -/
def FocusState.step (receiverOpen : Bool) (state : FocusState) : FocusState :=
  match state.task with
  | .connect =>
      match state.socket.connect with
      | .ok () => { state with task := .nextLine }
      | .error error => { state with task := afterForwarding (.error error) }
  | .nextLine =>
      match state.socket.nextLine with
      | (.ok (some line), socket) =>
          { task := if isFocusEvent line then .forward else .nextLine, socket }
      | (.ok none, socket) => { task := afterForwarding (.ok ()), socket }
      | (.error error, socket) => { task := afterForwarding (.error error), socket }
  | .forward =>
      if receiverOpen then { state with task := .nextLine }
      else { state with task := afterForwarding (.ok ()) }
  | .tick => { state with task := .poll }
  | .poll => if receiverOpen then { state with task := .tick } else { state with task := .finished }
  | .finished => state

/-- `spawn_focus_signals`: without the path of a socket there is nothing but the ticker. -/
def spawnFocusSignals : Option EventSocket → FocusState
  | some socket => { task := .connect, socket }
  | none => { task := .tick, socket := { refusal := none, lines := [], ending := .closed } }

/-- The task after some steps. -/
def stateAt (path : Option EventSocket) (receiverOpen : Nat → Bool) : Nat → FocusState
  | 0 => spawnFocusSignals path
  | step + 1 => (stateAt path receiverOpen step).step (receiverOpen step)

/-! ### The law -/

/-- While the receiver is open, the task does not finish, and it sends poll signals again and
again. -/
structure GoesOn (path : Option EventSocket) : Prop where
  unfinished : ∀ receiverOpen count, (∀ step < count, receiverOpen step = true) →
    (stateAt path receiverOpen count).task ≠ .finished
  polls : ∀ receiverOpen count, ∃ later ≥ count, (∀ step < later, receiverOpen step = true) →
    (stateAt path receiverOpen later).task = .poll

/-- A step while the receiver is open. -/
abbrev FocusState.next : FocusState → FocusState := FocusState.step true

theorem stateAt_of_open {path : Option EventSocket} {receiverOpen : Nat → Bool} {count : Nat}
    (opened : ∀ step < count, receiverOpen step = true) :
    stateAt path receiverOpen count = FocusState.next^[count] (spawnFocusSignals path) := by
  induction count with
  | zero => rfl
  | succ count ih =>
      rw [stateAt, ih fun step before => opened step (Nat.lt_succ_of_lt before),
        opened count (Nat.lt_succ_self count), Function.iterate_succ_apply']

/-- The task polls. -/
def Polling (state : FocusState) : Prop := state.task = .tick ∨ state.task = .poll

theorem Polling.next {state : FocusState} (polling : Polling state) : Polling state.next := by
  obtain ⟨task, socket⟩ := state
  rcases polling with rfl | rfl
  · exact Or.inr rfl
  · exact Or.inl rfl

theorem Polling.iterate {state : FocusState} (polling : Polling state) (count : Nat) :
    Polling (FocusState.next^[count] state) := by
  induction count with
  | zero => exact polling
  | succ count ih =>
      rw [Function.iterate_succ_apply']
      exact ih.next

/-- One of two steps of a task that polls is a signal. -/
theorem Polling.poll {state : FocusState} (polling : Polling state) :
    ∃ few, (FocusState.next^[few] state).task = .poll := by
  obtain ⟨task, socket⟩ := state
  rcases polling with rfl | rfl
  · exact ⟨1, rfl⟩
  · exact ⟨0, rfl⟩

/-- What `forward_socket_events` returns at the end of the stream. -/
def StreamEnd.returned (ending : StreamEnd) : Except String Unit := ending.result.map fun _ => ()

/-- **Every line is read**, and then the task goes on as the stream has ended. -/
theorem step_forwarding (socket : EventSocket) :
    ∃ count, FocusState.next^[count] { task := .nextLine, socket } =
      { task := afterForwarding socket.ending.returned, socket := { socket with lines := [] } } := by
  obtain ⟨refusal, lines, ending⟩ := socket
  induction lines with
  | nil => exact ⟨1, by cases ending <;> rfl⟩
  | cons line rest ih =>
      obtain ⟨count, reached⟩ := ih
      cases focus : isFocusEvent line with
      | false =>
          refine ⟨count + 1, ?_⟩
          rw [Function.iterate_succ_apply, ← reached]
          congr 1
          simp [FocusState.next, FocusState.step, EventSocket.nextLine, focus]
      | true =>
          refine ⟨count + 2, ?_⟩
          rw [Function.iterate_succ_apply, Function.iterate_succ_apply, ← reached]
          congr 1
          simp [FocusState.next, FocusState.step, EventSocket.nextLine, focus]

/-- What is left of the task once its socket is lost. -/
def remaining : Option EventSocket → FocusTask
  | none => .tick
  | some socket =>
      match socket.connect with
      | .ok () => afterForwarding socket.ending.returned
      | .error error => afterForwarding (.error error)

/-- **The socket is lost**, whatever it has answered before. -/
theorem reaches_remaining (path : Option EventSocket) :
    ∃ count, (FocusState.next^[count] (spawnFocusSignals path)).task = remaining path := by
  cases path with
  | none => exact ⟨0, rfl⟩
  | some socket =>
      obtain ⟨refusal, lines, ending⟩ := socket
      cases refusal with
      | some error => exact ⟨1, rfl⟩
      | none =>
          obtain ⟨count, reached⟩ := step_forwarding ⟨none, lines, ending⟩
          refine ⟨count + 1, ?_⟩
          rw [Function.iterate_succ_apply]
          exact congrArg FocusState.task reached

theorem remaining_eq (path : Option EventSocket) :
    remaining path = .finished ∧ EndsCleanly path ∨ remaining path = .tick ∧ ¬ EndsCleanly path := by
  obtain _ | ⟨_ | error, lines, ending⟩ := path
  · exact Or.inr ⟨rfl, fun ⟨_, same, _⟩ => by cases same⟩
  · cases ending with
    | closed => exact Or.inl ⟨rfl, _, rfl, rfl, rfl⟩
    | failed error => exact Or.inr ⟨rfl, fun ⟨_, same, _, closed⟩ => by cases same; cases closed⟩
    | invalidUtf8 => exact Or.inr ⟨rfl, fun ⟨_, same, _, closed⟩ => by cases same; cases closed⟩
  · exact Or.inr ⟨rfl, fun ⟨_, same, accepted, _⟩ => by cases same; cases accepted⟩

theorem finished_iterate {state : FocusState} (finished : state.task = .finished) (count : Nat) :
    (FocusState.next^[count] state).task = .finished := by
  obtain ⟨task, socket⟩ := state
  obtain rfl := finished
  induction count with
  | zero => rfl
  | succ count ih =>
      rw [Function.iterate_succ_apply]
      exact ih

/-- A state of the run, seen from another one. -/
theorem iterate_of_le {state : FocusState} {first last : Nat} (before : first ≤ last) :
    FocusState.next^[last] state = FocusState.next^[last - first] (FocusState.next^[first] state) := by
  rw [← Function.iterate_add_apply, Nat.sub_add_cancel before]

/-- **The signals never dry up exactly when the socket does not end cleanly.** -/
theorem goesOn_iff (path : Option EventSocket) : GoesOn path ↔ ¬ EndsCleanly path := by
  obtain ⟨lost, reached⟩ := reaches_remaining path
  rcases remaining_eq path with ⟨ends, clean⟩ | ⟨goes, unclean⟩
  · refine iff_of_false (fun alive => ?_) (not_not_intro clean)
    refine alive.unfinished (fun _ => true) lost (fun _ _ => rfl) ?_
    rw [stateAt_of_open fun _ _ => rfl, reached, ends]
  · have polling : Polling (FocusState.next^[lost] (spawnFocusSignals path)) :=
      Or.inl (reached.trans goes)
    refine iff_of_true ⟨?_, ?_⟩ unclean
    · intro receiverOpen count opened finished
      rw [stateAt_of_open opened] at finished
      rcases Nat.le_total count lost with early | late
      · -- A task that has finished stays so, and this one polls later.
        have still := finished_iterate finished (lost - count)
        rw [← iterate_of_le early, reached, goes] at still
        cases still
      · rw [iterate_of_le late] at finished
        rcases polling.iterate (count - lost) with tick | poll
        · cases finished.symm.trans tick
        · cases finished.symm.trans poll
    · intro receiverOpen count
      obtain ⟨few, signal⟩ := (polling.iterate (max lost count - lost)).poll
      rw [← iterate_of_le (Nat.le_max_left lost count), ← Function.iterate_add_apply] at signal
      refine ⟨few + max lost count, by omega, fun opened => ?_⟩
      rw [stateAt_of_open opened, signal]

/-- **A socket that is closed after one event ends the task.** -/
theorem dried_up :
    ¬ GoesOn (some { refusal := none, lines := ["focusedmon>>DP-1,1"], ending := .closed }) := by
  intro alive
  exact alive.unfinished (fun _ => true) 4 (fun _ _ => rfl) (by decide)

end Omdesky.Platform
