/-
**Leaving the terminal interface.**

When a key ends the loop, the runtime drops every connect task where it awaits.

* `Quits`: the end of a run by a key, with what each task has done until it was dropped.
* `quit_restores_iff`: no keybinding of the run is left exactly when every task that was dropped had
  cleared what it had installed.
* `quit_leaves_keybinds`: a run that is left while its stream is running. The task was to clear the
  keybindings after the stream, and nobody else does.
-/

import Omdesky.Tui.Loop

namespace Omdesky.Tui

open Application Interaction Interaction.Program Platform

/-! ### The end of a run -/

/-- The calls at which a task awaits; the heartbeat is started and dropped on the spot. -/
def Awaits : TaskCall → Prop
  | .port (.spawnHeartbeat _ _) | .port .dropHeartbeat => False
  | _ => True

/-- A key ends the loop, and every connect task is dropped: `ends` is what they have done. -/
structure Quits (services : Services) (t : Terminal) (ends : List (List TaskEvent))
    (final : Hyprland) : Prop where
  waiting : t.receiving = false
  key : ∃ key answers, (handleKey t.app answers key).quits = true
  dropped : Dropped (taskWorld services) Awaits t.tasks t.desktop ends final

section Quits

variable {services : Services} {mark : Nat} {t : Terminal} {ends : List (List TaskEvent)}
  {desktop final : Hyprland}

/-- **The end of a task.** The keybindings of the run that are left are those it had yet to clear. -/
theorem since_of_dropped {task : ConnectTask}
    (dropped : Dropped (taskWorld services) Awaits [task] desktop ends final)
    (underway : Underway services task) (marked : mark ≤ desktop.1.next)
    (left : desktop.Since mark ↔ ¬ Restores (portEvents task.trace)) :
    ∃ trace, ends = [trace] ∧ (final.Since mark ↔ ¬ Restores (portEvents trace)) := by
  generalize listed : [task] = tasks at dropped
  induction dropped generalizing task with
  | none => cases listed
  | finished others =>
      obtain ⟨rfl, rfl⟩ := List.cons.inj listed
      cases others
      exact ⟨_, rfl, left⟩
  | waiting waits others =>
      obtain ⟨rfl, rfl⟩ := List.cons.inj listed
      cases others
      exact ⟨_, rfl, left⟩
  | carried waits answered others =>
      obtain ⟨rfl, rfl⟩ := List.cons.inj listed
      cases others
      exact ⟨_, rfl, (since_of_world marked underway.own left answered).2⟩
  | goesOn passes answered later ih =>
      obtain ⟨rfl, rfl⟩ := List.cons.inj listed
      obtain ⟨raised, since⟩ := since_of_world marked underway.own left answered
      exact ih (underway.answer answered) raised since rfl

/-- **Leaving the interface restores the shortcuts** exactly when every connect task that is dropped
had cleared what it had installed. -/
theorem quit_restores_iff (before : ¬ desktop.Since desktop.1.next)
    (reached : Reached services desktop t) (quits : Quits services t ends final) :
    ¬ final.Since desktop.1.next ↔ ∀ trace ∈ ends, Restores (portEvents trace) := by
  have orderly := orderly_of_reached before reached
  have dropped := quits.dropped
  cases listed : t.tasks with
  | nil =>
      have none : ¬ t.desktop.Since desktop.1.next := by rw [orderly.left, listed]; simp
      rw [listed] at dropped
      cases dropped
      exact iff_of_true none (by simp)
  | cons task tasks =>
      obtain ⟨_, rfl, _⟩ := @Orderly.alone _ _ _ [] _ _ orderly listed
      have left := orderly.left
      rw [listed] at dropped left
      obtain ⟨trace, rfl, since⟩ := since_of_dropped dropped
        (orderly.underway task (listed ▸ List.mem_cons_self)) orderly.marked (by simpa using left)
      simp [since]

end Quits

/-! ### A run with one stream -/

/-- A call of the only task. -/
theorem Reached.call {services : Services} {desktop after : Hyprland} {t : Terminal}
    {connection : Connection} {past : List TaskEvent} {request : TaskCall}
    {next : TaskAnswer request → TaskM Unit} {answer : TaskAnswer request}
    (reached : Reached services desktop t) (listed : t.tasks = [⟨connection, past, .ask request next⟩])
    (answered : taskWorld services request t.desktop answer after)
    (room : t.queue.length + (messages connection request).length ≤ capacity)
    (goes : next answer ≠ .done ()) :
    Reached services desktop { t with
      queue := t.queue ++ messages connection request
      tasks := [⟨connection, past ++ [⟨request, answer⟩], next answer⟩]
      desktop := after } := by
  have step := Relation.ReflTransGen.tail reached (@Step.task services t [] [] connection past request
    next answer after listed answered room)
  cases remains : next answer with
  | done value => exact absurd remains goes
  | ask more rest =>
      rw [remains] at step
      exact step

/-- Calls that change nothing and send nothing, one after the other. -/
theorem Reached.calls {services : Services} {desktop : Hyprland} {t : Terminal}
    {connection : Connection} {past trace : List TaskEvent} {program rest : TaskM Unit}
    (reached : Reached services desktop t) (listed : t.tasks = [⟨connection, past, program⟩])
    (leaves : Leaves program trace rest) (room : t.queue.length ≤ capacity)
    (quiet : ∀ event ∈ trace, taskWorld services event.1 t.desktop event.2 t.desktop ∧
      messages connection event.1 = []) (goes : rest ≠ .done ()) :
    Reached services desktop { t with tasks := [⟨connection, past ++ trace, rest⟩] } := by
  induction leaves with
  | begun =>
      rw [List.append_nil, ← listed]
      exact reached
  | @event trace request next answer earlier ih =>
      have before := ih (fun event member => quiet event (List.mem_append_left _ member)) nofun
      obtain ⟨answered, silent⟩ := quiet ⟨request, answer⟩ (List.mem_append_right _ List.mem_cons_self)
      have step := before.call rfl answered (by rw [silent]; exact room) goes
      rw [silent, List.append_nil, List.append_assoc] at step
      exact step

/-- How the interface of the desk was started. -/
private def deskServices : Services := ⟨47900, "desk", false⟩

/-- A computer of the tailnet that is ready. -/
private def readyTower : DiscoveredNode where
  tailnetNodeId := "tower"
  name := "tower"
  address := .v4 100 64 0 2
  status := .ready
  blockers := []
  connection := .direct
  latencyMs := none
  agentVersion := some release
  omarchyVersion := none
  capabilities := .new []
  isLocal := false

/-- The interface after its first messages: this computer is ready, and so is the tower. -/
private def listing : AppState :=
  applyMessage (applyMessage .opened (.localReadiness (.ok ()))) (.discovery (.ok [readyTower]))

/-- What a handler hears when nothing fails. -/
private def fine : Answers := ⟨.ok (), .ok (), 0⟩

/-- The connection to the tower. -/
private def towerConnection : Connection := ⟨readyTower, 1, .default, 1⟩

/-- The interface once it connects to the tower. -/
private def dialing : Terminal where
  app := (handleKey listing fine .enter).state
  receiving := false
  queue := []
  tasks := [⟨towerConnection, [], startConnect deskServices towerConnection⟩]
  desktop := .bare

private theorem reached_dialing : Reached deskServices .bare dialing := by
  have told : Reached deskServices .bare { Terminal.opened .bare with
      queue := [.localReadiness (.ok ()), .discovery (.ok [readyTower])] } :=
    (Relation.ReflTransGen.refl.tail (.other rfl (by decide))).tail (.other rfl (by decide))
  have heard : Reached deskServices .bare { Terminal.opened .bare with app := listing } :=
    (Relation.ReflTransGen.tail told (.receive rfl rfl)).tail (.receive rfl rfl)
  have waits : Reached deskServices .bare { Terminal.opened .bare with
      app := listing, receiving := false } :=
    Relation.ReflTransGen.tail heard (.drained .default 1 false rfl rfl)
  have dials : Reached deskServices .bare { dialing with receiving := true } :=
    Relation.ReflTransGen.tail waits (.key .default 1 fine .enter rfl rfl)
  exact Relation.ReflTransGen.tail dials (.drained .default 1 false rfl rfl)

/-- What the task asks for before it installs its keybindings. -/
private def launching : List TaskEvent :=
  [⟨.localNode, .ok ⟨"desk", none, none, [.v4 100 64 0 1]⟩⟩,
    ⟨.health ⟨.v4 100 64 0 1, 47900⟩, .ok ⟨"ok", protocol, release⟩⟩, ⟨.configured, .ok true⟩] ++
    launched.map (fun event => ⟨.port event.1, event.2⟩) ++
    [⟨.port (.windowForProcess 42), .ok (some (.byClass moonlightWindowClass))⟩]

/-- What it asks for then, up to the callback. -/
private def attaching : List TaskEvent :=
  [⟨.port (attachCommand deskRequest deskKeybinds.window), .ok (.granted ⟨⟨0⟩, 1, 45⟩)⟩,
    ⟨.port (.spawnHeartbeat deskRequest.endpoint ⟨⟨0⟩, 1, 45⟩), ()⟩,
    ⟨.port (.notify ⟨"Omdesky",
      "Remote shortcuts are ready. Press SUPER+R to switch shortcut capture."⟩), .ok ()⟩]

/-- The call that gives the session of the stream back. -/
private def detaching : TaskCall :=
  .port (.sendCommand deskRequest.endpoint .detachSession (some ⟨⟨0⟩, 1⟩))

/-- How a task goes on when its stream has ended: it clears the keybindings, and detaches. -/
private def Clears (watches : TaskAnswer (.port (.watch deskRequest.controllerEndpoint deskRequest.endpoint)) →
    TaskM Unit) : Prop :=
  ∃ drops clears sends, watches (.exited (.ok 0)) = .ask (.port .dropHeartbeat) drops ∧
    drops () = .ask (.port .clear) clears ∧ clears (.ok ()) = .ask detaching sends

/-- The task of a stream that is running, call by call. -/
private theorem leaves_streaming : ∃ installs starts watches,
    Leaves (startConnect deskServices towerConnection) launching
      (.ask (.port (.install deskKeybinds)) installs) ∧ installs (.ok ()) ≠ .done () ∧
    Leaves (installs (.ok ())) attaching (.ask (.port (.started (some 42))) starts) ∧
    starts () = .ask (.port (.watch deskRequest.controllerEndpoint deskRequest.endpoint)) watches ∧
      Clears watches :=
  ⟨_, _, _, .cons (.cons (.cons (.cons (.cons (.cons (.cons (.cons (.cons (.cons .begun))))))))),
    (fun ended => by cases ended), .cons (.cons (.cons .begun)), rfl, _, _, _, rfl, rfl, rfl⟩

/-- What the task of a running stream has done. -/
private def streamed : List TaskEvent :=
  [] ++ launching ++ [⟨.port (.install deskKeybinds), .ok ()⟩] ++ attaching ++
    [⟨.port (.started (some 42)), ()⟩]

/-- The interface while a stream is running. -/
private theorem reached_streaming : ∃ t watches, Reached deskServices .bare t ∧
    t.receiving = false ∧ t.app = dialing.app ∧
    t.tasks = [⟨towerConnection, streamed,
      .ask (.port (.watch deskRequest.controllerEndpoint deskRequest.endpoint)) watches⟩] ∧
    t.desktop = Hyprland.bare.install .stream false deskKeybinds ∧ Clears watches ∧ t.queue.length = 1 := by
  obtain ⟨installs, starts, watches, launches, goes, attaches, started, clears⟩ := leaves_streaming
  have valid : deskKeybinds.window.validate = .ok () := Roles.validate_moonlight
  have binds : taskWorld deskServices (.port (.install deskKeybinds)) .bare (Except.ok ())
      (Hyprland.bare.install .stream false deskKeybinds) := by
    refine ⟨rfl, rfl, ?_⟩
    unfold installKeybinds
    rw [valid]
    rfl
  have before := reached_dialing.calls rfl launches (Nat.zero_le _)
    (by simp [launching, launched, taskWorld, Succeeds, PortSucceeds, Roles.streamWorld, messages,
      Except.isOk, Except.toBool]) (fun ended => by cases ended)
  have bound := before.call rfl binds (Nat.zero_le _) goes
  have attached := bound.calls rfl attaches (Nat.zero_le _)
    (by simp [attaching, attachCommand, taskWorld, Succeeds, PortSucceeds, Roles.streamWorld, messages,
      Except.isOk, Except.toBool, CommandResponse.granted]) (fun ended => by cases ended)
  have streams := attached.call rfl ⟨trivial, rfl⟩ (by simp [messages, dialing, capacity])
    (by rw [started]; exact fun ended => by cases ended)
  rw [started] at streams
  exact ⟨_, watches, streams, rfl, rfl, rfl, rfl, clears, rfl⟩

/-- What the task has done when its stream has ended and its keybindings are cleared. -/
private def cleared : List TaskEvent :=
  streamed ++ [⟨.port (.watch deskRequest.controllerEndpoint deskRequest.endpoint), .exited (.ok 0)⟩] ++
    [⟨.port .dropHeartbeat, ()⟩] ++ [⟨.port .clear, .ok ()⟩]

/-- The interface once the stream has ended, while the session is given back. -/
private theorem reached_cleared : ∃ t sends, Reached deskServices .bare t ∧
    t.receiving = false ∧ t.app = dialing.app ∧ t.tasks = [⟨towerConnection, cleared, .ask detaching sends⟩] ∧
    t.desktop = (Hyprland.bare.install .stream false deskKeybinds).remove .stream := by
  obtain ⟨t, watches, reached, waiting, app, tasks, desktop, ⟨drops, clears, sends, ends, drop, clear⟩, one⟩ :=
    reached_streaming
  have room : t.queue.length ≤ capacity := by
    rw [one]
    decide
  have exited : taskWorld deskServices (.port (.watch deskRequest.controllerEndpoint deskRequest.endpoint))
      t.desktop (Watch.exited (.ok 0)) t.desktop := ⟨rfl, rfl⟩
  have exits := reached.call tasks exited (by simpa [messages] using room)
    (by rw [ends]; exact fun ended => by cases ended)
  rw [ends] at exits
  have dropped : taskWorld deskServices (.port .dropHeartbeat) t.desktop () t.desktop := ⟨trivial, rfl⟩
  have drops := exits.call rfl dropped (by simpa [messages] using room)
    (by rw [drop]; exact fun ended => by cases ended)
  rw [drop] at drops
  have removed : taskWorld deskServices (.port .clear) t.desktop (Except.ok ())
      (t.desktop.remove .stream) := ⟨rfl, rfl, rfl⟩
  have clears := drops.call rfl removed (by simpa [messages] using room)
    (by rw [clear]; exact fun ended => by cases ended)
  rw [clear] at clears
  exact ⟨_, sends, clears, waiting, app, rfl, by rw [desktop]⟩

/-- The interface is left while its task, which has cleared its keybindings, gives the session back. -/
theorem quit_restores_iff_cleared : ∃ t, Reached deskServices .bare t ∧
    t.desktop = (Hyprland.bare.install .stream false deskKeybinds).remove .stream ∧
    Quits deskServices t [cleared] t.desktop ∧
      (¬ t.desktop.Since 0 ↔ ∀ trace ∈ [cleared], Restores (portEvents trace)) := by
  obtain ⟨t, sends, reached, waiting, app, tasks, desktop⟩ := reached_cleared
  have before : ¬ Hyprland.bare.Since 0 := by rintro ⟨bind, ⟨⟩, _⟩
  have quits : Quits deskServices t [cleared] t.desktop := by
    refine ⟨waiting, ⟨.char 'q', fine, by rw [app]; rfl⟩, ?_⟩
    rw [tasks]
    exact .waiting trivial .none
  exact ⟨t, reached, desktop, quits, quit_restores_iff before reached quits⟩

/-- **Leaving the interface while its stream is running** leaves the keybindings of the stream. -/
theorem quit_leaves_keybinds : ¬ ∀ (services : Services) (desktop final : Hyprland) (t : Terminal)
    (ends : List (List TaskEvent)), ¬ desktop.Since desktop.1.next → Reached services desktop t →
      Quits services t ends final → ¬ final.Since desktop.1.next := by
  intro claim
  obtain ⟨t, watches, reached, waiting, app, tasks, desktop, _⟩ := reached_streaming
  have before : ¬ Hyprland.bare.Since 0 := by rintro ⟨bind, ⟨⟩, _⟩
  have dropped : Dropped (taskWorld deskServices) Awaits t.tasks t.desktop [streamed] t.desktop := by
    rw [tasks]
    exact .waiting trivial .none
  have quits : Quits deskServices t [streamed] t.desktop :=
    ⟨waiting, ⟨.char 'q', fine, by rw [app]; rfl⟩, dropped⟩
  refine claim _ _ _ _ _ before reached quits ?_
  rw [desktop, Hyprland.since_install (Nat.le_refl _), Ne, sessionBinds_eq_nil_iff]
  rintro ⟨⟨⟩, _⟩

end Omdesky.Tui
