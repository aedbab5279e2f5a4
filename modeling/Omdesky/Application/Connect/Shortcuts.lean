/-
**The controller's shortcuts after a connection.**

A connection installs keybindings on the controller's own desktop and has to clear them again. Of a
complete run only the events that bear on this matter (`keys`):

* `Attached`, `attached_of_traces`: the ways through the attach, with what each leaves behind.
* `Restores`: every install is followed by a clear.
* `restores_iff`: it is, exactly when no install fails and no attach succeeds without a grant; the
  two cases have no clear of their own (`install_left_behind` is a run of the first).
-/

import Omdesky.Application.Connect.Stages

namespace Omdesky.Application

open Interaction Interaction.Program

/-! ### The property -/

/-- A call with its answer. -/
abbrev PortEvent := Event PortCall PortAnswer

/-- Every install is followed by at least one attempted clear. -/
def Restores : List PortEvent → Prop
  | [] => True
  | ⟨.install _, _⟩ :: later => (∃ result, ⟨.clear, result⟩ ∈ later) ∧ Restores later
  | _ :: later => Restores later

/-- An install that failed, or an attach that the remote agent accepted without a grant. -/
def Unattended : PortEvent → Prop
  | ⟨.install _, .error _⟩ => True
  | ⟨.sendCommand _ (.attachSession _ _ _) _, .ok response⟩ => response.session = none
  | _ => False

section Restores

variable {trace : List PortEvent}

theorem restores_cons {event : PortEvent} :
    Restores (event :: trace) ↔ ((∃ config, event.1 = .install config) →
      ∃ result, ⟨.clear, result⟩ ∈ trace) ∧ Restores trace := by
  obtain ⟨request, answer⟩ := event
  cases request with
  | install config => exact and_congr_left' ⟨fun cleared _ => cleared, fun cleared => cleared ⟨_, rfl⟩⟩
  | _ => simp [Restores]

/-- An install is not cleared yet. -/
theorem not_restores_install {config : SessionKeybindConfig} {result : PortResult Unit} :
    ¬ Restores (trace ++ [⟨.install config, result⟩]) := by
  induction trace with
  | nil => exact fun restores => absurd restores.1 (by simp)
  | cons event trace ih => exact fun restores => ih (restores_cons.mp restores).2

/-- A clear answers every install before it. -/
theorem restores_clear {result : PortResult Unit} : Restores (trace ++ [⟨.clear, result⟩]) := by
  induction trace with
  | nil => exact trivial
  | cons event trace ih =>
      exact restores_cons.mpr ⟨fun _ => ⟨result, List.mem_append_right _ List.mem_cons_self⟩, ih⟩

/-- Any other event changes nothing. -/
theorem restores_other {event : PortEvent} (install : ∀ config, event.1 ≠ .install config)
    (clear : event.1 ≠ .clear) : Restores (trace ++ [event]) ↔ Restores trace := by
  induction trace with
  | nil => exact iff_of_true (restores_cons.mpr ⟨fun ⟨_, same⟩ => absurd same (install _), trivial⟩) trivial
  | cons first trace ih =>
      have cleared : (∃ result, ⟨.clear, result⟩ ∈ trace ++ [event]) ↔
          ∃ result, ⟨.clear, result⟩ ∈ trace := by
        refine exists_congr fun result => ?_
        rw [List.mem_append, or_iff_left]
        exact fun last => clear (congrArg Sigma.fst (List.mem_singleton.mp last)).symm
      rw [List.cons_append, restores_cons, restores_cons, ih, cleared]

end Restores

/-! ### The events that matter -/

/-- An install, a clear or an attach. -/
def matters : PortCall → Bool
  | .install _ | .clear | .sendCommand _ (.attachSession _ _ _) _ => true
  | _ => false

/-- The events of a trace that matter. -/
def keys (trace : List PortEvent) : List PortEvent := trace.filter fun event => matters event.1

theorem keys_append (first second : List PortEvent) :
    keys (first ++ second) = keys first ++ keys second := List.filter_append _ _

theorem mem_keys {trace : List PortEvent} {event : PortEvent} :
    event ∈ keys trace ↔ event ∈ trace ∧ matters event.1 = true := List.mem_filter

/-- What matters is enough to judge the trace. -/
theorem restores_keys (trace : List PortEvent) : Restores (keys trace) ↔ Restores trace := by
  induction trace with
  | nil => exact Iff.rfl
  | cons event later ih =>
      obtain ⟨request, answer⟩ := event
      cases request with
      | install config =>
          have cleared : (∃ result, ⟨.clear, result⟩ ∈ keys later) ↔
              ∃ result, ⟨.clear, result⟩ ∈ later := by
            simp only [mem_keys, matters, and_true]
          exact and_congr cleared ih
      | sendCommand endpoint command session => cases command <;> exact ih
      | _ => exact ih

theorem unattended_keys (trace : List PortEvent) :
    (∀ event ∈ keys trace, ¬ Unattended event) ↔ ∀ event ∈ trace, ¬ Unattended event := by
  constructor
  · intro attended event member unattended
    refine attended event (mem_keys.mpr ⟨member, ?_⟩) unattended
    unfold Unattended at unattended
    split at unattended
    · rfl
    · rfl
    · exact unattended.elim
  · exact fun attended event member => attended event (mem_keys.mp member).1

/-- None of the calls that matter. -/
abbrev Aside {α : Type} (program : ConnectM α) : Prop :=
  Uses (fun request => matters request = false) program

/-- A program that makes none of these calls leaves nothing that matters. -/
theorem keys_of_aside {α : Type} {program : ConnectM α} {trace : List PortEvent} {value : α}
    (aside : Aside program) (run : Traces program trace value) : keys trace = [] := by
  rw [keys, List.filter_eq_nil_iff]
  intro event member
  rw [aside.of_traces run event member]
  exact Bool.false_ne_true

/-- Keybindings and attaches are what matters. -/
theorem matters_iff {request : PortCall} :
    matters request = true ↔ stage request = .keybinding ∨ stage request = .attach := by
  cases request with
  | sendCommand endpoint command session => cases command <;> simp [matters, stage]
  | _ => simp [matters, stage]

/-- The steps of another stage leave nothing that matters. -/
theorem aside_of_only {α : Type} {program : ConnectM α} {other : Stage} (only : Only other program)
    (differs : other ≠ .keybinding ∧ other ≠ .attach) : Aside program := by
  refine only.weaken fun request same => ?_
  rw [← Bool.not_eq_true, matters_iff, same]
  exact fun either => either.elim differs.1 differs.2

theorem aside_call {request : PortCall} (aside : matters request = false) : Aside (call request) :=
  ⟨aside, fun _ => trivial⟩

theorem aside_prepare (node : ConnectNode) (request : ConnectRequest) :
    Aside (prepare node request).run := aside_of_only (only_prepare _ _) (by decide)

theorem aside_notify (body : String) : Aside (notify body) :=
  aside_of_only (only_notify _) (by decide)

theorem aside_locateStreamWindow (locatesWindows : Bool) (pid : Option Nat) :
    Aside (locateStreamWindow locatesWindows pid) :=
  aside_of_only (only_locateStreamWindow _ _) (by decide)

theorem aside_waitForProcessOrMonitor (localAgent remoteAgent : AgentEndpoint)
    (rounds localFailures remoteFailures : Nat) :
    Aside (waitForProcessOrMonitor localAgent remoteAgent rounds localFailures remoteFailures) :=
  aside_of_only (only_waitForProcessOrMonitor _ _ _ _ _) (by decide)

/-! ### The attach -/

/-- The attach command of a request. -/
def attachCommand (request : ConnectRequest) (window : WindowSelector) : PortCall :=
  .sendCommand request.endpoint
    (.attachSession .remote (some
      { address := request.controllerEndpoint.address
        port := request.controllerEndpoint.port }) (some window)) none

variable {node : ConnectNode} {request : ConnectRequest} {window : WindowSelector}
  {pid : Option Nat} {rounds : Nat} {trace : List PortEvent}

/-- A connection installs keybindings and sends an attach request, both for its window. -/
theorem uses_attachSession : Uses (fun call =>
    (∀ config, call = .install config → config.role = .controller ∧ config.window = window) ∧
      ∀ endpoint command claim, call = .sendCommand endpoint command claim →
        ∃ controller, command = .attachSession .remote (some controller) (some window))
    (attachSession request window) := by
  unfold attachSession
  refine ⟨⟨?_, ?_⟩, fun installed => ?_⟩
  · rintro config ⟨⟩
    exact ⟨rfl, rfl⟩
  · rintro endpoint command claim ⟨⟩
  cases installed with
  | error error => exact trivial
  | ok value =>
      refine ⟨⟨?_, ?_⟩, fun sent => ?_⟩
      · rintro config ⟨⟩
      · rintro endpoint command claim ⟨⟩
        exact ⟨_, rfl⟩
      cases sent with
      | error error =>
          refine ⟨⟨?_, ?_⟩, fun _ => trivial⟩
          · rintro config ⟨⟩
          · rintro endpoint command claim ⟨⟩
      | ok response =>
          dsimp only [Program.bind]
          split <;> exact trivial

/-- **The ways through an attach**: what matters of it, and the grant it ends with. -/
inductive Attached (request : ConnectRequest) : List PortEvent → Option SessionGrant → Prop
  | skipped : Attached request [] none
  | failed {window error} :
      Attached request [⟨.install ⟨.controller, none, window⟩, .error error⟩] none
  | refused {window error result} :
      Attached request [⟨.install ⟨.controller, none, window⟩, .ok ()⟩,
        ⟨attachCommand request window, .error error⟩, ⟨.clear, result⟩] none
  | ungranted {window response} (grant : response.session = none) :
      Attached request [⟨.install ⟨.controller, none, window⟩, .ok ()⟩,
        ⟨attachCommand request window, .ok response⟩] none
  | granted {window response grant} (granted : response.session = some grant) :
      Attached request [⟨.install ⟨.controller, none, window⟩, .ok ()⟩,
        ⟨attachCommand request window, .ok response⟩] (some grant)

theorem attached_of_attachSession {result : PortResult SessionGrant}
    (run : Traces (attachSession request window) trace result) :
    Attached request trace result.toOption := by
  unfold attachSession at run
  simp only [perform_bind] at run
  obtain ⟨installed, rest, rfl, run⟩ := run
  cases installed with
  | error error =>
      obtain ⟨rfl, rfl⟩ := run
      exact .failed
  | ok value =>
      obtain ⟨sent, rest, rfl, run⟩ := run
      cases sent with
      | error error =>
          obtain ⟨cleared, rest, rfl, rfl, rfl⟩ := run
          exact .refused
      | ok response =>
          dsimp only at run
          cases session : response.session with
          | none =>
              rw [session] at run
              obtain ⟨rfl, rfl⟩ := run
              exact .ungranted session
          | some grant =>
              rw [session] at run
              obtain ⟨rfl, rfl⟩ := run
              exact .granted session

/-- An attach is all that matters of it. -/
theorem keys_of_attached {grant : Option SessionGrant} (ways : Attached request trace grant) :
    keys trace = trace := by cases ways <;> rfl

theorem attached_of_shortcuts {grant : Option SessionGrant}
    (run : Traces (shortcuts node request pid) trace grant) :
    Attached request (keys trace) grant := by
  unfold shortcuts at run
  cases mode : request.inputMode with
  | «local» =>
      rw [mode] at run
      obtain ⟨rfl, rfl⟩ := run
      exact .skipped
  | remote =>
      rw [mode] at run
      obtain ⟨looked, rest, window, rfl, look, run⟩ := traces_bind.mp run
      obtain ⟨attach, rest, result, rfl, attached, run⟩ := traces_bind.mp run
      have ways := attached_of_attachSession attached
      have rest : keys rest = [] ∧ grant = result.toOption := by
        cases result with
        | ok session =>
            obtain ⟨spawned, rest, _, rfl, spawn, run⟩ := traces_bind.mp run
            obtain ⟨sent, rest, _, rfl, send, rfl, rfl⟩ := traces_bind.mp run
            rw [keys_append, keys_append, keys_of_aside (aside_call rfl) spawn,
              keys_of_aside (aside_notify _) send]
            exact ⟨rfl, rfl⟩
        | error error =>
            obtain ⟨sent, rest, _, rfl, send, rfl, rfl⟩ := traces_bind.mp run
            rw [keys_append, keys_of_aside (aside_notify _) send]
            exact ⟨rfl, rfl⟩
      rw [keys_append, keys_append, keys_of_aside (aside_locateStreamWindow _ _) look, rest.1,
        rest.2, List.nil_append, List.append_nil, keys_of_attached ways]
      exact ways

/-- What matters of the end of a stream: a clear exactly when there is a grant. -/
inductive Restored : Option SessionGrant → List PortEvent → Prop
  | nothing : Restored none []
  | cleared {grant result} : Restored (some grant) [⟨.clear, result⟩]

theorem restored_of_restore {grant : Option SessionGrant}
    (run : Traces (restore request grant) trace ()) : Restored grant (keys trace) := by
  cases grant with
  | none =>
      obtain ⟨rfl, _⟩ := run
      exact .nothing
  | some session =>
      obtain ⟨dropped, rest, _, rfl, drop, run⟩ := traces_bind.mp run
      obtain ⟨detached, rest, result, rfl, detach, run⟩ := traces_bind.mp run
      obtain ⟨cleared, _, rfl, sent, _, rfl, detach⟩ := detach
      have told : keys rest = [] := by
        cases result <;> exact keys_of_aside (aside_notify _) run
      rw [keys_append, keys_append, keys_of_aside (aside_call rfl) drop, told]
      cases sent <;> cases cleared <;> obtain ⟨rfl, rfl⟩ := detach <;> exact .cleared

/-! ### The whole connection -/

/-- What matters of a connection is an attach and the end that answers its grant. -/
theorem keys_of_stream {exit : PortResult Int}
    (run : Traces (stream node rounds request pid) trace exit) :
    ∃ grant attached restored, keys trace = attached ++ restored ∧
      Attached request attached grant ∧ Restored grant restored := by
  obtain ⟨attach, rest, grant, rfl, attached, run⟩ := traces_bind.mp run
  obtain ⟨start, rest, _, rfl, started, run⟩ := traces_bind.mp run
  obtain ⟨watch, rest, _, rfl, watched, run⟩ := traces_bind.mp run
  obtain ⟨restore, rest, _, rfl, restored, rfl, rfl⟩ := traces_bind.mp run
  refine ⟨grant, keys attach, keys restore, ?_, attached_of_shortcuts attached,
    restored_of_restore restored⟩
  rw [keys_append, keys_append, keys_append, keys_append,
    keys_of_aside (aside_call rfl) started,
    keys_of_aside (aside_waitForProcessOrMonitor _ _ _ _ _) watched]
  simp [keys]

theorem keys_of_executeWithStarted {result : PortResult Int}
    (run : Traces (executeWithStarted node rounds request).run trace result) :
    ∃ grant attached restored, keys trace = attached ++ restored ∧
      Attached request attached grant ∧ Restored grant restored := by
  obtain ⟨error, rfl, prepared⟩ | ⟨before, rest, launch, rfl, prepared, run⟩ :=
    traces_run_bind.mp run
  · exact ⟨none, [], [], keys_of_aside (aside_prepare _ _) prepared, .skipped, .nothing⟩
  obtain ⟨error, rfl, launched⟩ | ⟨launching, after, pid, rfl, launched, run⟩ :=
    traces_run_bind.mp run
  · refine ⟨none, [], [], ?_, .skipped, .nothing⟩
    rw [keys_append, keys_of_aside (aside_prepare _ _) prepared,
      keys_of_aside (aside_call rfl) launched, List.append_nil]
  · rw [keys_append, keys_append, keys_of_aside (aside_prepare _ _) prepared,
      keys_of_aside (aside_call rfl) launched]
    exact keys_of_stream run

/-- The call installs no keybindings but those of a controller. -/
def ForController (request : PortCall) : Prop :=
  ∀ config, request = .install config → config.role = .controller

theorem forController_of_aside (request : PortCall) (aside : matters request = false) :
    ForController request := by
  rintro config rfl
  cases aside

theorem Aside.forController {α : Type} {program : ConnectM α} (aside : Aside program) :
    Uses ForController program := aside.weaken forController_of_aside

theorem uses_shortcuts : Uses ForController (shortcuts node request pid) := by
  have attach (window : WindowSelector) : Uses ForController (attachSession request window) :=
    uses_attachSession.weaken fun _ uses config installs => (uses.1 config installs).1
  unfold shortcuts
  split
  · exact trivial
  · refine uses_bind (aside_locateStreamWindow _ _).forController fun window => ?_
    refine uses_bind (attach window) ?_
    rintro (error | grant)
    · exact uses_bind (aside_notify _).forController fun _ => trivial
    · refine uses_bind (aside_call rfl).forController fun _ => ?_
      exact uses_bind (aside_notify _).forController fun _ => trivial

theorem uses_restore (grant : Option SessionGrant) : Uses ForController (restore request grant) := by
  cases grant with
  | none => exact trivial
  | some session =>
      refine uses_bind (aside_call rfl).forController fun _ => ?_
      refine uses_bind ⟨nofun, fun cleared => ⟨nofun, fun sent => ?_⟩⟩ fun result => ?_
      · cases sent <;> cases cleared <;> exact trivial
      · cases result <;> exact (aside_notify _).forController

/-- A connection installs keybindings of a controller only. -/
theorem uses_executeWithStarted :
    Uses ForController (executeWithStarted node rounds request).run := by
  unfold executeWithStarted
  refine uses_run_bind (aside_prepare _ _).forController fun launch => ?_
  refine uses_run_bind (aside_call rfl).forController fun pid => ?_
  refine uses_bind uses_shortcuts fun grant => ?_
  refine uses_bind (aside_call rfl).forController fun _ => ?_
  refine uses_bind (aside_waitForProcessOrMonitor _ _ _ _ _).forController fun exit => ?_
  exact uses_bind (uses_restore grant) fun _ => trivial

/-- An attach and its end leave nothing behind exactly when the attach was attended to. -/
theorem restores_ways {attached restored : List PortEvent} {grant : Option SessionGrant}
    (ways : Attached request attached grant) (ends : Restored grant restored) :
    Restores (attached ++ restored) ↔ ∀ event ∈ attached ++ restored, ¬ Unattended event := by
  cases ways with
  | skipped =>
      cases ends
      simp [Restores]
  | failed =>
      cases ends
      simp [Restores, Unattended]
  | refused =>
      cases ends
      simp [Restores, Unattended, attachCommand]
  | ungranted none =>
      cases ends
      simp [Restores, Unattended, attachCommand, none]
  | granted some =>
      cases ends
      simp [Restores, Unattended, attachCommand, some]

/-- A connection whose installs succeed and whose attaches are granted leaves nothing behind. -/
theorem restores_of_attended {result : PortResult Int}
    (run : Traces (executeWithStarted node rounds request).run trace result)
    (attended : ∀ event ∈ trace, ¬ Unattended event) : Restores trace := by
  obtain ⟨grant, attached, restored, split, ways, ends⟩ := keys_of_executeWithStarted run
  rw [← restores_keys, split]
  exact (restores_ways ways ends).mpr (split ▸ (unattended_keys trace).mpr attended)

/-- **The controller's shortcuts are cleared again exactly when** no install failed and no attach
was accepted without a grant. -/
theorem restores_iff {result : PortResult Int}
    (run : Traces (executeWithStarted node rounds request).run trace result) :
    Restores trace ↔ ∀ event ∈ trace, ¬ Unattended event := by
  obtain ⟨grant, attached, restored, split, ways, ends⟩ := keys_of_executeWithStarted run
  rw [← restores_keys, ← unattended_keys, split]
  exact restores_ways ways ends

/-! ### Two connections -/

/-- The entry with which the desk lets the tower call back. -/
def callbackEntry : AllowedController :=
  { tailnetNodeId := "tower", label := none, addedAt := 0,
    capabilities := ControlCapability.callback }

/-- The desk connects to the tower, with its shortcuts. -/
def deskRequest : ConnectRequest where
  endpoint := { address := .v4 100 64 0 2, port := 47900 }
  controllerEndpoint := { address := .v4 100 64 0 1, port := 47900 }
  profile := .default
  fullscreen := true
  inputMode := .remote
  focusWorkspace := none
  focusWindow := none
  autoPair := false

/-- Everything is ready and the stream starts. -/
def launched : List PortEvent :=
  let host : StreamHostDescriptor := { address := .v4 100 64 0 2, application := "Desktop" }
  [⟨.identifySource (.v4 100 64 0 2), .ok (some ⟨"tower", none, none, []⟩)⟩,
    ⟨.listAccess, .ok [callbackEntry]⟩,
    ⟨.sunshineStatus deskRequest.endpoint, .ok ⟨true, true, true, none, true⟩⟩,
    ⟨.pairingState host, .ok .paired⟩,
    ⟨.health deskRequest.controllerEndpoint deskRequest.endpoint, (.ok (), .ok ())⟩,
    ⟨.launch ⟨host, .default, true, .remote⟩, .ok (some 42)⟩]

/-- The shortcuts of the desk for its Moonlight windows. -/
def deskKeybinds : SessionKeybindConfig where
  role := .controller
  controller := none
  window := .byClass moonlightWindowClass

/-- An install that fails is not cleared, though some of it may have taken effect. -/
theorem install_left_behind : ∃ trace result,
    Traces (executeWithStarted ⟨"desk", false⟩ 1 deskRequest).run trace result ∧
      ⟨.install deskKeybinds, .error default⟩ ∈ trace ∧ ¬ Restores trace := by
  let failure : PortError := default
  refine ⟨launched ++ [⟨.install deskKeybinds, .error failure⟩,
    ⟨.notify ⟨"Omdesky", "The stream started, but remote shortcuts are unavailable. " ++
      failure.userMessage⟩, .ok ()⟩,
    ⟨.started (some 42), ()⟩,
    ⟨.watch deskRequest.controllerEndpoint deskRequest.endpoint, .exited (.ok 0)⟩], .ok 0, ?_, ?_, ?_⟩
  · exact ⟨_, _, rfl, _, _, rfl, _, _, rfl, _, _, rfl, _, _, rfl, _, _, rfl, _, _, rfl, _, _, rfl,
      _, _, rfl, _, _, rfl, rfl, rfl⟩
  · exact List.mem_append_right _ List.mem_cons_self
  · simp [Restores, launched]

/-- The grant of the desk. -/
def deskGrant : SessionGrant := ⟨⟨0⟩, 1, 45⟩

/-- What comes after the launch when the shortcuts are granted, and cleared at the end. -/
def granted : List PortEvent :=
  [⟨.install deskKeybinds, .ok ()⟩,
    ⟨attachCommand deskRequest deskKeybinds.window, .ok (.granted deskGrant)⟩,
    ⟨.spawnHeartbeat deskRequest.endpoint deskGrant, ()⟩,
    ⟨.notify ⟨"Omdesky",
      "Remote shortcuts are ready. Press SUPER+R to switch shortcut capture."⟩, .ok ()⟩,
    ⟨.started (some 42), ()⟩,
    ⟨.watch deskRequest.controllerEndpoint deskRequest.endpoint, .exited (.ok 0)⟩,
    ⟨.dropHeartbeat, ()⟩,
    ⟨.clear, .ok ()⟩,
    ⟨.sendCommand deskRequest.endpoint .detachSession (some deskGrant.claim), .ok .done⟩,
    ⟨.notify ⟨"Omdesky", "The stream ended and your local shortcuts were restored."⟩, .ok ()⟩]

theorem traces_granted :
    Traces (executeWithStarted ⟨"desk", false⟩ 1 deskRequest).run (launched ++ granted) (.ok 0) :=
  ⟨_, _, rfl, _, _, rfl, _, _, rfl, _, _, rfl, _, _, rfl, _, _, rfl, _, _, rfl, _, _, rfl,
    _, _, rfl, _, _, rfl, _, _, rfl, _, _, rfl, _, _, rfl, _, _, rfl, _, _, rfl, _, _, rfl,
    rfl, rfl⟩

/-- A connection whose shortcuts were granted, and cleared when its stream ended. -/
theorem restores_iff_granted :
    let session : SessionGrant := ⟨⟨0⟩, 1, 45⟩
    ∃ trace : List PortEvent,
      ⟨.install deskKeybinds, .ok ()⟩ ∈ trace ∧
      ⟨.sendCommand deskRequest.endpoint .detachSession (some session.claim), .ok .done⟩ ∈ trace ∧
      (Restores trace ↔ ∀ event ∈ trace, ¬ Unattended event) :=
  ⟨launched ++ granted, by simp [granted], by simp [granted, deskGrant], restores_iff traces_granted⟩

end Omdesky.Application
