/-
**Which window a stream acts on.**

A stream that is attached acts on the desktop of its controller in three ways: by the keybindings it
installs there, by the keybindings of the remote computer, whose command line comes back to the
controller's agent, and by the task that follows the focus of the remote computer.

* `Installs`: the session that the attach request of a connection installs on the remote agent.
* `Sends`: the commands that come back to the controller's agent.
* `Dispatches`: the texts that a stream makes the controller's Hyprland dispatch, with their cause.
* `selectorsOf_of_dispatches`: the selectors of each text, from its cause. A text has one.
* `dispatches_iff`: a text is dispatched for the address of the stream's own window, and for no other
  window, exactly when its cause is a keybinding. A display switch takes the first Moonlight window
  there is.
-/

import Omdesky.Agent.Api.Handlers
import Omdesky.Application.Connect.Shortcuts
import Omdesky.Application.Display
import Omdesky.Cli.Invocation
import Omdesky.Platform.Input.Selectors

namespace Omdesky.StreamWindow

open Agent Application Cli Interaction Interaction.Program Platform

/-! ### What a stream causes -/

/-- The two agents, how the controller's stream was built, and the JSON decoder there. -/
structure Setting where
  remote : AgentConfig
  controller : AgentConfig
  debugAssertions : Bool
  decode : String → Except String (Option String)

/-- What makes a stream act on its controller. -/
inductive Cause
  | controllerKeybind
  | remoteKeybind
  | followFocus
  deriving DecidableEq, Repr

section Causes

variable (setting : Setting) (request : ConnectRequest) (window : WindowSelector)

/-- A connection that attaches with this window makes the call, with this answer. -/
def Calls (event : Event PortCall PortAnswer) : Prop :=
  ∃ trace grant, Traces (attachSession request window) trace grant ∧ event ∈ trace

/-- The remote agent installs the session for the attach request of the connection. -/
def Installs (session : ActiveSession) : Prop :=
  ∃ endpoint command claim sent source body trace reply installed,
    Calls request window ⟨.sendCommand endpoint command claim, sent⟩ ∧ body.command = command ∧
      Traces (runCommand setting.remote source (some body)).run trace reply ∧
        ⟨.session (.install session), installed⟩ ∈ trace

/-- What the session on the remote agent sends to the controller's agent: the command of a
keybinding's line, or of a display switch that its router decides on. The redirections behind the line
are not part of it. -/
inductive Sends : Cause → RemoteCommand → Prop
  | keybind {session : ActiveSession} {controller endpoint : AgentEndpoint} {bind : Keybind}
      {line : String} {words : List String} {action : CommandAction} {command : RemoteCommand}
      {trace : List (Event CliCall CliAnswer)} {result : Except CliError Unit}
      {answer : PortResult CommandResponse} (installs : Installs setting request window session)
      (calls : session.controller = some controller)
      (member : bind ∈ sessionKeybinds session.keybinds.window)
      (invoked : commandCliInvocation bind.command controller = some line)
      (read : Shell.words line = some ("omdesky" :: "command" :: words))
      (parsed : CommandAction.parse words = some action)
      (ran : Traces (remoteCommand action).run trace result)
      (sent : ⟨.sendCommand endpoint command, answer⟩ ∈ trace) : Sends .remoteKeybind command
  | followFocus {session : ActiveSession} {debounce : Duration} {turns : Nat}
      {trace : List (Event FollowFocus.RouterCall FollowFocus.RouterAnswer)}
      {state : FollowFocus.RoutingState} {display : DisplayId} {answer : PortResult Unit}
      {command : RemoteCommand} (installs : Installs setting request window session)
      (ran : Traces (FollowFocus.run debounce turns) trace state)
      (switches : ⟨.switchDisplay display, answer⟩ ∈ trace)
      (sent : switchDisplayCommand display = .ok command) : Sends .followFocus command

/-- The text is dispatched on the controller: as the action of a keybinding there, or for a command
that its agent executes. -/
inductive Dispatches : Cause → String → Prop
  | keybind {config : SessionKeybindConfig} {installed : PortResult Unit} {bind : Bind}
      (calls : Calls request window ⟨.install config, installed⟩)
      (member : bind ∈ sessionBinds setting.debugAssertions config) :
      Dispatches .controllerKeybind bind.action
  | command {cause : Cause} {source : SocketAddr} {body : CommandRequest}
      {events : List AgentEvent} {reply : Except ApiError ApiReply} {executed : RemoteCommand}
      {answer : PortResult Unit} {trace : List (Event HyprctlCall HyprctlAnswer)}
      {result : PortResult Unit} {call : Event HyprctlCall HyprctlAnswer} {text : String}
      (sends : Sends setting request window cause body.command)
      (handled : Traces (runCommand setting.controller source (some body)).run events reply)
      (executes : ⟨.execute executed, answer⟩ ∈ events)
      (ran : Traces (execute setting.decode executed).run trace result) (member : call ∈ trace)
      (dispatched : call.1.dispatched = some text) : Dispatches cause text

end Causes

/-! ### The way of the window -/

section Path

variable {setting : Setting} {request : ConnectRequest} {window : WindowSelector}

/-- What a command asks besides its own application is unprotected. -/
theorem uses_runCommand {permitted : AgentRequest → Prop} {config : AgentConfig}
    {source : SocketAddr} {body : CommandRequest} (free : ∀ use, ¬ Protected use → permitted use)
    (applies : ∀ peer, Uses permitted (applyCommand config peer source body).run) :
    Uses permitted (runCommand config source (some body)).run := by
  unfold runCommand
  refine uses_run_bind (uses_orFail (uses_onAuthorizer (fun _ => free _ id) _)) fun peer => ?_
  refine uses_check_bind fun _ _ => ?_
  refine uses_run_bind (uses_orFail ⟨free _ id, fun _ => trivial⟩) fun _ => ?_
  exact uses_run_bind (applies peer) fun _ => trivial

/-- An attach request installs a session for its window. -/
theorem uses_attachCommand {config : AgentConfig} {source : SocketAddr} {body : CommandRequest}
    {role : SessionRole} {controller : Option SessionEndpoint}
    (attaches : body.command = .attachSession role controller (some window)) :
    Uses (fun use => ∀ session, use = .session (.install session) → session.window = window)
      (runCommand config source (some body)).run := by
  refine uses_runCommand ?_ fun peer => ?_
  · rintro _ unprotected session rfl
    exact absurd trivial unprotected
  · have control : (RemoteCommand.attachSession role controller (some window)).isSessionControl = true :=
      rfl
    unfold applyCommand
    rw [attaches, if_pos control]
    refine uses_run_bind ((uses_checkController source controller).weaken ?_) fun target => ?_
    · rintro _ unprotected session rfl
      exact absurd trivial unprotected
    · refine uses_run_bind (uses_orFail (Uses.within ?_)) fun _ => trivial
      refine (uses_attach config.lease peer.tailnetNodeId role target window).weaken ?_
      rintro use installs session ⟨⟩
      exact (installs session rfl).2.1

theorem window_of_installs {session : ActiveSession} (installs : Installs setting request window session) :
    session.window = window := by
  obtain ⟨_, _, _, _, _, _, _, _, _, ⟨_, _, attached, called⟩, rfl, handled, installed⟩ := installs
  obtain ⟨controller, attaches⟩ := (uses_attachSession.of_traces attached _ called).2 _ _ _ rfl
  exact (uses_attachCommand attaches).of_traces handled _ installed _ rfl

/-- A command that controls no session is executed as it is, or as the shortcut of its display. -/
theorem uses_otherCommand {config : AgentConfig} {source : SocketAddr} {body : CommandRequest}
    (other : body.command.isSessionControl = false) :
    Uses (fun use => ∀ executed, use = .execute executed →
        executed = body.command ∨ ∃ display chord, body.command = .switchStreamDisplay display ∧
          executed = .sendShortcut chord (.byClass moonlightWindowClass))
      (runCommand config source (some body)).run := by
  refine uses_runCommand ?_ fun peer => ?_
  · rintro _ unprotected executed rfl
    exact absurd trivial unprotected
  · unfold applyCommand
    rw [if_neg (by rw [other]; decide)]
    refine uses_run_bind (uses_bind (Uses.within (uses_snapshot.weaken ?_)) fun _ => trivial) ?_
    · exact fun _ _ => nofun
    · refine uses_routeCommand ?_ ?_ ?_ ?_
      · exact fun _ => nofun
      · exact fun _ => nofun
      · rintro executed suits _ ⟨⟩
        exact suits
      · exact fun _ => nofun

/-- **What comes back to the controller**: the line of a keybinding keeps the window, and a display
switch has none. -/
theorem window_of_sends {cause : Cause} {command : RemoteCommand} {address : String}
    (handle : isWindowAddress address = true)
    (sends : Sends setting request (.address address) cause command) :
    cause = .remoteKeybind ∧ windowOf command = some (.address address) ∨
      cause = .followFocus ∧ ∃ display, command = .switchStreamDisplay display := by
  cases sends with
  | keybind installs calls member invoked read parsed ran sent =>
      have same : _ = WindowSelector.address address := window_of_installs installs
      have accepted := validate_address_iff.mpr handle
      have keeps := window_of_invocation accepted (same ▸ member) invoked read parsed
      exact .inl ⟨rfl, ((uses_remoteCommand _).of_traces ran _ sent _ _ rfl).trans keeps⟩
  | followFocus installs ran switches sent =>
      refine .inr ⟨rfl, ?_⟩
      unfold switchDisplayCommand at sent
      split at sent
      · cases sent
      · exact ⟨_, (Except.ok.inj sent).symm⟩

theorem other_of_windowOf {command : RemoteCommand} (acts : windowOf command = some window) :
    command.isSessionControl = false := by
  cases command with
  | sendShortcut chord selector => rfl
  | closeWindow selector => rfl
  | _ => cases acts

/-- The selector that a cause dispatches with, for the stream of the window with this address. -/
def Cause.selector (address : String) : Cause → String
  | .controllerKeybind | .remoteKeybind => "address:" ++ address
  | .followFocus => "class:" ++ moonlightWindowClass

/-- **Every dispatch of a stream** is for one window: keybindings keep the stream's own, and a display
switch is for the first window of the class. -/
theorem selectorsOf_of_dispatches {cause : Cause} {text address : String}
    (handle : isWindowAddress address = true)
    (dispatches : Dispatches setting request (.address address) cause text) :
    selectorsOf text = [cause.selector address] := by
  have accepted := validate_address_iff.mpr handle
  cases dispatches with
  | keybind calls member =>
      obtain ⟨_, _, attached, called⟩ := calls
      obtain ⟨role, window⟩ := (uses_attachSession.of_traces attached _ called).1 _ rfl
      obtain ⟨bind, listed, acts⟩ := keybind_of_mem_sessionBinds role member
      exact selectorsOf_controllerActionLua (window ▸ listed) acts (quoted_of_validate accepted)
  | command sends handled executes ran member dispatched =>
      rcases window_of_sends handle sends with ⟨rfl, keeps⟩ | ⟨rfl, display, switch⟩
      · rcases (uses_otherCommand (other_of_windowOf keeps)).of_traces handled _ executes _ rfl with
          rfl | ⟨_, _, switch, _⟩
        · exact (uses_execute keeps fun same => by cases same).of_traces ran _ member _ dispatched
        · rw [switch] at keeps
          cases keeps
      · have other : _ = false := congrArg RemoteCommand.isSessionControl switch
        rcases (uses_otherCommand other).of_traces handled _ executes _ rfl with
          rfl | ⟨_, chord, _, rfl⟩
        · have unaimed : _ = none := congrArg windowOf switch
          exact ((uses_execute_none unaimed).of_traces ran _ member).elim
        · have shortcut : windowOf (.sendShortcut chord (.byClass moonlightWindowClass)) =
              some (.byClass moonlightWindowClass) := rfl
          exact (uses_execute shortcut fun same => by cases same).of_traces ran _ member _ dispatched

/-- A class is no address. -/
theorem Cause.selector_eq_iff {cause : Cause} {address : String} :
    cause.selector address = "address:" ++ address ↔ cause ≠ .followFocus := by
  cases cause with
  | controllerKeybind => exact iff_of_true rfl nofun
  | remoteKeybind => exact iff_of_true rfl nofun
  | followFocus =>
      refine iff_of_false (fun same => ?_) (absurd rfl)
      have first := congrArg (fun text : String => text.toList.head?) same
      simp [Cause.selector] at first

/-- **A stream dispatches with the address of its own window**, and with no other, exactly when a
keybinding is the cause. -/
theorem dispatches_iff {cause : Cause} {text address : String} (handle : isWindowAddress address = true)
    (dispatches : Dispatches setting request (.address address) cause text) :
    selectorsOf text = ["address:" ++ address] ↔ cause ≠ .followFocus := by
  rw [selectorsOf_of_dispatches handle dispatches, List.singleton_inj, Cause.selector_eq_iff]

end Path

/-! ### Two windows -/

/-- Two agents as they are started by default, and a decoder that finds the window `0x2a`. -/
private def twoDesks : Setting where
  remote := deskConfig
  controller := deskConfig
  debugAssertions := false
  decode := fun _ => .ok (some "0x2a")

/-- A connection from one computer to the other. -/
private def deskRequest : ConnectRequest where
  endpoint := { address := .v4 100 64 0 2, port := 47900 }
  controllerEndpoint := { address := .v4 100 64 0 1, port := 47900 }
  profile := .default
  fullscreen := true
  inputMode := .remote
  focusWorkspace := none
  focusWindow := none
  autoPair := false

private theorem calls_attach : Calls deskRequest (.address "0x1f") ⟨.sendCommand deskRequest.endpoint
    (.attachSession .remote (some ⟨.v4 100 64 0 1, 47900⟩) (some (.address "0x1f"))) none,
      .ok (.granted ⟨⟨1⟩, 1, 45⟩)⟩ :=
  ⟨_, .ok ⟨⟨1⟩, 1, 45⟩, ⟨.ok (), _, rfl, .ok (.granted ⟨⟨1⟩, 1, 45⟩), _, rfl, rfl, rfl⟩,
    List.mem_cons_of_mem _ List.mem_cons_self⟩

/-- The other computer may use every capability. -/
private def otherDesk : AllowedController := ⟨"other", none, 0, ControlCapability.all⟩

/-- The other computer is authorized for whatever it asks. -/
private theorem authorizes {address : IpAddr} (inside : isTailscaleAddress address = true)
    (required : ControlCapability) :
    ∃ asked, Traces (authorize true address required) asked (.ok ⟨"other", ControlCapability.all⟩) := by
  have identified : Traces (authenticate true address)
      [⟨.limit address, true⟩, ⟨.instant, (0 : Nat)⟩, ⟨.cachedIdentity address, some ⟨"other", 0⟩⟩,
        ⟨.instant, (0 : Nat)⟩, ⟨.cachedAllowlist, some ⟨[otherDesk], 0⟩⟩]
      (.ok ⟨"other", ControlCapability.all⟩) := by
    unfold authenticate
    rw [inside]
    exact ⟨true, _, rfl, _, _, rfl, _, _, rfl, _, _, rfl, _, _, rfl, rfl, rfl⟩
  refine ⟨_, traces_bind.mpr ⟨_, [], _, (List.append_nil _).symm, identified, ?_⟩⟩
  cases required <;> exact ⟨rfl, rfl⟩

/-- A command of the other computer is applied. -/
private theorem handles {source : SocketAddr} {body : CommandRequest} {response : CommandResponse}
    {applied : List AgentEvent} (inside : isTailscaleAddress source.ip = true)
    (valid : body.command.validate = .ok ())
    (run : Traces (applyCommand deskConfig ⟨"other", ControlCapability.all⟩ source body).run applied
      (.ok response)) :
    ∃ before, Traces (runCommand deskConfig source (some body)).run (before ++ applied)
      (.ok (.command response)) := by
  obtain ⟨asked, authorized⟩ := authorizes inside body.command.requiredCapability
  refine ⟨asked.map (fun event => ⟨.authorizer event.1, event.2⟩) ++
    [⟨.admitRequest body.requestId body.issuedAt, .ok ()⟩], ?_⟩
  rw [List.append_assoc]
  refine traces_run_bind.mpr (.inr ⟨_, _, _, rfl, traces_orFail.mpr (traces_within.mpr
    ⟨_, rfl, authorized⟩), ?_⟩)
  refine traces_run_bind.mpr (.inr ⟨[], _, (), rfl, traces_check.mpr ⟨rfl, valid⟩, ?_⟩)
  refine traces_run_bind.mpr (.inr ⟨_, _, (), rfl, traces_orFail.mpr ⟨.ok (), [], rfl, rfl, rfl⟩, ?_⟩)
  exact traces_run_bind.mpr (.inr ⟨applied, [], response, (List.append_nil _).symm, run, rfl, rfl⟩)

/-- The session of the other computer for the stream's window. -/
private def shownSession : ActiveSession where
  id := ⟨1⟩
  generation := 1
  owner := "other"
  role := .remote
  controller := some ⟨.v4 100 64 0 1, 47900⟩
  window := .address "0x1f"

private theorem installs_attach : Installs twoDesks deskRequest (.address "0x1f") shownSession := by
  let body : CommandRequest := ⟨.attachSession .remote (some ⟨.v4 100 64 0 1, 47900⟩)
    (some (.address "0x1f")), none, 0, 0⟩
  have valid : body.command.validate = .ok () := by decide
  have applied : Traces (applyCommand deskConfig ⟨"other", ControlCapability.all⟩
      ⟨.v4 100 64 0 1, 51234⟩ body).run _ (.ok (.granted ⟨⟨1⟩, 1, 45⟩)) :=
    ⟨.ok ControlCapability.callback, _, rfl, .new, _, rfl, (0 : Nat), _, rfl, (), _, rfl, ⟨1⟩, _, rfl,
      .ok (), _, rfl, .ok (), _, rfl, (), _, rfl, rfl, rfl⟩
  obtain ⟨before, handled⟩ := @handles ⟨.v4 100 64 0 1, 51234⟩ body _ _ (by decide) valid applied
  refine ⟨_, _, _, _, _, body, _, _, .ok (), calls_attach, rfl, handled, ?_⟩
  exact List.mem_append_right _ (.tail _ (.tail _ (.tail _ (.tail _ (.tail _ (.tail _ (.head _)))))))

/-! ### A display switch -/

/-- The displays of the other computer, the second of which has the focus. -/
private def otherDisplays : List Display :=
  [⟨"DP-1", "", 1920, 1080, false⟩, ⟨"DP-2", "", 1920, 1080, true⟩]

private theorem sends_switch : Sends twoDesks deskRequest (.address "0x1f") .followFocus
    (.switchStreamDisplay ⟨"DP-2"⟩) := by
  have routed : Traces (FollowFocus.run 0 2) _ _ :=
    ⟨.ok ⟨"DP-1"⟩, _, rfl, .signal, _, rfl, .ok ⟨[⟨"DP-1"⟩, ⟨"DP-2"⟩], some ⟨"DP-2"⟩⟩, _, rfl,
      (0 : Nat), _, rfl, .elapsed, _, rfl, .ok (), _, rfl, rfl, rfl⟩
  refine .followFocus installs_attach routed (.tail _ (.tail _ (.tail _ (.tail _ (.tail _ (.head _)))))) ?_
  decide

/-- The shortcut of the second display. -/
private def secondDisplay : RemoteCommand :=
  .sendShortcut ⟨[.ctrl, .alt, .shift], "F2"⟩ (.byClass moonlightWindowClass)

private theorem switches : Traces (switchDisplayHere deskConfig ⟨.v4 100 64 0 2, 51234⟩ ⟨"DP-2"⟩).run
    [⟨.remoteDisplays ⟨.v4 100 64 0 2, 47900⟩, .ok otherDisplays⟩, ⟨.execute secondDisplay, .ok ()⟩]
    (.ok .done) := by
  have resolved : resolveDisplaySwitchShortcut otherDisplays ⟨"DP-2"⟩ = .ok secondDisplay := by
    decide
  refine traces_run_bind.mpr (.inr ⟨[], _, (), rfl, ⟨rfl, rfl⟩, ?_⟩)
  refine traces_run_bind.mpr (.inr ⟨[_], _, otherDisplays, rfl, traces_orFail.mpr ⟨_, [], rfl, rfl, rfl⟩, ?_⟩)
  refine traces_run_bind.mpr (.inr ⟨[], _, secondDisplay, rfl, traces_check.mpr ⟨rfl, resolved⟩, ?_⟩)
  exact ⟨.ok (), [], rfl, rfl, rfl⟩

/-- A call that prints nothing succeeds. -/
private theorem runs_quietly (args : List String) :
    Traces (runHyprland args).run [⟨⟨args⟩, .ok ⟨"", ""⟩⟩] (.ok "") := by
  have found : (contains ("" ++ "\n" ++ "") "window not found" ||
      contains ("" ++ "\n" ++ "") "not found") = false := by decide
  refine ⟨.ok ⟨"", ""⟩, [], rfl, ?_⟩
  dsimp only [Program.bind]
  rw [if_neg (by rw [found]; decide)]
  exact ⟨rfl, rfl⟩

private theorem executes_second : ∃ text, Traces (execute twoDesks.decode secondDisplay).run
    [⟨⟨["activewindow", "-j"]⟩, .ok ⟨"", ""⟩⟩, ⟨⟨["eval", text]⟩, .ok ⟨"", ""⟩⟩] (.ok ()) := by
  have valid : secondDisplay.validate = .ok () := by decide
  have active : activeWindowAddress twoDesks.decode "" = .ok "0x2a" := by decide
  have previous : Traces (previousWindow twoDesks.decode (.byClass moonlightWindowClass)).run
      [⟨⟨["activewindow", "-j"]⟩, .ok ⟨"", ""⟩⟩] (.ok (some "0x2a")) := by
    refine traces_run_bind.mpr (.inr ⟨_, [], "", rfl, runs_quietly _, ?_⟩)
    exact traces_run_bind.mpr (.inr ⟨[], [], "0x2a", rfl, ⟨rfl, active.symm⟩, rfl, rfl⟩)
  refine ⟨timedShortcutLua ⟨[.ctrl, .alt, .shift], "F2"⟩ (.byClass moonlightWindowClass) (some "0x2a"),
    ?_⟩
  unfold Platform.execute
  rw [valid]
  refine traces_run_bind.mpr (.inr ⟨[], _, (), rfl, ⟨rfl, rfl⟩, ?_⟩)
  refine traces_run_bind.mpr (.inr ⟨[_], _, some "0x2a", rfl, previous, ?_⟩)
  exact traces_run_bind.mpr (.inr ⟨_, [], "", (List.append_nil _).symm, runs_quietly _, rfl, rfl⟩)

/-- The address the other computer's commands come from. -/
private def otherSource : SocketAddr := ⟨.v4 100 64 0 2, 51234⟩

/-- A command that the other computer sends is dispatched where it is executed. -/
private theorem dispatches_of_applied {cause : Cause} {body : CommandRequest} {executed : RemoteCommand}
    {text : String} {response : CommandResponse} {applied : List AgentEvent}
    {calls : List (Event HyprctlCall HyprctlAnswer)} {call : Event HyprctlCall HyprctlAnswer}
    (sends : Sends twoDesks deskRequest (.address "0x1f") cause body.command)
    (valid : body.command.validate = .ok ())
    (run : Traces (applyCommand deskConfig ⟨"other", ControlCapability.all⟩ otherSource body).run applied
      (.ok response)) (executes : (⟨.execute executed, .ok ()⟩ : AgentEvent) ∈ applied)
    (ran : Traces (execute twoDesks.decode executed).run calls (.ok ())) (member : call ∈ calls)
    (dispatched : call.1.dispatched = some text) :
    Dispatches twoDesks deskRequest (.address "0x1f") cause text := by
  obtain ⟨before, handled⟩ := handles (by decide) valid run
  exact .command sends handled (List.mem_append_right _ executes) ran member dispatched

private theorem dispatches_switch :
    ∃ text, Dispatches twoDesks deskRequest (.address "0x1f") .followFocus text := by
  let body : CommandRequest := ⟨.switchStreamDisplay ⟨"DP-2"⟩, none, 1, 0⟩
  have valid : body.command.validate = .ok () := by decide
  have applied : Traces (applyCommand deskConfig ⟨"other", ControlCapability.all⟩ otherSource body).run
      _ (.ok .done) :=
    traces_run_bind.mpr (.inr ⟨[⟨.session .lock, .new⟩, ⟨.session .instant, (0 : Nat)⟩], _, none, rfl,
      ⟨_, _, rfl, _, _, rfl, rfl, rfl⟩, switches⟩)
  obtain ⟨text, executed⟩ := executes_second
  exact ⟨text, @dispatches_of_applied _ body _ _ _ _ _ _ sends_switch valid applied
    (.tail _ (.tail _ (.tail _ (.head _)))) executed (.tail _ (.head _)) rfl⟩

/-- **A display switch is for any stream**: it is dispatched with the class of every Moonlight window. -/
theorem switch_by_class : ¬ ∀ (setting : Setting) (request : ConnectRequest) (address text : String)
    (cause : Cause), isWindowAddress address = true →
      Dispatches setting request (.address address) cause text →
        selectorsOf text = ["address:" ++ address] := by
  intro claim
  have handle : isWindowAddress "0x1f" = true := by decide
  obtain ⟨text, dispatches⟩ := dispatches_switch
  have own := claim _ _ _ _ _ handle dispatches
  rw [selectorsOf_of_dispatches handle dispatches, List.singleton_inj] at own
  exact Cause.selector_eq_iff.mp own rfl

/-! ### A keybinding of the other computer -/

/-- The keybinding of the other computer that closes the stream's window. -/
private def closing : RemoteCommand := .closeWindow (.address "0x1f")

private theorem sends_closing :
    Sends twoDesks deskRequest (.address "0x1f") .remoteKeybind closing := by
  have member : ⟨"SUPER + Q", "close remote session", closing, true⟩ ∈
      sessionKeybinds (.address "0x1f") := .tail _ (.head _)
  have read : Shell.words "omdesky command close-window 100.64.0.1 --port 47900 --window-address 0x1f" =
      some ["omdesky", "command", "close-window", "100.64.0.1", "--port", "47900", "--window-address",
        "0x1f"] := by decide +kernel
  have parsed : CommandAction.parse ["close-window", "100.64.0.1", "--port", "47900",
      "--window-address", "0x1f"] = some (.closeWindow "100.64.0.1" none (some "0x1f") (some 47900)) := by
    decide
  have invoked : commandCliInvocation closing ⟨.v4 100 64 0 1, 47900⟩ =
      some "omdesky command close-window 100.64.0.1 --port 47900 --window-address 0x1f" := by
    decide
  have target : IpAddr.parse "100.64.0.1" = some (.v4 100 64 0 1) := by decide
  have valid : closing.validate = .ok () := by decide
  have ran : Traces (remoteCommand (.closeWindow "100.64.0.1" none (some "0x1f") (some 47900))).run
      [⟨.sendCommand ⟨.v4 100 64 0 1, 47900⟩ closing, .ok .done⟩, ⟨.println "ok", ()⟩] (.ok ()) := by
    have found : Traces (endpointOf "100.64.0.1" (some 47900)).run [] (.ok ⟨.v4 100 64 0 1, 47900⟩) := by
      unfold endpointOf
      rw [target]
      exact ⟨rfl, rfl⟩
    refine traces_run_bind.mpr (.inr ⟨[], _, ⟨.v4 100 64 0 1, 47900⟩, rfl, found, ?_⟩)
    refine traces_run_bind.mpr (.inr ⟨[], _, (), rfl, ⟨rfl, ?_⟩, ?_⟩)
    · exact (congrArg (Except.mapError _) valid).symm
    · exact ⟨.ok .done, _, rfl, (), _, rfl, rfl, rfl⟩
  exact .keybind installs_attach rfl member invoked read parsed ran List.mem_cons_self

private theorem executes_closing : Traces (execute twoDesks.decode closing).run
    [⟨⟨["--batch", "eval hl.dispatch(hl.dsp.window.close(\x7b window = \"address:0x1f\" \x7d))"]⟩,
      .ok ⟨"", ""⟩⟩] (.ok ()) := by
  have valid : closing.validate = .ok () := by decide
  have batch : hyprctlBatchArgument ["hl.dsp.window.close(\x7b window = \"address:0x1f\" \x7d)"] =
      "eval hl.dispatch(hl.dsp.window.close(\x7b window = \"address:0x1f\" \x7d))" := by decide
  unfold Platform.execute
  rw [valid]
  refine traces_run_bind.mpr (.inr ⟨[], _, (), rfl, ⟨rfl, rfl⟩, ?_⟩)
  refine traces_run_bind.mpr (.inr ⟨[_], [], "", rfl, ?_, rfl, rfl⟩)
  rw [← batch]
  exact runs_quietly _

/-- The keybinding of the other computer closes the stream's own window. -/
theorem dispatches_iff_closing :
    selectorsOf "eval hl.dispatch(hl.dsp.window.close(\x7b window = \"address:0x1f\" \x7d))" =
      ["address:" ++ "0x1f"] := by
  let body : CommandRequest := ⟨closing, none, 1, 0⟩
  have valid : body.command.validate = .ok () := by decide
  have handle : isWindowAddress "0x1f" = true := by decide
  have applied : Traces (applyCommand deskConfig ⟨"other", ControlCapability.all⟩ otherSource body).run
      _ (.ok .done) :=
    ⟨.new, _, rfl, (0 : Nat), _, rfl, .ok (), _, rfl, .ok (), _, rfl, rfl, rfl⟩
  have dispatches : Dispatches twoDesks deskRequest (.address "0x1f") .remoteKeybind _ :=
    @dispatches_of_applied _ body _ _ _ _ _ _ sends_closing valid applied
      (.tail _ (.tail _ (.head _))) executes_closing (.head _) rfl
  exact (dispatches_iff handle dispatches).mpr nofun

end Omdesky.StreamWindow
