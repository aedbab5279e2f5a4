/-
**The keybindings of a session (`omdesky-platform/src/input.rs`).**

Both roles install their keybindings with a Lua program that Hyprland evaluates, and both keep them
in one global, `_G.omdesky_binds`.

* `sessionKeybinds`, `controllerActionLua`, `remoteActionLua`: the keybindings and what they do.
* `installProgram`, `removeProgram`: the two Lua programs, with their texts (`installSpec`,
  `removeSpec`).
* `LuaState.run`: what the programs do to the keybindings of a compositor.
* `Hyprland`: a compositor in which the global lists every keybinding there is. Installing leaves
  exactly the new keybindings, and clearing leaves none.
-/

import Omdesky.Ports

namespace Omdesky.Platform

/-! ### The keybindings of a session -/

/-- `Keybind`. -/
structure Keybind where
  trigger : String
  description : String
  command : RemoteCommand
  allowInputCapture : Bool
  deriving DecidableEq, Repr

/-- `capture_toggle_chord`. -/
def captureToggleChord : KeyChord := { mods := [.ctrl, .alt, .shift], key := "Z" }

example : KeyChord.new [.ctrl, .alt, .shift] "Z" = .ok captureToggleChord := by decide

/-- `session_keybinds`. -/
def sessionKeybinds (window : WindowSelector) : List Keybind :=
  [{ trigger := "SUPER + R"
     description := "toggle remote shortcut capture"
     command := .sendShortcut captureToggleChord window
     allowInputCapture := true },
   { trigger := "SUPER + Q"
     description := "close remote session"
     command := .closeWindow window
     allowInputCapture := true }]

/-! ### Their actions -/

/-- `focus_dispatcher`. -/
def focusDispatcher (window : WindowSelector) : String :=
  "hl.dsp.focus(\x7b window = \"" ++ window.asHypr ++ "\" \x7d)"

/-- `modifier_key`. -/
def modifierKey : KeyModifier → String
  | .super => "Super_L"
  | .ctrl => "Control_L"
  | .alt => "Alt_L"
  | .shift => "Shift_L"

/-- The dispatcher of one key event, with its modifiers. -/
def sendKeyState (mods key state : String) : String :=
  "hl.dsp.send_key_state(\x7b mods = \"" ++ mods ++ "\", key = \"" ++ key ++ "\", state = \"" ++
    state ++ "\" \x7d)"

/-- `key_state_dispatcher`. -/
def keyStateDispatcher (key state : String) : String := sendKeyState "" key state

/-- `shortcut_key_dispatchers`. -/
def shortcutKeyDispatchers (chord : KeyChord) : List String :=
  chord.mods.map (fun modifier => keyStateDispatcher (modifierKey modifier) "down") ++
    [keyStateDispatcher chord.key "down", keyStateDispatcher chord.key "up"] ++
    chord.mods.reverse.map fun modifier => keyStateDispatcher (modifierKey modifier) "up"

/-- `command_actions`. -/
def commandActions (command : RemoteCommand) (heldModifiers : List KeyModifier) :
    Option (List String) :=
  match command with
  | .sendShortcut chord window =>
      let released := heldModifiers.filter fun modifier => !chord.mods.contains modifier
      some (focusDispatcher window ::
        released.map (fun modifier => keyStateDispatcher (modifierKey modifier) "up") ++
          shortcutKeyDispatchers chord)
  | .closeWindow window =>
      some ["hl.dsp.window.close(\x7b window = \"" ++ window.asHypr ++ "\" \x7d)"]
  | .switchStreamDisplay _ | .attachSession _ _ _ | .detachSession | .renewSession => none

/-- `hyprctl_batch_argument`. -/
def hyprctlBatchArgument (dispatchers : List String) : String :=
  " ; ".intercalate (dispatchers.map fun dispatcher => "eval hl.dispatch(" ++ dispatcher ++ ")")

/-- `debug_notify`. -/
def debugNotify (message : String) : String :=
  "hl.dispatch(hl.dsp.exec_cmd(\"omarchy-notification-send 'Omdesky debug' '" ++ message ++ "'\"))"

/-- The action of `controller_action_lua`, before a debug build adds its notice. -/
def controllerAction (command : RemoteCommand) : Option String :=
  match command with
  | .sendShortcut chord window =>
      some ("function() hl.timer(function() hl.dispatch(" ++ focusDispatcher window ++
        "); hl.dispatch(" ++ sendKeyState chord.modifiersHypr chord.key "down" ++
        "); hl.timer(function() hl.dispatch(" ++ sendKeyState chord.modifiersHypr chord.key "up" ++
        ") end, \x7b timeout = 50, type = \"oneshot\" \x7d) end, " ++
        "\x7b timeout = 100, type = \"oneshot\" \x7d) end")
  | .closeWindow _ => do
      let actions ← commandActions command []
      return "function() hl.dispatch(hl.dsp.exec_cmd([==[hyprctl --batch '" ++
        hyprctlBatchArgument actions ++ "']==])) end"
  | .switchStreamDisplay _ | .attachSession _ _ _ | .detachSession | .renewSession => none

/-- `controller_action_lua`. -/
def controllerActionLua (debugAssertions : Bool) (bind : Keybind) : Option String := do
  let action ← controllerAction bind.command
  if debugAssertions then
    return "function() (" ++ action ++ ")(); " ++ debugNotify bind.description ++ " end"
  return action

/-- `window_cli_argument`. -/
def windowCliArgument : WindowSelector → String
  | .byClass name => " --window-class " ++ name
  | .address value => " --window-address " ++ value
  | .activeWindow => ""

/-- `command_cli_invocation`. -/
def commandCliInvocation (command : RemoteCommand) (endpoint : AgentEndpoint) : Option String :=
  let target := endpoint.address.display ++ " --port " ++ toString endpoint.port.toNat
  match command with
  | .sendShortcut chord window =>
      some ("omdesky command send-shortcut " ++ target ++ " --mods '" ++ chord.modifiersHypr ++
        "' --key " ++ chord.key ++ windowCliArgument window)
  | .closeWindow window =>
      some ("omdesky command close-window " ++ target ++ windowCliArgument window)
  | .switchStreamDisplay _ | .attachSession _ _ _ | .detachSession | .renewSession => none

/-- `remote_action_lua`. -/
def remoteActionLua (debugAssertions : Bool) (bind : Keybind) (controller : AgentEndpoint) :
    Option String := do
  let invocation ← commandCliInvocation bind.command controller
  let shell := if debugAssertions then
      invocation ++ " >/dev/null 2>&1 || " ++
        "omarchy-notification-send 'Omdesky debug' 'Could not send the remote shortcut'"
    else invocation ++ " >/dev/null 2>&1"
  return "hl.dsp.exec_cmd(\"" ++ shell ++ "\")"

/-! ### The Lua programs -/

/-- The arguments of one `hl.bind`. -/
structure Bind where
  trigger : String
  action : String
  capture : Bool
  description : String
  deriving DecidableEq, Repr

/-- The keybindings that `install_session_keybinds_spec` registers for a configuration. -/
def sessionBinds (debugAssertions : Bool) (config : SessionKeybindConfig) : List Bind :=
  (sessionKeybinds config.window).filterMap fun bind => do
    let action ← match config.role with
      | .controller => controllerActionLua debugAssertions bind
      | .remote => config.controller.bind (remoteActionLua debugAssertions bind)
    return { trigger := bind.trigger, action, description := bind.description
             capture := config.role == .remote && bind.allowInputCapture }

/-- A statement of the programs. -/
inductive LuaStatement
  | removeAll
  | reset
  | forget
  | insert (bind : Bind)
  deriving DecidableEq, Repr

/-- `BINDS_GLOBAL`. -/
def bindsGlobal : String := "_G.omdesky_binds"

/-- The text of a statement. -/
def LuaStatement.text : LuaStatement → String
  | .removeAll =>
      "if " ++ bindsGlobal ++ " then for _, b in ipairs(" ++ bindsGlobal ++ ") do b:remove() end end"
  | .reset => bindsGlobal ++ " = \x7b\x7d"
  | .forget => bindsGlobal ++ " = nil"
  | .insert bind =>
      "table.insert(" ++ bindsGlobal ++ ", hl.bind(\"" ++ bind.trigger ++ "\", " ++ bind.action ++
        ", \x7b allow_input_capture = " ++ toString bind.capture ++ ", description = \"Omdesky: " ++
        bind.description ++ "\" \x7d))"

/-- A program as the arguments of `hyprctl`. -/
def hyprctlEval (program : List LuaStatement) : List String :=
  ["eval", "; ".intercalate (program.map LuaStatement.text)]

/-- The program of `install_session_keybinds_spec`. -/
def installProgram (debugAssertions : Bool) (config : SessionKeybindConfig) : List LuaStatement :=
  .removeAll :: .reset :: (sessionBinds debugAssertions config).map .insert

/-- The program of `remove_session_keybinds_spec`. -/
def removeProgram : List LuaStatement := [.removeAll, .forget]

/-- `install_session_keybinds_spec`: the arguments of `hyprctl`. -/
def installSpec (debugAssertions : Bool) (config : SessionKeybindConfig) : List String :=
  hyprctlEval (installProgram debugAssertions config)

/-- `remove_session_keybinds_spec`: the arguments of `hyprctl`. -/
def removeSpec : List String := hyprctlEval removeProgram

/-- Without a controller there is nothing a remote keybinding could call. -/
theorem sessionBinds_eq_nil_iff {debugAssertions : Bool} {config : SessionKeybindConfig} :
    sessionBinds debugAssertions config = [] ↔
      config.role = .remote ∧ config.controller = none := by
  obtain ⟨role, controller, window⟩ := config
  cases role <;> cases controller <;> cases debugAssertions <;>
    simp [sessionBinds, sessionKeybinds, controllerActionLua, controllerAction, commandActions,
      remoteActionLua, commandCliInvocation]

/-- A keybinding of a controller acts for one of the session's keybindings. -/
theorem keybind_of_mem_sessionBinds {debugAssertions : Bool} {config : SessionKeybindConfig}
    {bound : Bind} (role : config.role = .controller)
    (member : bound ∈ sessionBinds debugAssertions config) :
    ∃ bind ∈ sessionKeybinds config.window,
      controllerActionLua debugAssertions bind = some bound.action := by
  obtain ⟨bind, listed, acts⟩ := List.mem_filterMap.mp member
  rw [role] at acts
  obtain ⟨action, lua, same⟩ := Option.bind_eq_some_iff.mp acts
  obtain rfl := Option.some.inj same
  exact ⟨bind, listed, lua⟩

/-! ### What the programs do -/

/-- Who installs session keybindings on a computer: its agent, and a stream started on it. -/
inductive Party
  | agent
  | stream
  deriving DecidableEq, Repr

/-- A keybinding that a party has made. -/
structure LiveBind where
  handle : Nat
  party : Party
  bind : Bind
  deriving DecidableEq, Repr

/-- What the programs see of a compositor: the keybindings made by them, the handles the global
lists, and the next handle. -/
structure LuaState where
  live : List LiveBind
  global : Option (List Nat)
  next : Nat
  deriving DecidableEq, Repr

namespace LuaState

/-- One statement, evaluated for a party. -/
def eval (party : Party) (state : LuaState) : LuaStatement → LuaState
  | .removeAll =>
      { state with
        live := state.live.filter fun bind => !(state.global.getD []).contains bind.handle }
  | .reset => { state with global := some [] }
  | .forget => { state with global := none }
  | .insert bind =>
      { live := state.live ++ [{ handle := state.next, party, bind }]
        global := state.global.map (· ++ [state.next])
        next := state.next + 1 }

/-- A program, evaluated for a party. -/
def run (party : Party) (state : LuaState) (program : List LuaStatement) : LuaState :=
  program.foldl (eval party) state

/-- The global lists every keybinding. -/
def Tracked (state : LuaState) : Prop :=
  ∀ bind ∈ state.live, bind.handle ∈ state.global.getD []

/-- The keybindings with their makers. -/
def binds (state : LuaState) : List (Party × Bind) :=
  state.live.map fun bind => (bind.party, bind.bind)

variable {party : Party} {state : LuaState}

/-- Removing what the global lists removes everything. -/
theorem live_removeAll (tracked : state.Tracked) : (state.eval party .removeAll).live = [] := by
  refine List.filter_eq_nil_iff.mpr fun bind member => ?_
  have listed := tracked bind member
  simpa using listed

/-- Inserting keeps track, and adds the new keybindings in order. -/
theorem run_insert (binds : List Bind) :
    ∀ {state : LuaState} {handles : List Nat}, state.global = some handles → state.Tracked →
      (state.run party (binds.map .insert)).Tracked ∧
        (state.run party (binds.map .insert)).binds =
          state.binds ++ binds.map fun bind => (party, bind) := by
  induction binds with
  | nil =>
      intro state handles _ tracked
      exact ⟨tracked, (List.append_nil _).symm⟩
  | cons bind rest ih =>
      intro state handles listed tracked
      have next : (state.eval party (.insert bind)).global = some (handles ++ [state.next]) := by
        simp [eval, listed]
      have keeps : (state.eval party (.insert bind)).Tracked := by
        intro other member
        rw [next, Option.getD_some, List.mem_append]
        rcases List.mem_append.mp member with old | new
        · have already := tracked other old
          rw [listed] at already
          exact .inl already
        · rw [List.mem_singleton.mp new]
          exact .inr List.mem_cons_self
      obtain ⟨after, all⟩ := ih next keeps
      refine ⟨after, all.trans ?_⟩
      simp [binds, eval]

theorem run_installProgram (debugAssertions : Bool) (config : SessionKeybindConfig)
    (tracked : state.Tracked) :
    (state.run party (installProgram debugAssertions config)).Tracked ∧
      (state.run party (installProgram debugAssertions config)).binds =
        (sessionBinds debugAssertions config).map fun bind => (party, bind) := by
  have empty : ((state.eval party .removeAll).eval party .reset).live = [] :=
    @live_removeAll party state tracked
  have start : ((state.eval party .removeAll).eval party .reset).Tracked := by
    intro bind member
    rw [empty] at member
    cases member
  obtain ⟨after, all⟩ := @run_insert party (sessionBinds debugAssertions config) _ _ rfl start
  refine ⟨after, all.trans ?_⟩
  rw [binds, empty, List.map_nil, List.nil_append]

theorem run_removeProgram (tracked : state.Tracked) :
    (state.run party removeProgram).live = [] := @live_removeAll party state tracked

/-- Inserting takes its handles from the next one on. -/
theorem handles_run_insert (binds : List Bind) :
    ∀ {state : LuaState}, state.next ≤ (state.run party (binds.map .insert)).next ∧
      ∀ bind ∈ (state.run party (binds.map .insert)).live,
        bind ∈ state.live ∨ state.next ≤ bind.handle := by
  induction binds with
  | nil => exact fun {state} => ⟨Nat.le_refl _, fun bind member => .inl member⟩
  | cons bind rest ih =>
      intro state
      obtain ⟨raised, handles⟩ := @ih (state.eval party (.insert bind))
      refine ⟨Nat.le_trans (Nat.le_succ _) raised, fun other member => ?_⟩
      rcases handles other member with already | later
      · rcases List.mem_append.mp already with old | new
        · exact .inl old
        · rw [List.mem_singleton.mp new]
          exact .inr (Nat.le_refl _)
      · exact .inr (Nat.le_trans (Nat.le_succ _) later)

end LuaState

/-- A compositor in which the global lists every session keybinding. -/
abbrev Hyprland := { state : LuaState // state.Tracked }

namespace Hyprland

/-- A compositor without session keybindings. -/
def bare : Hyprland := ⟨{ live := [], global := none, next := 0 }, nofun⟩

/-- The session keybindings with their makers. -/
def binds (hyprland : Hyprland) : List (Party × Bind) := hyprland.1.binds

/-- The install program, evaluated for a party. -/
def install (party : Party) (debugAssertions : Bool) (config : SessionKeybindConfig)
    (hyprland : Hyprland) : Hyprland :=
  ⟨hyprland.1.run party (installProgram debugAssertions config),
    (LuaState.run_installProgram debugAssertions config hyprland.2).1⟩

/-- The remove program, evaluated for a party. -/
def remove (party : Party) (hyprland : Hyprland) : Hyprland :=
  ⟨hyprland.1.run party removeProgram, by
    intro bind member
    rw [LuaState.run_removeProgram hyprland.2] at member
    cases member⟩

@[simp] theorem binds_install (party : Party) (debugAssertions : Bool)
    (config : SessionKeybindConfig) (hyprland : Hyprland) :
    (hyprland.install party debugAssertions config).binds =
      (sessionBinds debugAssertions config).map fun bind => (party, bind) :=
  (LuaState.run_installProgram debugAssertions config hyprland.2).2

@[simp] theorem binds_remove (party : Party) (hyprland : Hyprland) :
    (hyprland.remove party).binds = [] := by
  show (hyprland.1.run party removeProgram).live.map _ = []
  rw [LuaState.run_removeProgram hyprland.2, List.map_nil]

/-- A keybinding made since the next handle was `mark` is still there. -/
def Since (mark : Nat) (hyprland : Hyprland) : Prop :=
  ∃ bind ∈ hyprland.1.live, mark ≤ bind.handle

theorem next_le_install (party : Party) (debugAssertions : Bool) (config : SessionKeybindConfig)
    (hyprland : Hyprland) : hyprland.1.next ≤ (hyprland.install party debugAssertions config).1.next :=
  (@LuaState.handles_run_insert party _ ((hyprland.1.eval party .removeAll).eval party .reset)).1

/-- Installing leaves new keybindings, if there are any to install. -/
theorem since_install {party : Party} {debugAssertions : Bool} {config : SessionKeybindConfig}
    {hyprland : Hyprland} {mark : Nat} (marked : mark ≤ hyprland.1.next) :
    (hyprland.install party debugAssertions config).Since mark ↔
      sessionBinds debugAssertions config ≠ [] := by
  have installed := binds_install party debugAssertions config hyprland
  constructor
  · rintro ⟨bind, member, _⟩ none
    rw [none] at installed
    exact List.ne_nil_of_mem member (List.map_eq_nil_iff.mp installed)
  · intro some
    obtain ⟨bind, member⟩ :
        ∃ bind, bind ∈ (hyprland.install party debugAssertions config).1.live := by
      refine List.exists_mem_of_ne_nil _ fun none => some ?_
      rw [binds, LuaState.binds, none] at installed
      exact List.map_eq_nil_iff.mp installed.symm
    rcases (@LuaState.handles_run_insert party _ _).2 bind member with old | later
    · have empty := @LuaState.live_removeAll party _ hyprland.2
      exact absurd (empty ▸ old) List.not_mem_nil
    · exact ⟨bind, member, Nat.le_trans marked later⟩

theorem not_since_remove (party : Party) (hyprland : Hyprland) (mark : Nat) :
    ¬ (hyprland.remove party).Since mark := by
  rintro ⟨bind, member, _⟩
  exact absurd (@LuaState.run_removeProgram party _ hyprland.2 ▸ member) List.not_mem_nil

/-- The keybindings of a configuration are installed for a party. -/
def Holds (hyprland : Hyprland) (party : Party) (debugAssertions : Bool)
    (config : SessionKeybindConfig) : Prop :=
  ∀ bind ∈ sessionBinds debugAssertions config, (party, bind) ∈ hyprland.binds

theorem holds_install (party : Party) (debugAssertions : Bool) (config : SessionKeybindConfig)
    (hyprland : Hyprland) :
    (hyprland.install party debugAssertions config).Holds party debugAssertions config := by
  intro bind member
  rw [binds_install]
  exact List.mem_map_of_mem member

/-- A party holds nothing that is anybody else's. -/
theorem not_holds {hyprland : Hyprland} {party : Party} {debugAssertions : Bool}
    {config : SessionKeybindConfig} (some : sessionBinds debugAssertions config ≠ [])
    (foreign : ∀ bind, (party, bind) ∉ hyprland.binds) :
    ¬ hyprland.Holds party debugAssertions config := by
  obtain ⟨bind, member⟩ := List.exists_mem_of_ne_nil _ some
  exact fun holds => foreign bind (holds bind member)

end Hyprland

/-- `HyprlandSessionKeybinds::install`, where the program is evaluated. -/
def installKeybinds (party : Party) (debugAssertions : Bool) (config : SessionKeybindConfig)
    (hyprland : Hyprland) : PortResult Hyprland :=
  match config.window.validate with
  | .error error =>
      .error { code := "INVALID_COMMAND", message := error.message, retryable := false }
  | .ok () => .ok (hyprland.install party debugAssertions config)

theorem installKeybinds_ok {party : Party} {debugAssertions : Bool} {config : SessionKeybindConfig}
    {hyprland after : Hyprland}
    (installed : installKeybinds party debugAssertions config hyprland = .ok after) :
    after = hyprland.install party debugAssertions config := by
  unfold installKeybinds at installed
  split at installed
  · cases installed
  · exact (Except.ok.inj installed).symm

end Omdesky.Platform
