/-
**What the platform dispatches to the desktop (`omdesky-platform`).**

* `focusWorkspaceDispatch`, `focusWindowDispatch`: the arguments `HyprlandAdapter` hands to
  `hyprctl dispatch`, after its own checks.
* `resolveDisplaySwitchShortcut`: the shortcut that makes Moonlight show another display.
-/

import Omdesky.Ports

namespace Omdesky.Platform

/-! ### Focus -/

/-- `is_window_handle`. -/
def isWindowHandle (value : String) : Bool := isHexHandle value

/-- `HyprlandAdapter::focus_workspace`, up to its dispatch. -/
def focusWorkspaceDispatch : WorkspaceTarget → PortResult (List String)
  | .id id => .ok ["workspace", toString id]
  | .name name =>
      if name.isEmpty || name.toList.any isWhitespace then
        .error
          { code := "WORKSPACE_NOT_FOUND"
            message := "workspace name is not a safe selector"
            retryable := false }
      else
        .ok ["workspace", "name:" ++ name]

/-- `HyprlandAdapter::focus_window`, up to its dispatch. -/
def focusWindowDispatch (id : String) : PortResult (List String) :=
  if isWindowHandle id then
    .ok ["focuswindow", "address:" ++ id]
  else
    .error
      { code := "WINDOW_NOT_FOUND"
        message := "window handle is not a valid Hyprland address"
        retryable := false }

/-- Only a window handle is dispatched. -/
theorem isWindowHandle_of_focusWindowDispatch {id : String} {args : List String}
    (dispatched : focusWindowDispatch id = .ok args) : isWindowHandle id = true := by
  unfold focusWindowDispatch at dispatched
  by_contra unsafeHandle
  rw [if_neg unsafeHandle] at dispatched
  cases dispatched

/-! ### Display switches -/

/-- What `MoonlightDisplayController::switch_display` sends to the controller's agent. -/
def switchDisplayCommand (target : DisplayId) : PortResult RemoteCommand :=
  match target.validate with
  | .error error =>
      .error { code := "INVALID_COMMAND", message := error.message, retryable := false }
  | .ok () => .ok (.switchStreamDisplay target)

/-- `SUNSHINE_MAX_SWITCH_DISPLAYS`. -/
def sunshineMaxSwitchDisplays : Nat := 13

/-- `display_switch_index`. -/
def displaySwitchIndex (displays : List Display) (target : DisplayId) : Option Nat :=
  displays.findIdx? fun display => display.id == target.value

/-- `display_switch_shortcut`. -/
def displaySwitchShortcut (index : Nat) : PortResult RemoteCommand :=
  if sunshineMaxSwitchDisplays ≤ index then
    .error
      { code := "DISPLAY_NOT_FOUND"
        message := "display index is beyond Sunshine's switchable range"
        retryable := false }
  else
    match KeyChord.new [.ctrl, .alt, .shift] ("F" ++ toString (index + 1)) with
    | .error error =>
        .error { code := "INVALID_COMMAND", message := error.message, retryable := false }
    | .ok chord => .ok (.sendShortcut chord (.byClass moonlightWindowClass))

/-- `resolve_display_switch_shortcut`. -/
def resolveDisplaySwitchShortcut (displays : List Display) (target : DisplayId) :
    PortResult RemoteCommand :=
  match displaySwitchIndex displays target with
  | none =>
      .error
        { code := "DISPLAY_NOT_FOUND"
          message := "display " ++ target.value ++ " is not part of the remote topology"
          retryable := false }
  | some index => displaySwitchShortcut index

/-- A display switch is always a shortcut. -/
theorem sendShortcut_of_resolve {displays : List Display} {target : DisplayId}
    {command : RemoteCommand} (resolved : resolveDisplaySwitchShortcut displays target = .ok command) :
    ∃ chord, command = .sendShortcut chord (.byClass moonlightWindowClass) := by
  unfold resolveDisplaySwitchShortcut at resolved
  split at resolved
  · cases resolved
  · unfold displaySwitchShortcut at resolved
    split at resolved
    · cases resolved
    · split at resolved
      · cases resolved
      · cases resolved
        exact ⟨_, rfl⟩

end Omdesky.Platform
