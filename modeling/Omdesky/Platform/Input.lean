/-
**Commands on this computer's own desktop (`omdesky-platform/src/input.rs`).**

* `execute`: `HyprlandCommandExecutor`, over its calls of `hyprctl`.
* `timedShortcutLua`: the Lua program of a shortcut.
-/

import Omdesky.Interaction.Program
import Omdesky.Platform.Keybinds

namespace Omdesky.Platform

open Interaction Interaction.Program

/-! ### The programs of `hyprctl` -/

/-- `restore_focus_dispatcher`. -/
def restoreFocusDispatcher (address : String) : String :=
  "hl.dsp.focus(\x7b window = \"address:" ++ address ++ "\" \x7d)"

/-- One key event after the other, each in a timer of the one before. -/
def shortcutSequence : List String → String
  | [] => ""
  | [last] => "hl.dispatch(" ++ last ++ "); return true"
  | action :: rest => "hl.dispatch(" ++ action ++ "); hl.timer(function() " ++
      shortcutSequence rest ++ " end, \x7b timeout = 25, type = \"oneshot\" \x7d)"

/-- `timed_shortcut_lua`. -/
def timedShortcutLua (chord : KeyChord) (window : WindowSelector) (restoreAddress : Option String) :
    String :=
  let focus :=
    match window with
    | .activeWindow => ""
    | .byClass _ | .address _ => "hl.dispatch(" ++ focusDispatcher window ++ "); "
  if chord.key = "Z" then
    let restore := restoreAddress.elim "" fun address =>
      "; hl.dispatch(" ++ restoreFocusDispatcher address ++ ")"
    focus ++ "hl.dispatch(" ++ sendKeyState chord.modifiersHypr chord.key "down" ++
      "); hl.timer(function() hl.dispatch(" ++ sendKeyState chord.modifiersHypr chord.key "up" ++
        ")" ++ restore ++ " end, \x7b timeout = 50, type = \"oneshot\" \x7d); return true"
  else
    focus ++ shortcutSequence
      (shortcutKeyDispatchers chord ++ restoreAddress.toList.map restoreFocusDispatcher)

/-! ### The executor -/

/-- A call of `hyprctl` with these arguments. -/
structure HyprctlCall where
  args : List String

/-- What a call printed, as far as it is text. -/
structure HyprctlOutput where
  stdout : String
  stderr : String

/-- The answer to a call. -/
abbrev HyprctlAnswer (_ : HyprctlCall) := PortResult HyprctlOutput

/-- A program over `hyprctl` in which `?` returns the first error. -/
abbrev HyprctlA := ExceptT PortError (Program HyprctlCall HyprctlAnswer)

/-- `str::contains`. -/
def contains (text needle : String) : Bool := text.toList.tails.any needle.toList.isPrefixOf

/-- `HyprlandCommandExecutor::run_hyprland`. -/
def runHyprland (args : List String) : HyprctlA String := ExceptT.mk do
  match ← perform (HyprctlCall.mk args) with
  | .error error =>
      return .error
        { code := "HYPRLAND_UNAVAILABLE", message := error.message, retryable := error.retryable }
  | .ok output =>
      let combined := output.stdout ++ "\n" ++ output.stderr
      if contains combined "window not found" || contains combined "not found" then
        return .error
          { code := "HYPRLAND_TARGET_MISSING"
            message := "The requested window is no longer available."
            retryable := false }
      else
        return .ok output.stdout

/-- `active_window_address`. What the JSON decoder makes of a text is its `address`, if that is a
string, or the decoder's error. -/
def activeWindowAddress (decode : String → Except String (Option String)) (output : String) :
    PortResult String :=
  match decode output with
  | .error error =>
      .error
        { code := "HYPRLAND_UNAVAILABLE"
          message := "Hyprland returned an invalid active window: " ++ error
          retryable := false }
  | .ok found =>
      match found.filter isHexHandle with
      | some address => .ok address
      | none =>
          .error
            { code := "HYPRLAND_TARGET_MISSING"
              message := "The active window is no longer available."
              retryable := false }

/-- `HyprlandCommandExecutor::eval_batch`. -/
def evalBatch (dispatchers : List String) : HyprctlA Unit := do
  let _ ← runHyprland ["--batch", hyprctlBatchArgument dispatchers]

/-- The address of the window to return to after a shortcut. -/
def previousWindow (decode : String → Except String (Option String)) :
    WindowSelector → HyprctlA (Option String)
  | .activeWindow => return none
  | .byClass _ | .address _ => do
      let output ← runHyprland ["activewindow", "-j"]
      let address ← ExceptT.mk (return activeWindowAddress decode output)
      return some address

/-- `HyprlandCommandExecutor::send_shortcut`. -/
def sendShortcut (decode : String → Except String (Option String)) (chord : KeyChord)
    (window : WindowSelector) : HyprctlA Unit := do
  let previous ← previousWindow decode window
  let _ ← runHyprland ["eval", timedShortcutLua chord window previous]

/-- A command that nothing is dispatched for. -/
def notExecutable : PortError where
  code := "COMMAND_NOT_EXECUTABLE"
  message := "command is not an action"
  retryable := false

/-- The window a command acts on. -/
def windowOf : RemoteCommand → Option WindowSelector
  | .sendShortcut _ window | .closeWindow window => some window
  | .switchStreamDisplay _ | .attachSession _ _ _ | .detachSession | .renewSession => none

/-- `HyprlandCommandExecutor::execute`. -/
def execute (decode : String → Except String (Option String)) (command : RemoteCommand) :
    HyprctlA Unit := do
  ExceptT.mk (return command.validate.mapError fun error =>
    { code := "INVALID_COMMAND", message := error.message, retryable := false })
  match command with
  | .sendShortcut chord window => sendShortcut decode chord window
  | .closeWindow _ =>
      match commandActions command [] with
      | some actions => evalBatch actions
      | none => throw notExecutable
  | .switchStreamDisplay _ | .attachSession _ _ _ | .detachSession | .renewSession =>
      throw notExecutable

end Omdesky.Platform
