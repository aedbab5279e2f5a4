/-
**The lines of the session keybindings, and the commands they run.**

A keybinding of the remote computer runs a line that the command line reads again: the shell cuts it
into words, the words are parsed, and the command is put together from the options.

* `words_invocation`: the words of a keybinding's line, for every accepted window.
* `parse_invocation`: what the words are parsed to. A class that reads as an option is no value of
  the option before it, and there the whole line is refused.
* `window_of_invocation`: the line of a keybinding is a command for the keybinding's window.
* `invokes_iff`: the line sends the keybinding's command to the endpoint unless its window is given by
  such a class.
-/

import Omdesky.Cli.Command
import Omdesky.Text.Address
import Omdesky.Text.Split

namespace Omdesky.Cli

open Application Interaction Interaction.Program Platform

/-! ### Options and operands -/

section Read

variable {known rest : List String} {word value name : String}

theorem longOption_of_plain (plain : word.toList.head? ≠ some '-') : longOption word = none := by
  unfold longOption
  split
  · next written =>
      rw [written] at plain
      exact absurd rfl plain
  · rfl

theorem isFlag_of_plain (plain : word.toList.head? ≠ some '-') : isFlag word = false := by
  simp [isFlag, plain]

theorem readArguments_operand (plain : word.toList.head? ≠ some '-') :
    readArguments known none (word :: rest) =
      (·.addOperand word) <$> readArguments known none rest := by
  rw [readArguments, longOption_of_plain plain, isFlag_of_plain plain]
  rfl

/-- An option takes the next word unless that reads as an option itself. -/
theorem readArguments_option (option : longOption word = some (name, none)) (nonempty : word ≠ "--")
    (knows : known.contains name = true) :
    readArguments known none (word :: value :: rest) =
      if isFlag value then none else (·.addOption name value) <$> readArguments known none rest := by
  rw [readArguments, option]
  dsimp only
  rw [if_neg nonempty, if_pos knows, readArguments]

theorem readArguments_value (option : longOption word = some (name, none)) (nonempty : word ≠ "--")
    (knows : known.contains name = true) (plain : isFlag value = false) :
    readArguments known none (word :: value :: rest) =
      (·.addOption name value) <$> readArguments known none rest := by
  rw [readArguments_option option nonempty knows, plain]
  rfl

end Read

/-! ### The options of a window -/

/-- The window is given by a class that reads as an option. -/
def ReadsAsOption (window : WindowSelector) : Prop :=
  ∃ name, window = .byClass name ∧ isFlag name = true

/-- The words of `window_cli_argument`. -/
def windowWords : WindowSelector → List String
  | .byClass name => ["--window-class", name]
  | .address value => ["--window-address", value]
  | .activeWindow => []

/-- The class of a window. -/
def classOf : WindowSelector → Option String
  | .byClass name => some name
  | _ => none

/-- The address of a window. -/
def addressOf : WindowSelector → Option String
  | .address value => some value
  | _ => none

/-- The options keep the window. -/
theorem windowSelector_of (window : WindowSelector) :
    windowSelector (classOf window) (addressOf window) = window := by
  cases window <;> rfl

theorem isFlag_of_isAlphanum {word : String} (plain : ∀ c ∈ word.toList, c.isAlphanum = true) :
    isFlag word = false := by
  refine isFlag_of_plain fun flag => ?_
  exact absurd (plain _ (List.mem_of_mem_head? flag)) (by decide)

theorem longOption_port : longOption "--port" = some ("port", none) := by decide

/-- The options that give a window. -/
def windowOptions : WindowSelector → List (String × String)
  | .byClass name => [("window-class", name)]
  | .address value => [("window-address", value)]
  | .activeWindow => []

/-- The words of an accepted window are its options, unless its class reads as one. -/
theorem readArguments_window {known : List String} {window : WindowSelector}
    (accepted : window.validate = .ok ()) (byClass : known.contains "window-class" = true)
    (byAddress : known.contains "window-address" = true) (read : ¬ReadsAsOption window) :
    readArguments known none (windowWords window) =
      some { options := windowOptions window, operands := [] } := by
  cases window with
  | activeWindow => rfl
  | byClass name =>
      have plain : isFlag name = false := by
        by_contra flag
        exact read ⟨name, rfl, eq_true_of_ne_false flag⟩
      rw [windowWords, readArguments_value (by decide) (by decide) byClass plain]
      rfl
  | address value =>
      have handle := validate_address_iff.mp accepted
      have plain := isFlag_of_isAlphanum (isAlphanum_of_isWindowAddress handle)
      rw [windowWords, readArguments_value (by decide) (by decide) byAddress plain]
      rfl

/-- A class that reads as an option is refused as a value. -/
theorem readArguments_flag {known : List String} {window : WindowSelector}
    (byClass : known.contains "window-class" = true) (read : ReadsAsOption window) :
    readArguments known none (windowWords window) = none := by
  obtain ⟨name, rfl, flag⟩ := read
  rw [windowWords, readArguments_option (by decide) (by decide) byClass, flag]
  rfl

/-! ### Words -/

theorem isBare_of_isAddressChar {c : Char} (plain : isAddressChar c = true) :
    Shell.isBare c = true := by
  simp only [isAddressChar, Bool.or_eq_true, beq_iff_eq] at plain
  rcases plain with (plain | rfl) | rfl
  · exact Shell.isBare_of_isAlphanum plain
  · decide
  · decide

theorem isBare_of_isSafeClassChar {c : Char} (plain : isSafeClassChar c = true) :
    Shell.isBare c = true := by
  simp only [isSafeClassChar, Bool.or_eq_true, beq_iff_eq] at plain
  rcases plain with ((plain | rfl) | rfl) | rfl
  · exact Shell.isBare_of_isAlphanum plain
  · decide
  · decide
  · decide

/-- An address is no option. -/
theorem plain_of_isAddressChar {word : String} (plain : ∀ c ∈ word.toList, isAddressChar c = true) :
    word.toList.head? ≠ some '-' := by
  intro flag
  exact absurd (plain _ (List.mem_of_mem_head? flag)) (by decide)

/-- A known bare word in front of a line. -/
theorem words_literal {word line : String} (plain : (word.toList.all Shell.isBare) = true)
    (nonempty : word.toList ≠ []) :
    Shell.words (word ++ " " ++ line) = (word :: ·) <$> Shell.words line :=
  Shell.words_cons (List.all_eq_true.mp plain) nonempty

section Window

variable {last : String} (plain : ∀ c ∈ last.toList, Shell.isBare c = true)
  (nonempty : last.toList ≠ [])

include plain nonempty

/-- An option with its value at the end of a line. -/
theorem words_option {option value : String} (plainOption : (option.toList.all Shell.isBare) = true)
    (nonemptyOption : option.toList ≠ []) (plainValue : ∀ c ∈ value.toList, Shell.isBare c = true)
    (nonemptyValue : value.toList ≠ []) :
    Shell.words (last ++ (" " ++ (option ++ " " ++ value))) = some [last, option, value] := by
  rw [← String.append_assoc, Shell.words_cons plain nonempty,
    words_literal plainOption nonemptyOption, Shell.words_bare plainValue nonemptyValue]
  rfl

/-- **The window of an invocation**, at the end of its line. -/
theorem words_window {window : WindowSelector} (accepted : window.validate = .ok ()) :
    Shell.words (last ++ windowCliArgument window) = some (last :: windowWords window) := by
  cases window with
  | activeWindow =>
      have none : windowCliArgument .activeWindow = "" := rfl
      rw [none, String.append_empty, Shell.words_bare plain nonempty]
      rfl
  | byClass name =>
      obtain ⟨nonemptyName, safe⟩ := validate_byClass_iff.mp accepted
      have argument : windowCliArgument (.byClass name) = " " ++ ("--window-class" ++ " " ++ name) := by
        have option : " --window-class " = " " ++ ("--window-class" ++ " ") := by decide
        rw [← String.append_assoc, ← option]
        rfl
      rw [argument]
      exact words_option plain nonempty (by decide) (by decide)
        (fun c member => isBare_of_isSafeClassChar (safe c member)) nonemptyName
  | address value =>
      have handle := validate_address_iff.mp accepted
      have nonemptyAddress : value.toList ≠ [] := by
        rintro blank
        simp [isWindowAddress, isHexHandle, blank] at handle
      have argument :
          windowCliArgument (.address value) = " " ++ ("--window-address" ++ " " ++ value) := by
        have option : " --window-address " = " " ++ ("--window-address" ++ " ") := by decide
        rw [← String.append_assoc, ← option]
        rfl
      rw [argument]
      exact words_option plain nonempty (by decide) (by decide)
        (fun c member => Shell.isBare_of_isAlphanum (isAlphanum_of_isWindowAddress handle c member))
        nonemptyAddress

end Window

/-! ### Lines -/

section Lines

variable {window : WindowSelector} (accepted : window.validate = .ok ()) {endpoint : AgentEndpoint}

theorem isBare_port : ∀ c ∈ (toString endpoint.port.toNat).toList, Shell.isBare c = true :=
  fun c member => Shell.isBare_of_isAlphanum (isAlphanum_of_mem_toString _ c member)

theorem port_ne_nil : (toString endpoint.port.toNat).toList ≠ [] := by
  rw [Nat.toString_eq_ofList_toDigits, String.toList_ofList]
  exact Nat.toDigits_ne_nil

/-- The endpoint of an invocation, in front of the rest of its line. -/
theorem words_target (rest : String) :
    Shell.words (endpoint.address.display ++ " " ++ ("--port" ++ " " ++ rest)) =
      ([endpoint.address.display, "--port"] ++ ·) <$> Shell.words rest := by
  have bareAddress : ∀ c ∈ endpoint.address.display.toList, Shell.isBare c = true :=
    fun c member => isBare_of_isAddressChar (endpoint.address.isAddressChar_display c member)
  rw [Shell.words_cons bareAddress endpoint.address.display_ne_nil,
    words_literal (by decide) (by decide)]
  cases Shell.words rest <;> rfl

/-- The words after the endpoint of a keybinding's line. -/
def invocationWords (endpoint : AgentEndpoint) : RemoteCommand → List String
  | .sendShortcut chord window =>
      "send-shortcut" :: ([endpoint.address.display, "--port", toString endpoint.port.toNat, "--mods",
        chord.modifiersHypr, "--key", chord.key] ++ windowWords window)
  | .closeWindow window =>
      "close-window" :: ([endpoint.address.display, "--port", toString endpoint.port.toNat] ++
        windowWords window)
  | _ => []

include accepted

theorem words_sendShortcut {line : String}
    (invoked : commandCliInvocation (.sendShortcut captureToggleChord window) endpoint = some line) :
    Shell.words line = some ("omdesky" :: "command" ::
      invocationWords endpoint (.sendShortcut captureToggleChord window)) := by
  have split : line = "omdesky" ++ " " ++ ("command" ++ " " ++ ("send-shortcut" ++ " " ++
      (endpoint.address.display ++ " " ++ ("--port" ++ " " ++ (toString endpoint.port.toNat ++ " " ++
        ("--mods" ++ " " ++ ("'" ++ "CTRL ALT SHIFT" ++ "'" ++ " " ++ ("--key" ++ " " ++
          ("Z" ++ windowCliArgument window))))))))) := by
    have mods : captureToggleChord.modifiersHypr = "CTRL ALT SHIFT" := by decide
    have opening : "omdesky command send-shortcut " =
      "omdesky" ++ " " ++ ("command" ++ " " ++ ("send-shortcut" ++ " ")) := by decide
    have port : " --port " = " " ++ ("--port" ++ " ") := by decide
    have quoted : " --mods '" = " " ++ ("--mods" ++ " " ++ "'") := by decide
    have key : "' --key " = "'" ++ " " ++ ("--key" ++ " ") := by decide
    have chord : captureToggleChord.key = "Z" := rfl
    have whole := Option.some.inj invoked
    rw [mods, chord, opening, port, quoted, key] at whole
    refine whole.symm.trans ?_
    simp only [String.append_assoc]
  rw [split, words_literal (by decide) (by decide), words_literal (by decide) (by decide),
    words_literal (by decide) (by decide), words_target, Shell.words_cons isBare_port port_ne_nil,
    words_literal (by decide) (by decide), Shell.words_cons_quoted (by decide),
    words_literal (by decide) (by decide),
    words_window (List.all_eq_true.mp (by decide)) (by decide) accepted]
  rfl

theorem words_closeWindow {line : String}
    (invoked : commandCliInvocation (.closeWindow window) endpoint = some line) :
    Shell.words line =
      some ("omdesky" :: "command" :: invocationWords endpoint (.closeWindow window)) := by
  have split : line = "omdesky" ++ " " ++ ("command" ++ " " ++ ("close-window" ++ " " ++
      (endpoint.address.display ++ " " ++ ("--port" ++ " " ++
        (toString endpoint.port.toNat ++ windowCliArgument window))))) := by
    have opening : "omdesky command close-window " =
      "omdesky" ++ " " ++ ("command" ++ " " ++ ("close-window" ++ " ")) := by decide
    have port : " --port " = " " ++ ("--port" ++ " ") := by decide
    have whole := Option.some.inj invoked
    rw [opening, port] at whole
    refine whole.symm.trans ?_
    simp only [String.append_assoc]
  rw [split, words_literal (by decide) (by decide), words_literal (by decide) (by decide),
    words_literal (by decide) (by decide), words_target, words_window isBare_port port_ne_nil accepted]
  rfl

/-- **The words of a keybinding's line.** -/
theorem words_invocation {bind : Keybind} (member : bind ∈ sessionKeybinds window) {line : String}
    (invoked : commandCliInvocation bind.command endpoint = some line) :
    Shell.words line = some ("omdesky" :: "command" :: invocationWords endpoint bind.command) := by
  rcases List.mem_cons.mp member with rfl | member
  · exact words_sendShortcut accepted invoked
  · obtain rfl := List.mem_singleton.mp member
    exact words_closeWindow accepted invoked

end Lines

/-! ### What the words are parsed to -/

theorem parsePort_eq (text : String) :
    parsePort text = (parseUnsigned UInt16.size text.toList).map UInt16.ofNat := by
  unfold parsePort parseUnsigned
  generalize (if text.toList.head? = some '+' then text.toList.tail else text.toList) = digits
  dsimp only
  split
  · rfl
  · split <;> rfl

/-- The digits of a number are read back. -/
theorem parsePort_toString (port : UInt16) : parsePort (toString port.toNat) = some port := by
  rw [parsePort_eq, Nat.toString_eq_ofList_toDigits, String.toList_ofList,
    parseUnsigned_toDigits port.toNat_lt_size, Option.map_some, UInt16.ofNat_toNat]

/-- The action that stands for a keybinding's command. -/
def invocationAction (endpoint : AgentEndpoint) : RemoteCommand → Option CommandAction
  | .sendShortcut chord window =>
      some (.sendShortcut endpoint.address.display chord.modifiersHypr chord.key (classOf window)
        (addressOf window) (some endpoint.port))
  | .closeWindow window =>
      some (.closeWindow endpoint.address.display (classOf window) (addressOf window)
        (some endpoint.port))
  | _ => none

section Parse

variable {window : WindowSelector} (accepted : window.validate = .ok ()) {endpoint : AgentEndpoint}

/-- The options of a keybinding's command before those of its window. -/
def chordOptions (endpoint : AgentEndpoint) (chord : KeyChord) : List (String × String) :=
  [("port", toString endpoint.port.toNat), ("mods", chord.modifiersHypr), ("key", chord.key)]

theorem isFlag_port : isFlag (toString endpoint.port.toNat) = false :=
  isFlag_of_isAlphanum (isAlphanum_of_mem_toString _)

theorem target_plain : endpoint.address.display.toList.head? ≠ some '-' :=
  plain_of_isAddressChar endpoint.address.isAddressChar_display

theorem readArguments_sendShortcut {known : List String} (rest : List String)
    (port : known.contains "port" = true) (mods : known.contains "mods" = true)
    (key : known.contains "key" = true) :
    readArguments known none ([endpoint.address.display, "--port", toString endpoint.port.toNat,
      "--mods", captureToggleChord.modifiersHypr, "--key", captureToggleChord.key] ++ rest) =
        (readArguments known none rest).map fun arguments =>
          { options := chordOptions endpoint captureToggleChord ++ arguments.options
            operands := endpoint.address.display :: arguments.operands } := by
  rw [List.cons_append, readArguments_operand target_plain]
  rw [List.cons_append, List.cons_append,
    readArguments_value longOption_port (by decide) port isFlag_port]
  rw [List.cons_append, List.cons_append,
    readArguments_value (by decide : longOption "--mods" = some ("mods", none)) (by decide) mods
      (by decide)]
  rw [List.cons_append, List.cons_append,
    readArguments_value (by decide : longOption "--key" = some ("key", none)) (by decide) key
      (by decide)]
  rw [List.nil_append]
  cases readArguments known none rest <;> rfl

theorem readArguments_closeWindow {known : List String} (rest : List String)
    (port : known.contains "port" = true) :
    readArguments known none
      ([endpoint.address.display, "--port", toString endpoint.port.toNat] ++ rest) =
        (readArguments known none rest).map fun arguments =>
          { options := ("port", toString endpoint.port.toNat) :: arguments.options
            operands := endpoint.address.display :: arguments.operands } := by
  rw [List.cons_append, readArguments_operand target_plain]
  rw [List.cons_append, List.cons_append,
    readArguments_value longOption_port (by decide) port isFlag_port]
  rw [List.nil_append]
  cases readArguments known none rest <;> rfl

/-- No action has the words of a class that reads as an option. -/
theorem parse_flag {bind : Keybind} (member : bind ∈ sessionKeybinds window)
    (read : ReadsAsOption window) :
    CommandAction.parse (invocationWords endpoint bind.command) = none := by
  rcases List.mem_cons.mp member with rfl | member
  · have arguments := @readArguments_sendShortcut endpoint
      ["mods", "key", "window-class", "window-address", "port"] (windowWords window) (by decide)
        (by decide) (by decide)
    rw [readArguments_flag (by decide) read] at arguments
    rw [invocationWords, CommandAction.parse, arguments]
    rfl
  · obtain rfl := List.mem_singleton.mp member
    have arguments := @readArguments_closeWindow endpoint
      ["window-class", "window-address", "port"] (windowWords window) (by decide)
    rw [readArguments_flag (by decide) read] at arguments
    rw [invocationWords, CommandAction.parse, arguments]
    rfl

include accepted

/-- The action of a keybinding's words. -/
theorem parse_invocation {bind : Keybind} (member : bind ∈ sessionKeybinds window)
    (read : ¬ReadsAsOption window) :
    CommandAction.parse (invocationWords endpoint bind.command) =
      invocationAction endpoint bind.command := by
  have port : parsePort endpoint.port.toNat.repr = some endpoint.port := parsePort_toString _
  rcases List.mem_cons.mp member with rfl | member
  · have arguments := @readArguments_sendShortcut endpoint
      ["mods", "key", "window-class", "window-address", "port"] (windowWords window) (by decide)
        (by decide) (by decide)
    rw [readArguments_window accepted (by decide) (by decide) read] at arguments
    rw [invocationWords, CommandAction.parse, arguments]
    cases window <;>
      simp [Arguments.operand, Arguments.single, Arguments.values, Arguments.window, Arguments.port,
        chordOptions, windowOptions, invocationAction, classOf, addressOf, port]
  · obtain rfl := List.mem_singleton.mp member
    have arguments := @readArguments_closeWindow endpoint
      ["window-class", "window-address", "port"] (windowWords window) (by decide)
    rw [readArguments_window accepted (by decide) (by decide) read] at arguments
    rw [invocationWords, CommandAction.parse, arguments]
    cases window <;>
      simp [Arguments.operand, Arguments.single, Arguments.values, Arguments.window, Arguments.port,
        windowOptions, invocationAction, classOf, addressOf, port]

end Parse

/-! ### What a line sends -/

section Invokes

variable {window : WindowSelector} {endpoint : AgentEndpoint} {bind : Keybind}

/-- Running this line sends this command to this endpoint, and then at most prints. -/
def Invokes (line : String) (endpoint : AgentEndpoint) (command : RemoteCommand) : Prop :=
  ∃ words action next, Shell.words line = some ("omdesky" :: "command" :: words) ∧
    CommandAction.parse words = some action ∧
      (remoteCommand action).run = .ask (.sendCommand endpoint command) next ∧
        ∀ answer, Uses (fun call => ∃ text, call = .println text) (next answer)

/-- An address with a port is the endpoint itself. -/
theorem endpointOf_display :
    endpointOf endpoint.address.display (some endpoint.port) = (return endpoint : CliA AgentEndpoint) := by
  unfold endpointOf
  rw [IpAddr.parse_display]

theorem orElse_ok {ε α : Type} {convert : ε → CliError} {value : α} :
    orElse convert (.ok value) = (return value : CliA α) := rfl

theorem return_bind {α β : Type} {value : α} {next : α → CliA β} :
    ((return value : CliA α) >>= next) = next value := rfl

/-- An accepted command is what is sent. -/
theorem sends_of_validate {command : RemoteCommand} (valid : command.validate = .ok ()) :
    ∃ next, (sendCommand endpoint command).run = .ask (.sendCommand endpoint command) next ∧
      ∀ answer, Uses (fun call => ∃ text, call = .println text) (next answer) := by
  refine ⟨_, by rw [sendCommand, valid, orElse_ok, return_bind]; rfl, fun answer => ?_⟩
  cases answer with
  | ok response => exact ⟨⟨_, rfl⟩, fun _ => trivial⟩
  | error error => exact trivial

theorem remoteCommand_invocation (member : bind ∈ sessionKeybinds window) :
    ∃ action, invocationAction endpoint bind.command = some action ∧
      (remoteCommand action).run = (sendCommand endpoint bind.command).run := by
  rcases List.mem_cons.mp member with rfl | member
  · refine ⟨_, rfl, ?_⟩
    have modifiers : parseModifiers captureToggleChord.modifiersHypr = .ok [.ctrl, .alt, .shift] := by
      decide
    have chord : KeyChord.new [.ctrl, .alt, .shift] captureToggleChord.key = .ok captureToggleChord := by
      decide
    rw [remoteCommand, endpointOf_display, modifiers, windowSelector_of, orElse_ok, return_bind, return_bind,
      chord, orElse_ok, return_bind]
  · obtain rfl := List.mem_singleton.mp member
    refine ⟨_, rfl, ?_⟩
    rw [remoteCommand, endpointOf_display, windowSelector_of, return_bind]

/-- An accepted window makes accepted commands. -/
theorem validate_keybind (accepted : window.validate = .ok ()) (member : bind ∈ sessionKeybinds window) :
    bind.command.validate = .ok () := by
  rcases List.mem_cons.mp member with rfl | member
  · have chord : captureToggleChord.validate = .ok () := by decide
    change (captureToggleChord.validate >>= fun _ => window.validate) = .ok ()
    rw [chord]
    exact accepted
  · obtain rfl := List.mem_singleton.mp member
    exact accepted

/-- Every keybinding has a line for its endpoint. -/
theorem invocation_isSome (member : bind ∈ sessionKeybinds window) :
    ∃ line, commandCliInvocation bind.command endpoint = some line := by
  rcases List.mem_cons.mp member with rfl | member
  · exact ⟨_, rfl⟩
  · obtain rfl := List.mem_singleton.mp member
    exact ⟨_, rfl⟩

/-- **The line of a keybinding** sends the keybinding's command to the endpoint it names, exactly when
the window is not given by a class that reads as an option. -/
theorem invokes_iff (accepted : window.validate = .ok ()) (member : bind ∈ sessionKeybinds window) :
    ∃ line, commandCliInvocation bind.command endpoint = some line ∧
      (Invokes line endpoint bind.command ↔ ¬ReadsAsOption window) := by
  obtain ⟨line, invoked⟩ := @invocation_isSome window endpoint bind member
  have cut := words_invocation accepted member invoked
  refine ⟨line, invoked, ?_, fun plain => ?_⟩
  · rintro ⟨words, action, next, read, parsed, sent, later⟩ flag
    obtain ⟨⟩ := cut.symm.trans read
    cases (parse_flag member flag).symm.trans parsed
  · obtain ⟨action, stands, runs⟩ := @remoteCommand_invocation window endpoint bind member
    obtain ⟨next, sent, later⟩ :=
      @sends_of_validate endpoint bind.command (validate_keybind accepted member)
    exact ⟨_, action, next, cut, (parse_invocation accepted member plain).trans stands,
      runs.trans sent, later⟩

/-- The line of the closing keybinding for a window with a handle. -/
theorem invokes_iff_handle :
    ∃ line, commandCliInvocation (.closeWindow (.address "0x1f")) ⟨.v4 100 64 0 1, 47900⟩ = some line ∧
      (Invokes line ⟨.v4 100 64 0 1, 47900⟩ (.closeWindow (.address "0x1f")) ↔
        ¬ReadsAsOption (.address "0x1f")) :=
  @invokes_iff (.address "0x1f") ⟨.v4 100 64 0 1, 47900⟩
    ⟨"SUPER + Q", "close remote session", .closeWindow (.address "0x1f"), true⟩ (by decide)
    (List.mem_cons_of_mem _ (List.mem_singleton.mpr rfl))

/-- The class `-x` is accepted, and the line of the closing keybinding is no command at all. -/
theorem class_reads_as_option :
    (WindowSelector.byClass "-x").validate = .ok () ∧
      (⟨"SUPER + Q", "close remote session", .closeWindow (.byClass "-x"), true⟩ : Keybind) ∈
        sessionKeybinds (.byClass "-x") ∧
      commandCliInvocation (.closeWindow (.byClass "-x")) ⟨.v4 100 64 0 1, 47900⟩ =
        some "omdesky command close-window 100.64.0.1 --port 47900 --window-class -x" ∧
      CommandAction.parse ["close-window", "100.64.0.1", "--port", "47900", "--window-class", "-x"] =
        none ∧
      ¬Invokes "omdesky command close-window 100.64.0.1 --port 47900 --window-class -x"
        ⟨.v4 100 64 0 1, 47900⟩ (.closeWindow (.byClass "-x")) := by
  have parsed : CommandAction.parse
      ["close-window", "100.64.0.1", "--port", "47900", "--window-class", "-x"] = none := by decide
  have accepted : (WindowSelector.byClass "-x").validate = .ok () := by decide
  have member : (⟨"SUPER + Q", "close remote session", .closeWindow (.byClass "-x"), true⟩ : Keybind) ∈
      sessionKeybinds (.byClass "-x") := List.mem_cons_of_mem _ (List.mem_singleton.mpr rfl)
  have invoked : commandCliInvocation (.closeWindow (.byClass "-x")) ⟨.v4 100 64 0 1, 47900⟩ =
      some "omdesky command close-window 100.64.0.1 --port 47900 --window-class -x" := by decide
  refine ⟨accepted, member, invoked, parsed, ?_⟩
  rintro ⟨words, action, next, read, refused, sent, later⟩
  obtain ⟨⟩ := (words_invocation accepted member invoked).symm.trans read
  have cut : invocationWords ⟨.v4 100 64 0 1, 47900⟩ (.closeWindow (.byClass "-x")) =
      ["close-window", "100.64.0.1", "--port", "47900", "--window-class", "-x"] := by decide
  rw [cut, parsed] at refused
  cases refused

end Invokes

/-- **The line of a keybinding** is a command for the window it was made for. -/
theorem window_of_invocation {window : WindowSelector} {endpoint : AgentEndpoint} {bind : Keybind}
    {line : String} {words : List String} {action : CommandAction}
    (accepted : window.validate = .ok ()) (member : bind ∈ sessionKeybinds window)
    (invoked : commandCliInvocation bind.command endpoint = some line)
    (read : Shell.words line = some ("omdesky" :: "command" :: words))
    (parsed : CommandAction.parse words = some action) : action.window = some window := by
  obtain ⟨⟩ := (words_invocation accepted member invoked).symm.trans read
  by_cases flag : ReadsAsOption window
  · cases (parse_flag member flag).symm.trans parsed
  · rw [parse_invocation accepted member flag] at parsed
    rcases List.mem_cons.mp member with rfl | member
    · obtain ⟨⟩ := parsed
      exact congrArg some (windowSelector_of window)
    · obtain rfl := List.mem_singleton.mp member
      obtain ⟨⟩ := parsed
      exact congrArg some (windowSelector_of window)

end Omdesky.Cli
