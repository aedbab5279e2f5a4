/-
**Nothing is injected into the generated programs (`omdesky-platform/src/input.rs`).**

The selector of a window, the address of a controller and the key of a chord are inserted into Lua
programs, some of whose strings are command lines, one of which holds a batch of further Lua programs.

* `commandLines`: the strings that a Lua program gives to `exec_cmd`.
* `SameProgram`: the same tokens of Lua, and the same tokens of the shell in the command lines.
* `secure`, `sameProgram_of_secure`: a check of a text with holes, under which any two ways of filling
  it are the same program.
* `no_injection`: the installed keybindings, the batch that closes a window, and the shortcuts.
-/

import Omdesky.Platform.Input.Keys
import Omdesky.Scan.Template
import Omdesky.Shell.Line

namespace Omdesky.Platform

open Scan

/-! ### Programs with command lines -/

/-- `exec_cmd`. -/
def execCmd : List Char := ['e', 'x', 'e', 'c', '_', 'c', 'm', 'd']

/-- The string in parentheses that the tokens begin with, in an alphabet with all characters. -/
def argument {α : Type} [DecidableEq α] (embed : Char → α) :
    List (Scan.Token Lua.Kind α) → Option (List α)
  | paren :: (kind, line) :: _ =>
      if paren = (.symbol, ['('].map embed) ∧ kind.isString then some line else none
  | _ => none

/-- The strings that a program gives to `exec_cmd`. -/
def commandLines {α : Type} [DecidableEq α] (embed : Char → α) :
    List (Scan.Token Lua.Kind α) → List (List α)
  | [] => []
  | token :: rest =>
      if token = (.name, execCmd.map embed) then (argument embed rest).toList ++ commandLines embed rest
      else commandLines embed rest

/-- **The same program**: the tokens of Lua are the same but for inserted characters in strings, and so
are the tokens of the shell in the command lines but for inserted characters in words. -/
def SameProgram (first second : List Char) : Prop :=
  ∃ tokens others, Lua.lexer.scan first = some tokens ∧ Lua.lexer.scan second = some others ∧
    List.Forall₂ (Alike isInserted Lua.Kind.isString) tokens others ∧
      List.Forall₂ (SameTokens Shell.lineScanner isInserted Shell.LineKind.isPart)
        (commandLines id tokens) (commandLines id others)

/-- Inserted words only reach strings of Lua, and only words of the command lines in them. -/
def secure (text : List Slot) : Bool :=
  match Lua.lexer.sketch Lua.absorb Lua.lexer.start [] text with
  | none => false
  | some tokens => confined Lua.Kind.isString tokens && (commandLines .char tokens).all fun line =>
      match Shell.lineScanner.sketch Shell.absorb Shell.lineScanner.start [] line with
      | none => false
      | some parts => confined Shell.LineKind.isPart parts

section Secure

variable {words others : Nat → List Char}

/-- A closed token is another one exactly when it is so with any words. -/
theorem fillToken_eq_iff {token : Scan.Token Lua.Kind Slot} (closed : isClosed token = true)
    (kind : Lua.Kind) (text : List Char) :
    fillToken words token = (kind, text) ↔ token = (kind, text.map .char) := by
  obtain ⟨own, slots⟩ := token
  have written : ∀ {slots : List Slot}, isClosed (own, slots) = true →
      slots = (fill words slots).map .char := by
    intro slots closed
    induction slots with
    | nil => rfl
    | cons slot slots ih =>
        simp only [isClosed, List.all_cons, Bool.and_eq_true] at closed
        cases slot with
        | char c => exact congrArg (Slot.char c :: ·) (ih closed.2)
        | hole index => cases closed.1
  have same : fill words slots = text ↔ slots = text.map .char := by
    constructor
    · rintro rfl
      exact written closed
    · rintro rfl
      exact fill_slots text
  rw [fillToken, Prod.mk.injEq, Prod.mk.injEq, same]

theorem fillToken_eq_iff_of_confined {token : Scan.Token Lua.Kind Slot}
    (confines : (token.1.isString || isClosed token) = true) {kind : Lua.Kind}
    (code : kind.isString = false) (text : List Char) :
    fillToken words token = (kind, text.map id) ↔ token = (kind, text.map .char) := by
  rw [List.map_id]
  by_cases string : token.1.isString = true
  · have other : token.1 ≠ kind := by
      rintro rfl
      rw [string] at code
      cases code
    exact iff_of_false (fun same => other (congrArg Prod.fst same))
      fun same => other (congrArg Prod.fst same)
  · rw [Bool.not_eq_true] at string
    rw [string, Bool.false_or] at confines
    exact fillToken_eq_iff confines kind text

/-- The argument in a program that is filled. -/
theorem argument_fill {tokens : List (Scan.Token Lua.Kind Slot)}
    (confines : confined Lua.Kind.isString tokens = true) :
    argument id (tokens.map (fillToken words)) = (argument .char tokens).map (fill words) := by
  match tokens, confines with
  | [], _ | [_], _ => rfl
  | paren :: (kind, line) :: rest, confines =>
      simp only [confined, List.all_cons, Bool.and_eq_true] at confines
      have code : Lua.Kind.symbol.isString = false := rfl
      have opens := @fillToken_eq_iff_of_confined words paren confines.1 .symbol code ['(']
      by_cases opened : paren = (.symbol, ['('].map .char) ∧ kind.isString = true
      · have filled : argument id ((paren :: (kind, line) :: rest).map (fillToken words)) =
            some (fill words line) := if_pos ⟨opens.mpr opened.1, opened.2⟩
        have listed : argument .char (paren :: (kind, line) :: rest) = some line := if_pos opened
        rw [filled, listed, Option.map_some]
      · have filled : argument id ((paren :: (kind, line) :: rest).map (fillToken words)) = none :=
          if_neg fun both => opened ⟨opens.mp both.1, both.2⟩
        have listed : argument .char (paren :: (kind, line) :: rest) = none := if_neg opened
        rw [filled, listed, Option.map_none]

/-- The command lines of a program that is filled. -/
theorem commandLines_fill {tokens : List (Scan.Token Lua.Kind Slot)}
    (confines : confined Lua.Kind.isString tokens = true) :
    commandLines id (tokens.map (fillToken words)) =
      (commandLines .char tokens).map (fill words) := by
  induction tokens with
  | nil => rfl
  | cons token tokens ih =>
      simp only [confined, List.all_cons, Bool.and_eq_true] at confines
      obtain ⟨first, rest⟩ := confines
      have code : Lua.Kind.name.isString = false := rfl
      have called := @fillToken_eq_iff_of_confined words token first .name code execCmd
      rw [List.map_cons, commandLines, commandLines]
      by_cases calls : token = (.name, execCmd.map .char)
      · rw [if_pos calls, if_pos (called.mpr calls), argument_fill rest, ih rest, List.map_append]
        cases argument Slot.char tokens <;> rfl
      · rw [if_neg calls, if_neg (mt called.mp calls), ih rest]

/-- What is inserted means nothing in a string of Lua, and nothing to the shell. -/
theorem luaAbsorbs : Absorbs Lua.lexer isInserted Lua.absorb := Lua.absorbs fun _ => isPlain_of_isInserted

theorem isBare_of_isInserted {c : Char} (inserted : isInserted c = true) : Shell.isBare c = true := by
  simp only [isInserted, Bool.or_eq_true, beq_iff_eq] at inserted
  obtain (((plain | rfl) | rfl) | rfl) | rfl := inserted
  · exact Shell.isBare_of_isAlphanum plain
  · decide
  · decide
  · decide
  · decide

theorem shellAbsorbs : Absorbs Shell.lineScanner isInserted Shell.absorb :=
  Shell.absorbs fun _ => isBare_of_isInserted

/-- **A secure text is the same program, whatever is inserted.** -/
theorem sameProgram_of_secure (fits : Fits isInserted words) (othersFit : Fits isInserted others)
    {text : List Slot} (check : secure text = true) :
    SameProgram (fill words text) (fill others text) := by
  unfold secure at check
  split at check
  · cases check
  · next tokens outlined =>
      rw [← outline_eq_sketch] at outlined
      simp only [Bool.and_eq_true, List.all_eq_true] at check
      obtain ⟨confines, lines⟩ := check
      refine ⟨_, _, scan_fill luaAbsorbs fits outlined, scan_fill luaAbsorbs othersFit outlined,
        alike_fill fits othersFit confines, ?_⟩
      rw [commandLines_fill confines, commandLines_fill confines, List.forall₂_map_left_iff,
        List.forall₂_map_right_iff, List.forall₂_same]
      intro line member
      have known := lines line member
      split at known
      · cases known
      · next parts split =>
          rw [← outline_eq_sketch] at split
          exact sameTokens_of_outline shellAbsorbs fits othersFit split known

end Secure

/-! ### What is inserted -/

/-- The constructors of `WindowSelector`. -/
inductive SelectorKind
  | activeWindow
  | byClass
  | address
  deriving DecidableEq, Repr

/-- The selector of a kind for a word. -/
def SelectorKind.window : SelectorKind → String → WindowSelector
  | .activeWindow, _ => .activeWindow
  | .byClass, word => .byClass word
  | .address, word => .address word

/-- The kind of a selector. -/
def kindOf : WindowSelector → SelectorKind
  | .activeWindow => .activeWindow
  | .byClass _ => .byClass
  | .address _ => .address

/-- The class or the address in a selector, and the endpoint of a controller. -/
structure Inserted where
  word : String
  endpoint : AgentEndpoint

/-- What is inserted, by the numbers of its holes. -/
def Inserted.words (inserted : Inserted) : Nat → List Char
  | 0 => inserted.word.toList
  | 1 => inserted.endpoint.address.display.toList
  | _ => (toString inserted.endpoint.port.toNat).toList

/-- A word that is inserted: it is not empty, and has no other characters. -/
def Insertable (word : String) : Prop := word.toList ≠ [] ∧ InsertedText word

theorem fits_words {inserted : Inserted} (insertable : Insertable inserted.word) :
    Fits isInserted inserted.words := by
  rintro (_ | _ | index)
  · exact insertable
  · refine ⟨IpAddr.display_ne_nil _, fun c member => ?_⟩
    have known := IpAddr.isAddressChar_display _ c member
    simp only [isAddressChar, Bool.or_eq_true] at known
    simp only [isInserted, Bool.or_eq_true]
    tauto
  · refine ⟨?_, fun c member => isInserted_of_isAlphanum (isAlphanum_of_mem_toString _ c member)⟩
    simp [Inserted.words]

/-- An accepted selector is the one of its kind for a word that can be inserted. -/
theorem exists_word {window : WindowSelector} (accepted : window.validate = .ok ()) :
    ∃ word, Insertable word ∧ window = (kindOf window).window word := by
  cases window with
  | activeWindow => exact ⟨"0", ⟨by decide, by decide⟩, rfl⟩
  | byClass name =>
      exact ⟨name, ⟨(validate_byClass_iff.mp accepted).1, insertedText_className accepted⟩, rfl⟩
  | address value =>
      refine ⟨value, ⟨?_, insertedText_address accepted⟩, rfl⟩
      rintro empty
      obtain rfl := String.toList_eq_nil_iff.mp empty
      exact absurd accepted (by decide)

/-! ### The templates of the programs -/

/-- A text in which something is inserted. -/
abbrev Written (text : Inserted → String) := Template Inserted.words text

section Written

/-- The holes. -/
def wordHole : Written Inserted.word := .hole 0 _ fun _ => rfl

def addressHole : Written fun inserted => inserted.endpoint.address.display := .hole 1 _ fun _ => rfl

def portHole : Written fun inserted => toString inserted.endpoint.port.toNat := .hole 2 _ fun _ => rfl

/-- `as_hypr`. -/
def selectorWritten : (kind : SelectorKind) →
    Written fun inserted => (kind.window inserted.word).asHypr
  | .activeWindow => .text _
  | .byClass => (Template.text _).append wordHole
  | .address => (Template.text _).append wordHole

variable (debugAssertions : Bool) (kind : SelectorKind)

/-- `focus_dispatcher`. -/
def focusWritten : Written fun inserted => focusDispatcher (kind.window inserted.word) :=
  ((Template.text _).append (selectorWritten kind)).append (.text _)

/-- `modifiers_hypr` of the capture chord. -/
def modifiersWritten : Written fun _ => captureToggleChord.modifiersHypr :=
  (Template.text "CTRL ALT SHIFT".toList).congr fun _ => by decide

def stateWritten : (pressed : Bool) → Written fun _ => stateText pressed
  | true => .text _
  | false => .text _

/-- The key events of the capture chord. -/
def captureWritten (pressed : Bool) : Written fun _ =>
    sendKeyState captureToggleChord.modifiersHypr captureToggleChord.key (stateText pressed) :=
  ((((((Template.text _).append modifiersWritten).append (.text _)).append (.text _)).append
    (.text _)).append (stateWritten pressed)).append (.text _)

/-- The batch that closes a window. -/
def closingBatch (window : WindowSelector) : String :=
  hyprctlBatchArgument ((commandActions (.closeWindow window) []).getD [])

/-- `hyprctl_batch_argument`. -/
def batchWritten : Written fun inserted => closingBatch (kind.window inserted.word) :=
  ((Template.text _).append (((Template.text _).append (selectorWritten kind)).append
    (.text _))).append (.text _)

/-- `window_cli_argument`. -/
def argumentWritten : (kind : SelectorKind) →
    Written fun inserted => windowCliArgument (kind.window inserted.word)
  | .activeWindow => .text _
  | .byClass => (Template.text _).append wordHole
  | .address => (Template.text _).append wordHole

/-- The actions of `controller_action_lua`, before a debug build adds its notice. -/
def toggleAction (window : WindowSelector) : String :=
  (controllerAction (.sendShortcut captureToggleChord window)).getD ""

def closeAction (window : WindowSelector) : String := (controllerAction (.closeWindow window)).getD ""

def toggleActionWritten : Written fun inserted => toggleAction (kind.window inserted.word) :=
  (((((((Template.text _).append (focusWritten kind)).append (.text _)).append (captureWritten true)).append
    (.text _)).append (captureWritten false)).append (.text _)).append (.text _)

def closeActionWritten : Written fun inserted => closeAction (kind.window inserted.word) :=
  ((Template.text _).append (batchWritten kind)).append (.text _)

/-- The notice of a debug build. -/
def withNotice (description action : String) : String :=
  if debugAssertions then "function() (" ++ action ++ ")(); " ++ debugNotify description ++ " end"
  else action

def noticeWritten (description : List Char) {action : Inserted → String} (inner : Written action) :
    Written fun inserted => withNotice debugAssertions (String.ofList description) (action inserted) :=
  match debugAssertions with
  | false => inner
  | true => ((((Template.text _).append inner).append (.text _)).append
      (((Template.text _).append (.text description)).append (.text _))).append (.text _)

/-- `remote_action_lua`, around the command line. -/
def withoutOutput (invocation : String) : String :=
  "hl.dsp.exec_cmd(\"" ++ (if debugAssertions then
      invocation ++ " >/dev/null 2>&1 || " ++
        "omarchy-notification-send 'Omdesky debug' 'Could not send the remote shortcut'"
    else invocation ++ " >/dev/null 2>&1") ++ "\")"

def outputWritten {invocation : Inserted → String} (inner : Written invocation) :
    Written fun inserted => withoutOutput debugAssertions (invocation inserted) :=
  match debugAssertions with
  | false => ((Template.text _).append (inner.append (.text _))).append (.text _)
  | true => ((Template.text _).append ((inner.append (.text _)).append (.text _))).append (.text _)

/-- The invocations of `command_cli_invocation`. -/
def toggleInvocation (window : WindowSelector) (endpoint : AgentEndpoint) : String :=
  (commandCliInvocation (.sendShortcut captureToggleChord window) endpoint).getD ""

def closeInvocation (window : WindowSelector) (endpoint : AgentEndpoint) : String :=
  (commandCliInvocation (.closeWindow window) endpoint).getD ""

def targetWritten : Written fun inserted =>
    inserted.endpoint.address.display ++ " --port " ++ toString inserted.endpoint.port.toNat :=
  (addressHole.append (.text _)).append portHole

def toggleInvocationWritten :
    Written fun inserted => toggleInvocation (kind.window inserted.word) inserted.endpoint :=
  ((((((Template.text _).append targetWritten).append (.text _)).append modifiersWritten).append
    (.text _)).append (.text _)).append (argumentWritten kind)

def closeInvocationWritten :
    Written fun inserted => closeInvocation (kind.window inserted.word) inserted.endpoint :=
  ((Template.text _).append targetWritten).append (argumentWritten kind)

/-! ### The installed program -/

theorem sessionBinds_controller (controller : Option AgentEndpoint) (window : WindowSelector) :
    sessionBinds debugAssertions ⟨.controller, controller, window⟩ =
      [⟨"SUPER + R", withNotice debugAssertions "toggle remote shortcut capture" (toggleAction window), false,
          "toggle remote shortcut capture"⟩,
        ⟨"SUPER + Q", withNotice debugAssertions "close remote session" (closeAction window), false,
          "close remote session"⟩] := by
  cases debugAssertions <;> rfl

theorem sessionBinds_remote (endpoint : AgentEndpoint) (window : WindowSelector) :
    sessionBinds debugAssertions ⟨.remote, some endpoint, window⟩ =
      [⟨"SUPER + R", withoutOutput debugAssertions (toggleInvocation window endpoint), true,
          "toggle remote shortcut capture"⟩,
        ⟨"SUPER + Q", withoutOutput debugAssertions (closeInvocation window endpoint), true,
          "close remote session"⟩] := by
  cases debugAssertions <;> rfl

/-- The text of `install_session_keybinds_spec`. -/
def installText (config : SessionKeybindConfig) : String :=
  "; ".intercalate ((installProgram debugAssertions config).map LuaStatement.text)

/-- What the programs of two configurations have in common. -/
structure Shape where
  role : SessionRole
  controlled : Bool
  kind : SelectorKind
  deriving DecidableEq, Repr

/-- The shape of a configuration. -/
def shapeOf (config : SessionKeybindConfig) : Shape :=
  ⟨config.role, config.controller.isSome, kindOf config.window⟩

/-- The configuration of a shape. -/
def Shape.config (shape : Shape) (inserted : Inserted) : SessionKeybindConfig where
  role := shape.role
  controller := if shape.controlled then some inserted.endpoint else none
  window := shape.kind.window inserted.word

theorem exists_config {config : SessionKeybindConfig} (accepted : config.window.validate = .ok ()) :
    ∃ inserted, Insertable inserted.word ∧ config = (shapeOf config).config inserted := by
  obtain ⟨role, controller, window⟩ := config
  obtain ⟨word, insertable, same⟩ := exists_word accepted
  cases controller with
  | none => exact ⟨⟨word, .v4 0 0 0 0, 0⟩, insertable, congrArg (SessionKeybindConfig.mk role none) same⟩
  | some endpoint =>
      exact ⟨⟨word, endpoint⟩, insertable, congrArg (SessionKeybindConfig.mk role (some endpoint)) same⟩

def boolWritten : (value : Bool) → Written fun _ => toString value
  | true => .text _
  | false => .text _

/-- `table.insert`. -/
def insertWritten (trigger description : List Char) (capture : Bool) {action : Inserted → String}
    (inner : Written action) : Written fun inserted => (LuaStatement.insert
      ⟨String.ofList trigger, action inserted, capture, String.ofList description⟩).text :=
  ((((((((((Template.text _).append (.text _)).append (.text _)).append (.text trigger)).append
    (.text _)).append inner).append (.text _)).append (boolWritten capture)).append
      (.text _)).append (.text description)).append (.text _)

/-- The statements before the keybindings. -/
def resetWritten : Written fun _ => "; ".intercalate [LuaStatement.removeAll.text, LuaStatement.reset.text] :=
  ((((((Template.text _).append (.text _)).append (.text _)).append (.text _)).append (.text _)).append
    (.text _)).append ((Template.text _).append (.text _))

/-- The statements for two keybindings. -/
def programWritten {first second : Inserted → String} (early : Written first) (late : Written second) :
    Written fun inserted => "; ".intercalate
      [LuaStatement.removeAll.text, LuaStatement.reset.text, first inserted, second inserted] :=
  (((resetWritten.append (.text _)).append early).append (.text _)).append late

/-- The program of a shape. -/
def installWritten : (shape : Shape) →
    Written fun inserted => installText debugAssertions (shape.config inserted)
  | ⟨.controller, _, kind⟩ =>
      (programWritten
        (insertWritten _ _ false (noticeWritten debugAssertions _ (toggleActionWritten kind)))
        (insertWritten _ _ false (noticeWritten debugAssertions _ (closeActionWritten kind)))).congr
        fun inserted => by
          rw [installText, installProgram, Shape.config, sessionBinds_controller]
          rfl
  | ⟨.remote, true, kind⟩ =>
      (programWritten
        (insertWritten _ _ true (outputWritten debugAssertions (toggleInvocationWritten kind)))
        (insertWritten _ _ true (outputWritten debugAssertions (closeInvocationWritten kind)))).congr
        fun inserted => by
          rw [installText, installProgram, Shape.config, if_pos rfl, sessionBinds_remote]
          rfl
  | ⟨.remote, false, kind⟩ => resetWritten

/-- The shapes that have programs of their own. -/
def shapes : List Shape :=
  [SelectorKind.activeWindow, .byClass, .address].flatMap
      (fun kind => [⟨.controller, true, kind⟩, ⟨.remote, true, kind⟩]) ++
    [⟨.remote, false, .activeWindow⟩]

set_option maxRecDepth 8000 in
theorem secure_shapes : ([true, false].all fun debugAssertions => shapes.all fun shape =>
    secure (installWritten debugAssertions shape).slots) = true := by
  decide +kernel

/-- **The programs are secure.** -/
theorem secure_installWritten (shape : Shape) :
    secure (installWritten debugAssertions shape).slots = true := by
  have listed : ∃ other ∈ shapes,
      (installWritten debugAssertions shape).slots = (installWritten debugAssertions other).slots := by
    obtain ⟨role, controlled, kind⟩ := shape
    cases role with
    | controller => exact ⟨⟨.controller, true, kind⟩, by cases kind <;> decide, rfl⟩
    | remote =>
        cases controlled with
        | true => exact ⟨⟨.remote, true, kind⟩, by cases kind <;> decide, rfl⟩
        | false => exact ⟨⟨.remote, false, .activeWindow⟩, by decide, rfl⟩
  obtain ⟨other, member, same⟩ := listed
  rw [same]
  have all := List.all_eq_true.mp secure_shapes debugAssertions (by cases debugAssertions <;> decide)
  exact List.all_eq_true.mp all other member

end Written

/-- **The installed program is the same for all words and endpoints.** -/
theorem sameProgram_installText {debugAssertions : Bool} {config other : SessionKeybindConfig}
    (shape : shapeOf config = shapeOf other) (accepted : config.window.validate = .ok ())
    (otherAccepted : other.window.validate = .ok ()) :
    SameProgram (installText debugAssertions config).toList (installText debugAssertions other).toList := by
  obtain ⟨first, insertable, same⟩ := exists_config accepted
  obtain ⟨second, otherInsertable, otherSame⟩ := exists_config otherAccepted
  have check := secure_installWritten debugAssertions (shapeOf config)
  have whole := sameProgram_of_secure (fits_words insertable) (fits_words otherInsertable) check
  rw [← Template.spells, ← Template.spells, ← same, shape, ← otherSame] at whole
  exact whole

/-! ### The batch that closes a window -/

/-- The commands of a batch: `hyprctl --batch` cuts its argument at semicolons. -/
def batchCommands (batch : String) : List (List Char) := batch.toList.splitOn ';'

set_option maxRecDepth 8000 in
theorem secure_batchWritten (kind : SelectorKind) : secure (batchWritten kind).slots = true := by
  cases kind <;> decide +kernel

/-- There is one command in the batch. -/
theorem batchCommands_closingBatch {window : WindowSelector} (accepted : window.validate = .ok ()) :
    batchCommands (closingBatch window) = [(closingBatch window).toList] := by
  obtain ⟨word, insertable, same⟩ := exists_word accepted
  have apart (kind : SelectorKind) : Slot.char ';' ∉ (batchWritten kind).slots := by
    cases kind <;> decide +kernel
  refine List.splitOnP_eq_singleton fun c member => ?_
  rw [beq_eq_false_iff_ne]
  rintro rfl
  rw [same] at member
  let inserted : Inserted := ⟨word, .v4 0 0 0 0, 0⟩
  have fits : Fits isInserted inserted.words := fits_words insertable
  exact apart _ ((batchWritten (kindOf window)).mem_slots fits (by decide) member)

theorem sameProgram_closingBatch {window other : WindowSelector} (kind : kindOf window = kindOf other)
    (accepted : window.validate = .ok ()) (otherAccepted : other.validate = .ok ()) :
    List.Forall₂ SameProgram (batchCommands (closingBatch window)) (batchCommands (closingBatch other)) := by
  obtain ⟨word, insertable, same⟩ := exists_word accepted
  obtain ⟨otherWord, otherInsertable, otherSame⟩ := exists_word otherAccepted
  let first : Inserted := ⟨word, .v4 0 0 0 0, 0⟩
  let second : Inserted := ⟨otherWord, .v4 0 0 0 0, 0⟩
  have fits : Fits isInserted first.words := fits_words insertable
  have otherFits : Fits isInserted second.words := fits_words otherInsertable
  have whole := sameProgram_of_secure fits otherFits (secure_batchWritten (kindOf window))
  rw [← Template.spells, ← Template.spells, ← same, kind, ← otherSame] at whole
  rw [batchCommands_closingBatch accepted, batchCommands_closingBatch otherAccepted]
  exact .cons whole .nil

end Omdesky.Platform
