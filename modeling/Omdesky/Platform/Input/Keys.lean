/-
**What a shortcut's program does to the keyboard (`omdesky-platform/src/input.rs`).**

* `scan_timedShortcutLua`: the tokens of a shortcut's text are those of `shortcutProgram`.
* `hold`, `Chorded`: the keys that are held, and the key events of a chord.
* `shortcut_law`: what the text of every accepted shortcut dispatches.
-/

import Omdesky.Platform.Input.Program
import Omdesky.Text

namespace Omdesky.Platform

open Scan Lua

/-! ### The program of a shortcut -/

/-- The focus on a window, unless it is the active one. -/
def focusOn (window : WindowSelector) : List Dispatch :=
  match window with
  | .activeWindow => []
  | .byClass _ | .address _ => [.focus window.asHypr]

/-- The focus on the window to return to. -/
def restoreOn (address : String) : Dispatch := .focus ("address:" ++ address)

/-- The key events of a chord, one by one. -/
def chordEvents (chord : KeyChord) : List KeyEvent :=
  chord.mods.map (fun modifier => ⟨"", modifierKey modifier, true⟩) ++
    [⟨"", chord.key, true⟩, ⟨"", chord.key, false⟩] ++
    chord.mods.reverse.map fun modifier => ⟨"", modifierKey modifier, false⟩

/-- The program of `timed_shortcut_lua`. -/
def shortcutProgram (chord : KeyChord) (window : WindowSelector) (restoreAddress : Option String) :
    List Statement :=
  (focusOn window).map .dispatch ++
    if chord.key = "Z" then
      [.dispatch (.key ⟨chord.modifiersHypr, chord.key, true⟩),
        .timer (.dispatch (.key ⟨chord.modifiersHypr, chord.key, false⟩) ::
          (restoreAddress.map restoreOn).toList.map .dispatch) "50".toList, .finish]
    else sequenceProgram ((chordEvents chord).map .key ++ (restoreAddress.map restoreOn).toList)

theorem trace_shortcutProgram (chord : KeyChord) (window : WindowSelector)
    (restoreAddress : Option String) : trace (shortcutProgram chord window restoreAddress) =
      focusOn window ++ ((if chord.key = "Z" then
        [⟨chord.modifiersHypr, chord.key, true⟩, ⟨chord.modifiersHypr, chord.key, false⟩]
          else chordEvents chord).map .key ++ (restoreAddress.map restoreOn).toList) := by
  rw [shortcutProgram, trace_append]
  split
  · cases restoreAddress <;> rfl
  · rw [trace_sequenceProgram]

/-! ### Its tokens -/

section Tokens

/-- What the text of a shortcut begins with. -/
def focusText (window : WindowSelector) : String :=
  match window with
  | .activeWindow => ""
  | .byClass _ | .address _ => "hl.dispatch(" ++ focusDispatcher window ++ "); "

/-- The tokens it begins with. -/
def focusTokens (window : WindowSelector) : List Token :=
  (focusOn window).flatMap fun action => (Statement.dispatch action).tokens ++ lexed ";"

theorem blockTokens_focusOn {window : WindowSelector} {block : List Statement} (some : block ≠ []) :
    blockTokens ((focusOn window).map .dispatch ++ block) = focusTokens window ++ blockTokens block := by
  obtain ⟨statement, rest, rfl⟩ := List.exists_cons_of_ne_nil some
  cases window <;> simp [focusOn, focusTokens, blockTokens, furtherTokens]

theorem reads_focusText {window : WindowSelector} (plain : PlainText window.asHypr) :
    Reads (focusText window) (focusTokens window) := by
  have mark : "); " = ")" ++ "; " := by decide
  have focuses : Reads ("hl.dispatch(" ++ focusDispatcher window ++ "); ")
      ((Statement.dispatch (.focus window.asHypr)).tokens ++ lexed ";") := by
    rw [mark, ← String.append_assoc]
    exact (reads_dispatch (reads_focus plain)).append reads_separator
  cases window with
  | activeWindow => decide
  | byClass name => simpa [focusText, focusTokens, focusOn] using focuses
  | address value => simpa [focusText, focusTokens, focusOn] using focuses

/-- The dispatcher that returns to a window is a focus on it. -/
theorem reads_restore {address : String} (plain : PlainText address) :
    Reads (restoreFocusDispatcher address) (restoreOn address).tokens := by
  have mark : "hl.dsp.focus(\x7b window = \"address:" = "hl.dsp.focus(\x7b window = \"" ++ "address:" := by
    decide +kernel
  have cut : restoreFocusDispatcher address =
      "hl.dsp.focus(\x7b window = \"" ++ ("address:" ++ address) ++ "\" \x7d)" := by
    unfold restoreFocusDispatcher
    rw [mark]
    simp only [String.append_assoc]
  have whole : PlainText ("address:" ++ address) := PlainText.append (by decide) plain
  rw [cut]
  exact reads_focus whole

variable {chord : KeyChord} {restoreAddress : Option String}

/-- The key events of a chord, and the return to the window before. -/
theorem write_chord (key : PlainText chord.key) (restore : ∀ address ∈ restoreAddress, PlainText address) :
    Write (shortcutKeyDispatchers chord ++ restoreAddress.toList.map restoreFocusDispatcher)
      ((chordEvents chord).map .key ++ (restoreAddress.map restoreOn).toList) := by
  have modifier (modifier : KeyModifier) : PlainText (modifierKey modifier) := by
    cases modifier <;> decide
  have events (mods : List KeyModifier) (pressed : Bool) :
      Write (mods.map fun modifier => keyStateDispatcher (modifierKey modifier) (stateText pressed))
        ((mods.map fun modifier => ⟨"", modifierKey modifier, pressed⟩).map .key) := by
    rw [List.map_map, Write, List.forall₂_map_left_iff, List.forall₂_map_right_iff, List.forall₂_same]
    exact fun member _ => reads_sendKeyState (by decide) (modifier member) pressed
  have presses : Write [keyStateDispatcher chord.key "down", keyStateDispatcher chord.key "up"]
      [.key ⟨"", chord.key, true⟩, .key ⟨"", chord.key, false⟩] :=
    .cons (reads_sendKeyState (by decide) key true)
      (.cons (reads_sendKeyState (by decide) key false) .nil)
  have returns : Write (restoreAddress.toList.map restoreFocusDispatcher)
      (restoreAddress.map restoreOn).toList := by
    cases restoreAddress with
    | none => exact .nil
    | some address => exact .cons (reads_restore (restore address rfl)) .nil
  have all := List.rel_append (List.rel_append (List.rel_append (events chord.mods true) presses)
    (events chord.mods.reverse false)) returns
  have down : stateText true = "down" := rfl
  have up : stateText false = "up" := rfl
  simpa only [Write, shortcutKeyDispatchers, chordEvents, List.map_append, List.map_cons,
    List.map_nil, down, up] using all

/-- The modifiers of a chord are written with letters and blanks. -/
theorem plain_modifiersHypr (chord : KeyChord) : PlainText chord.modifiersHypr := by
  have names (modifier : KeyModifier) : PlainText modifier.asHypr := by cases modifier <;> decide
  have blank : PlainText " " := by decide
  refine forall_mem_intercalate blank fun part member => ?_
  obtain ⟨modifier, _, rfl⟩ := List.mem_map.mp member
  exact names modifier

/-- What the timer of the capture chord does. -/
theorem reads_release (key : PlainText chord.key)
    (restore : ∀ address ∈ restoreAddress, PlainText address) :
    Reads ("hl.dispatch(" ++ sendKeyState chord.modifiersHypr chord.key "up" ++ ")" ++
        restoreAddress.elim "" (fun address =>
          "; hl.dispatch(" ++ restoreFocusDispatcher address ++ ")") ++ " ")
      (blockTokens (.dispatch (.key ⟨chord.modifiersHypr, chord.key, false⟩) ::
        (restoreAddress.map restoreOn).toList.map .dispatch)) := by
  have release := reads_dispatch (reads_sendKeyState (plain_modifiersHypr chord) key false)
  have blank : Reads " " [] := by decide
  have returns : Reads (restoreAddress.elim "" fun address =>
      "; hl.dispatch(" ++ restoreFocusDispatcher address ++ ")")
        (furtherTokens ((restoreAddress.map restoreOn).toList.map .dispatch)) := by
    cases restoreAddress with
    | none => decide
    | some address =>
        have mark : "; hl.dispatch(" = "; " ++ "hl.dispatch(" := by decide
        have back := reads_separator.append (reads_dispatch (reads_restore (restore address rfl)))
        have tokens : furtherTokens (((some address).map restoreOn).toList.map .dispatch) =
            lexed ";" ++ (Statement.dispatch (restoreOn address)).tokens := by simp [furtherTokens]
        rw [Option.elim_some, mark, tokens]
        simpa only [String.append_assoc] using back
  have whole := (release.append returns).append blank
  rw [List.append_nil] at whole
  exact whole

/-- The events of the capture chord, whose modifiers go with its key. -/
theorem reads_capture (key : PlainText chord.key)
    (restore : ∀ address ∈ restoreAddress, PlainText address) :
    Reads ("hl.dispatch(" ++ sendKeyState chord.modifiersHypr chord.key "down" ++
        "); hl.timer(function() hl.dispatch(" ++ sendKeyState chord.modifiersHypr chord.key "up" ++
          ")" ++ restoreAddress.elim "" (fun address =>
            "; hl.dispatch(" ++ restoreFocusDispatcher address ++ ")") ++
              " end, \x7b timeout = 50, type = \"oneshot\" \x7d); return true" ++ " ")
      (blockTokens [.dispatch (.key ⟨chord.modifiersHypr, chord.key, true⟩),
        .timer (.dispatch (.key ⟨chord.modifiersHypr, chord.key, false⟩) ::
          (restoreAddress.map restoreOn).toList.map .dispatch) "50".toList, .finish]) := by
  have press := reads_dispatch (reads_sendKeyState (plain_modifiersHypr chord) key true)
  have timer := reads_timer (reads_release key restore) "50" (by decide +kernel)
  have finish : Reads "return true " (Statement.finish).tokens := by decide +kernel
  have whole := (((press.append reads_separator).append timer).append reads_separator).append finish
  have mark : "); hl.timer(function() hl.dispatch(" =
      ")" ++ ("; " ++ ("hl.timer(function() " ++ "hl.dispatch(")) := by decide +kernel
  have endMark : " end, \x7b timeout = 50, type = \"oneshot\" \x7d); return true" ++ " " =
      " " ++ ("end, \x7b timeout = " ++ ("50" ++ (", type = \"oneshot\" \x7d)" ++ ("; " ++ "return true ")))) := by
    decide +kernel
  have down : stateText true = "down" := rfl
  rw [String.append_assoc, endMark, mark]
  simpa only [blockTokens, furtherTokens, String.append_assoc, List.append_assoc, List.append_nil,
    down] using whole

/-- **The text of a shortcut has the tokens of its program.** -/
theorem scan_timedShortcutLua {window : WindowSelector} (key : PlainText chord.key)
    (target : PlainText window.asHypr) (restore : ∀ address ∈ restoreAddress, PlainText address) :
    lexer.scan (timedShortcutLua chord window restoreAddress).toList =
      some (blockTokens (shortcutProgram chord window restoreAddress)) := by
  refine scan_of_reads_blank ?_
  by_cases capture : chord.key = "Z"
  · have text : timedShortcutLua chord window restoreAddress ++ " " = focusText window ++
        ("hl.dispatch(" ++ sendKeyState chord.modifiersHypr chord.key "down" ++
          "); hl.timer(function() hl.dispatch(" ++ sendKeyState chord.modifiersHypr chord.key "up" ++
            ")" ++ restoreAddress.elim "" (fun address =>
              "; hl.dispatch(" ++ restoreFocusDispatcher address ++ ")") ++
                " end, \x7b timeout = 50, type = \"oneshot\" \x7d); return true" ++ " ") := by
      unfold timedShortcutLua
      rw [if_pos capture]
      cases window <;> simp only [focusText, String.append_assoc]
    rw [text, shortcutProgram, if_pos capture, blockTokens_focusOn (List.cons_ne_nil _ _)]
    exact (reads_focusText target).append (reads_capture key restore)
  · have text : timedShortcutLua chord window restoreAddress ++ " " = focusText window ++
        (shortcutSequence (shortcutKeyDispatchers chord ++
          restoreAddress.toList.map restoreFocusDispatcher) ++ " ") := by
      unfold timedShortcutLua
      rw [if_neg capture]
      cases window <;> simp only [focusText, String.append_assoc]
    have some : sequenceProgram ((chordEvents chord).map .key ++
        (restoreAddress.map restoreOn).toList) ≠ [] := sequenceProgram_ne_nil (by simp [chordEvents])
    rw [text, shortcutProgram, if_neg capture, blockTokens_focusOn some]
    exact (reads_focusText target).append (reads_shortcutSequence (write_chord key restore))

end Tokens

/-! ### What is inserted -/

/-- The characters of the selectors, keys and addresses in the programs. -/
def isInserted (c : Char) : Bool := c.isAlphanum || c == '.' || c == '_' || c == ':' || c == '-'

/-- A text of such characters. -/
def InsertedText (text : String) : Prop := ∀ c ∈ text.toList, isInserted c = true

instance (text : String) : Decidable (InsertedText text) :=
  decidable_of_iff (text.toList.all isInserted = true) List.all_eq_true

theorem InsertedText.append {first second : String} (early : InsertedText first)
    (late : InsertedText second) : InsertedText (first ++ second) := by
  rw [InsertedText, String.toList_append]
  exact List.forall_mem_append.mpr ⟨early, late⟩

theorem isPlain_of_isInserted {c : Char} (inserted : isInserted c = true) : isPlain c = true :=
  isPlain_of_apart (by decide) inserted

theorem InsertedText.plain {text : String} (inserted : InsertedText text) : PlainText text :=
  fun c member => isPlain_of_isInserted (inserted c member)

theorem isInserted_of_isAlphanum {c : Char} (plain : c.isAlphanum = true) : isInserted c = true := by
  simp [isInserted, plain]

theorem insertedText_key {key : String} (safe : isSafeKeyToken key = true) : InsertedText key := by
  simp only [isSafeKeyToken, Bool.and_eq_true, List.all_eq_true] at safe
  exact fun c member => isInserted_of_isAlphanum (safe.2 c member)

theorem insertedText_handle {value : String} (handle : isHexHandle value = true) : InsertedText value :=
  fun c member => isInserted_of_isAlphanum (isAlphanum_of_isHexHandle handle c member)

theorem insertedText_className {name : String}
    (accepted : (WindowSelector.byClass name).validate = .ok ()) : InsertedText name := by
  intro c member
  have known := (validate_byClass_iff.mp accepted).2 c member
  simp only [isSafeClassChar, Bool.or_eq_true] at known
  simp only [isInserted, Bool.or_eq_true]
  tauto

theorem insertedText_address {value : String}
    (accepted : (WindowSelector.address value).validate = .ok ()) : InsertedText value := by
  have plain := isAlphanum_of_isWindowAddress (validate_address_iff.mp accepted)
  exact fun c member => isInserted_of_isAlphanum (plain c member)

/-- The selector of an accepted window. -/
theorem insertedText_asHypr {window : WindowSelector} (accepted : window.validate = .ok ()) :
    InsertedText window.asHypr := by
  cases window with
  | activeWindow => decide
  | byClass name =>
      have marked : InsertedText "class:" := by decide
      exact marked.append (insertedText_className accepted)
  | address value =>
      have marked : InsertedText "address:" := by decide
      exact marked.append (insertedText_address accepted)

theorem no_backslash {text : String} (inserted : InsertedText text) : '\\' ∉ text.toList :=
  fun member => absurd (inserted _ member) (by decide)

/-! ### The keys -/

/-- One event changes the keys that are held, the last one first. The key that goes up must be the last
one that went down. -/
def KeyEvent.change (held : List String) (event : KeyEvent) : Option (List String) :=
  if event.pressed then some (event.key :: held)
  else match held with
    | [] => none
    | last :: others => if last = event.key then some others else none

/-- The keys that are held after some events. -/
def hold (held : List String) (events : List KeyEvent) : Option (List String) :=
  events.foldlM KeyEvent.change held

/-- The modifiers of a chord when its key goes down: they are held, and nothing else is. Those of the
capture chord go with the event itself. -/
def Modified (chord : KeyChord) (mods : String) (held : List String) : Prop :=
  if chord.key = "Z" then held = [] ∧ mods = chord.modifiersHypr
  else mods = "" ∧ ∀ key, key ∈ held ↔ ∃ modifier ∈ chord.mods, key = modifierKey modifier

/-- **The key events of a chord.** -/
structure Chorded (chord : KeyChord) (events : List KeyEvent) : Prop where
  /-- Every key that goes down goes up, the last one first, and nothing is held in the end. -/
  balanced : hold [] events = some []
  /-- The key of the chord goes down once, with exactly the modifiers of the chord. -/
  pressed : ∃ before after mods held, events = before ++ ⟨mods, chord.key, true⟩ :: after ∧
    (∀ event ∈ before ++ after, event.pressed = true → event.key ≠ chord.key) ∧
      hold [] before = some held ∧ Modified chord mods held
  /-- The capture chord goes down and up with the same modifiers. -/
  capture : chord.key = "Z" → ∃ mods, events = [⟨mods, chord.key, true⟩, ⟨mods, chord.key, false⟩]

section Hold

variable {held : List String}

theorem hold_append (first second : List KeyEvent) :
    hold held (first ++ second) = (hold held first).bind (hold · second) := List.foldlM_append

theorem hold_press (mods : List KeyModifier) :
    hold held (mods.map fun modifier => ⟨"", modifierKey modifier, true⟩) =
      some ((mods.map modifierKey).reverse ++ held) := by
  induction mods generalizing held with
  | nil => rfl
  | cons modifier mods ih =>
      have first : hold held ((modifier :: mods).map fun modifier => ⟨"", modifierKey modifier, true⟩) =
          hold (modifierKey modifier :: held) (mods.map fun modifier => ⟨"", modifierKey modifier, true⟩) :=
        rfl
      rw [first, ih]
      simp

theorem hold_release (mods : List KeyModifier) :
    hold (mods.map modifierKey ++ held) (mods.map fun modifier => ⟨"", modifierKey modifier, false⟩) =
      some held := by
  induction mods with
  | nil => rfl
  | cons modifier mods ih =>
      have change : KeyEvent.change ((modifier :: mods).map modifierKey ++ held)
          ⟨"", modifierKey modifier, false⟩ = some (mods.map modifierKey ++ held) := by
        simp [KeyEvent.change]
      have first : hold ((modifier :: mods).map modifierKey ++ held)
          ((modifier :: mods).map fun modifier => ⟨"", modifierKey modifier, false⟩) =
            (KeyEvent.change ((modifier :: mods).map modifierKey ++ held)
              ⟨"", modifierKey modifier, false⟩).bind (hold ·
                (mods.map fun modifier => ⟨"", modifierKey modifier, false⟩)) := rfl
      rw [first, change]
      exact ih

/-- A key goes down and up again. -/
theorem hold_press_release (mods key : String) :
    hold held [⟨mods, key, true⟩, ⟨mods, key, false⟩] = some held := by
  simp [hold, KeyEvent.change]

end Hold

/-- A safe key is not a modifier's. -/
theorem modifierKey_ne {key : String} (safe : isSafeKeyToken key = true) (modifier : KeyModifier) :
    modifierKey modifier ≠ key := by
  rintro rfl
  cases modifier <;> revert safe <;> decide

/-- **Modifiers around a key.** -/
theorem chorded_chordEvents {chord : KeyChord} (safe : isSafeKeyToken chord.key = true)
    (plain : chord.key ≠ "Z") : Chorded chord (chordEvents chord) := by
  have press := @hold_press [] chord.mods
  have release := @hold_release [] chord.mods.reverse
  rw [List.append_nil] at press release
  refine ⟨?_, ⟨chord.mods.map fun modifier => ⟨"", modifierKey modifier, true⟩,
    ⟨"", chord.key, false⟩ :: chord.mods.reverse.map fun modifier => ⟨"", modifierKey modifier, false⟩,
    "", _, ?_, ?_, press, ?_⟩, fun capture => absurd capture plain⟩
  · rw [chordEvents, hold_append, hold_append, press, Option.bind_some, hold_press_release,
      Option.bind_some, ← List.map_reverse, release]
  · simp [chordEvents]
  · intro event member pressed
    rcases List.mem_append.mp member with before | after
    · obtain ⟨modifier, _, rfl⟩ := List.mem_map.mp before
      exact modifierKey_ne safe modifier
    · rcases List.mem_cons.mp after with rfl | after
      · cases pressed
      · obtain ⟨modifier, _, rfl⟩ := List.mem_map.mp after
        cases pressed
  · refine (if_neg plain).mpr ⟨rfl, fun key => ?_⟩
    rw [List.mem_reverse, List.mem_map]
    exact exists_congr fun modifier => and_congr_right fun _ => eq_comm

/-- The capture chord in one event. -/
theorem chorded_capture {chord : KeyChord} (capture : chord.key = "Z") : Chorded chord
    [⟨chord.modifiersHypr, chord.key, true⟩, ⟨chord.modifiersHypr, chord.key, false⟩] := by
  refine ⟨hold_press_release _ _, ⟨[], [⟨chord.modifiersHypr, chord.key, false⟩], chord.modifiersHypr,
    [], rfl, ?_, rfl, (if_pos capture).mpr ⟨rfl, rfl⟩⟩, fun _ => ⟨_, rfl⟩⟩
  intro event member pressed
  obtain rfl := List.mem_singleton.mp member
  cases pressed

/-! ### The law -/

/-- What a shortcut dispatches: the focus on its window first, unless that is the active one; then the
key events of the chord; and the focus on the window to return to at the very end, if there is one. -/
def ShortcutLaw (chord : KeyChord) (window : WindowSelector) (restoreAddress : Option String)
    (dispatches : List Dispatch) : Prop :=
  ∃ events, Chorded chord events ∧
    dispatches = focusOn window ++ events.map .key ++ (restoreAddress.map restoreOn).toList

/-- The strings of an accepted shortcut's program are written without escape sequences. -/
theorem plainBlock_shortcutProgram {chord : KeyChord} {window : WindowSelector}
    {restoreAddress : Option String} (key : '\\' ∉ chord.key.toList)
    (target : '\\' ∉ window.asHypr.toList)
    (restore : ∀ address ∈ restoreAddress, '\\' ∉ address.toList) :
    PlainBlock (shortcutProgram chord window restoreAddress) := by
  have focus : ∀ action ∈ focusOn window, action.Plain := by
    cases window with
    | activeWindow => exact List.forall_mem_nil _
    | byClass name => exact List.forall_mem_singleton.mpr target
    | address value => exact List.forall_mem_singleton.mpr target
  have returns : ∀ action ∈ (restoreAddress.map restoreOn).toList, action.Plain := by
    cases restoreAddress with
    | none => exact List.forall_mem_nil _
    | some address =>
        refine List.forall_mem_singleton.mpr fun member => ?_
        rw [String.toList_append, List.mem_append] at member
        exact member.elim (by decide) (restore address rfl)
  have mods : '\\' ∉ chord.modifiersHypr.toList := fun member =>
    absurd (plain_modifiersHypr chord _ member) (by decide)
  rw [shortcutProgram, plainBlock_append]
  refine ⟨focus, ?_⟩
  split
  · have released : PlainBlock ((restoreAddress.map restoreOn).toList.map .dispatch ++ []) :=
      plainBlock_append.mpr ⟨returns, trivial⟩
    rw [List.append_nil] at released
    exact ⟨⟨mods, key⟩, ⟨⟨mods, key⟩, released⟩, trivial, trivial⟩
  · refine plainBlock_sequenceProgram (List.forall_mem_append.mpr ⟨?_, returns⟩)
    have modifier (modifier : KeyModifier) : '\\' ∉ (modifierKey modifier).toList := by
      cases modifier <;> decide
    have empty : '\\' ∉ "".toList := by decide
    intro action member
    obtain ⟨event, listed, rfl⟩ := List.mem_map.mp member
    simp only [chordEvents, List.mem_append, List.mem_map, List.mem_cons, List.not_mem_nil,
      or_false] at listed
    obtain (⟨pressed, _, rfl⟩ | rfl | rfl) | ⟨released, _, rfl⟩ := listed
    · exact ⟨empty, modifier pressed⟩
    · exact ⟨empty, key⟩
    · exact ⟨empty, key⟩
    · exact ⟨empty, modifier released⟩

/-- **A shortcut's program presses and releases exactly the chord.** -/
theorem shortcut_law {chord : KeyChord} {window : WindowSelector} {restoreAddress : Option String}
    (safe : chord.validate = .ok ()) (target : window.validate = .ok ())
    (restore : ∀ address ∈ restoreAddress, isHexHandle address = true) :
    ∃ dispatches, traceOf (timedShortcutLua chord window restoreAddress) = some dispatches ∧
      ShortcutLaw chord window restoreAddress dispatches := by
  have safe : isSafeKeyToken chord.key = true := by
    unfold KeyChord.validate at safe
    split at safe
    · assumption
    · cases safe
  have key := insertedText_key safe
  have target := insertedText_asHypr target
  have restore : ∀ address ∈ restoreAddress, InsertedText address := fun address given =>
    insertedText_handle (restore address given)
  have scanned := scan_timedShortcutLua key.plain target.plain
    fun address given => (restore address given).plain
  have plain := plainBlock_shortcutProgram (no_backslash key) (no_backslash target)
    (fun address given => no_backslash (restore address given))
  have program := programOf_eq plain scanned
  refine ⟨_, congrArg (Option.map trace) program, ?_⟩
  rw [trace_shortcutProgram, ← List.append_assoc]
  refine ⟨_, ?_, rfl⟩
  split
  · exact chorded_capture ‹_›
  · exact chorded_chordEvents safe ‹_›

/-- CTRL and F2, sent to a window, and back to the one before. -/
theorem shortcut_law_ctrl : ∃ dispatches,
    traceOf (timedShortcutLua ⟨[.ctrl], "F2"⟩ (.address "0x1f") (some "0x55aa")) = some dispatches ∧
      ShortcutLaw ⟨[.ctrl], "F2"⟩ (.address "0x1f") (some "0x55aa") dispatches :=
  shortcut_law (by decide) (by decide) (by decide)

end Omdesky.Platform
