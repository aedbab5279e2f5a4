/-
**The windows that a text acts on.**

* `selectorsOf`: every window selector in a text up to its last key event, read off the text.
* `selectorsOf_timedShortcutLua`, `selectorsOf_batch_close`, `selectorsOf_controllerActionLua`: a
  shortcut, a close and the action of a keybinding have one, that of their own window.
* `uses_execute`: whatever a command dispatches when it is executed, it dispatches for its window alone.
-/

import Mathlib.Data.Bool.AllAny
import Omdesky.Platform.Input
import Omdesky.Text
import Omdesky.Text.Marker

namespace Omdesky.Platform

open Interaction Interaction.Program

/-! ### The selectors of a text -/

/-- What stands in front of a window selector. -/
def windowMarker : String := "window = \""

/-- What a key event begins with. -/
def keyMarker : String := "hl.dsp.send_key_state("

/-- The part of a text in front of its last key event, or all of a text without one. -/
def beforeKeys (text : List Char) : List Char := (beforeLast keyMarker.toList text).getD text

/-- Every window selector in a text: what stands after each marker, up to the next quote. -/
def selectorsIn (text : List Char) : List (List Char) :=
  (occurrences windowMarker.toList text).map fun rest => rest.takeWhile (· != '\x22')

/-- **Every window selector of a text up to its last key event.** -/
def selectorsOf (text : String) : List String :=
  (selectorsIn (beforeKeys text.toList)).map String.ofList

/-! ### Texts without a marker -/

/-- The marker does not begin in the text. -/
abbrev Clear (marker text : String) : Prop := isClear marker.toList text.toList = true

/-- No window selector begins in the text, and no key event. -/
abbrev Silent (text : String) : Prop := Clear windowMarker text ∧ Clear keyMarker text

/-- A word between quotes: it has no quote, no blank and no parenthesis. -/
abbrev Quoted (word : String) : Prop := ∀ c ∈ word.toList, c ≠ '\x22' ∧ c ≠ ' ' ∧ c ≠ '('

section Texts

variable {marker first second word : String}

theorem Clear.append (early : Clear marker first) (late : Clear marker second) :
    Clear marker (first ++ second) := by
  rw [Clear, String.toList_append]
  exact isClear_append early late

theorem Silent.append (early : Silent first) (late : Silent second) : Silent (first ++ second) :=
  ⟨early.1.append late.1, early.2.append late.2⟩

/-- The characters of a quoted word, or others that are no quote, blank or parenthesis. -/
theorem quoted_of_forall {holds : Char → Bool} (apart : holds '\x22' = false ∧ holds ' ' = false ∧
    holds '(' = false) (safe : ∀ c ∈ word.toList, holds c = true) : Quoted word := by
  obtain ⟨quote, blank, opening⟩ := apart
  intro c member
  have inside := safe c member
  refine ⟨?_, ?_, ?_⟩ <;> rintro rfl
  · rw [quote] at inside
    cases inside
  · rw [blank] at inside
    cases inside
  · rw [opening] at inside
    cases inside

theorem quoted_of_all (plain : (word.toList.all fun c => c != '\x22' && c != ' ' && c != '(') = true) :
    Quoted word :=
  quoted_of_forall ⟨rfl, rfl, rfl⟩ (List.all_eq_true.mp plain)

theorem Quoted.append (early : Quoted first) (late : Quoted second) : Quoted (first ++ second) := by
  intro c member
  rw [String.toList_append, List.mem_append] at member
  exact member.elim (early c) (late c)

/-- A quoted word, with the text that closes the quotes. -/
theorem Quoted.silent (quoted : Quoted word) {closing : String}
    (closes : closing.toList.head? = some '\x22') (silent : Silent closing) :
    Silent (word ++ closing) := by
  obtain ⟨rest, starts⟩ : ∃ rest, closing.toList = '\x22' :: rest := by
    cases letters : closing.toList with
    | nil =>
        rw [letters] at closes
        cases closes
    | cons c rest =>
        rw [letters] at closes
        exact ⟨rest, by rw [Option.some.inj closes]⟩
  have whole : (word ++ closing).toList = (word.toList ++ ['\x22']) ++ rest := by
    rw [String.toList_append, starts, List.append_assoc, List.singleton_append]
  have window : windowMarker.toList = "window".toList ++ ' ' :: "= \"".toList := by decide
  have key : keyMarker.toList = "hl.dsp.send_key_state".toList ++ '(' :: [] := by decide
  rw [Silent, Clear, Clear, starts] at silent
  constructor
  · rw [Clear, whole, window]
    refine isClear_append ?_ (window ▸ (isClear_cons_iff.mp silent.1).2.2)
    exact isClear_word (fun member => (quoted _ member).2.1 rfl) (by decide) (by decide)
  · rw [Clear, whole, key]
    refine isClear_append ?_ (key ▸ (isClear_cons_iff.mp silent.2).2.2)
    exact isClear_word (fun member => (quoted _ member).2.2 rfl) (by decide) (by decide)

/-! ### One selector -/

theorem selectorsIn_of_clear (clear : Clear windowMarker first) (rest : List Char) :
    selectorsIn (first.toList ++ rest) = selectorsIn rest := by
  unfold selectorsIn
  rw [occurrences_of_clear clear]

/-- A selector, and those after it. -/
theorem selectorsIn_selector (quoted : Quoted word) (rest : List Char) :
    selectorsIn ((windowMarker ++ word ++ "\"").toList ++ rest) = word.toList :: selectorsIn rest := by
  have marker : windowMarker.toList = 'w' :: "indow = \"".toList := by decide
  have inside : Clear windowMarker ("indow = \"" ++ (word ++ "\"")) :=
    Clear.append (by decide) (quoted.silent rfl ⟨by decide, by decide⟩).1
  have whole : (windowMarker ++ word ++ "\"").toList ++ rest =
      'w' :: "indow = \"".toList ++ (word.toList ++ '\x22' :: rest) := by
    rw [String.toList_append, String.toList_append, marker]
    simp
  have stops : (word.toList ++ '\x22' :: rest).takeWhile (· != '\x22') = word.toList := by
    rw [List.takeWhile_append_of_pos fun c member => bne_iff_ne.mpr (quoted c member).1]
    simp
  have later : "indow = \"".toList ++ (word.toList ++ '\x22' :: rest) =
      ("indow = \"" ++ (word ++ "\"")).toList ++ rest := by
    rw [String.toList_append, String.toList_append]
    simp
  unfold selectorsIn
  rw [whole, marker, occurrences_marker, List.map_cons, stops, later, ← marker,
    occurrences_of_clear inside]

/-- One selector between two texts that have none. -/
theorem selectorsIn_one (before : Clear windowMarker first) (quoted : Quoted word)
    (after : Clear windowMarker second) :
    selectorsIn (first ++ (windowMarker ++ word ++ "\"") ++ second).toList = [word.toList] := by
  have none : selectorsIn second.toList = [] := by
    have alone := selectorsIn_of_clear after []
    rwa [List.append_nil] at alone
  rw [String.toList_append, String.toList_append, List.append_assoc, selectorsIn_of_clear before,
    selectorsIn_selector quoted, none]

/-- The text has a key event, and no selector up to its last one. -/
def EndsKeyed (text : String) : Prop :=
  ∃ before after, text = before ++ (keyMarker ++ after) ∧ Clear windowMarker before ∧
    Clear keyMarker after

theorem EndsKeyed.prepend (keyed : EndsKeyed second) (early : Clear windowMarker first) :
    EndsKeyed (first ++ second) := by
  obtain ⟨before, after, rfl, clear, last⟩ := keyed
  exact ⟨first ++ before, after, String.append_assoc.symm, early.append clear, last⟩

theorem EndsKeyed.append (keyed : EndsKeyed first) (late : Clear keyMarker second) :
    EndsKeyed (first ++ second) := by
  obtain ⟨before, after, rfl, clear, last⟩ := keyed
  refine ⟨before, after ++ second, ?_, clear, last.append late⟩
  simp only [String.append_assoc]

/-- **A selector in front of the keys.** Whatever stands behind the last key event is left out. -/
theorem selectorsOf_keyed (before : Clear windowMarker first) (quoted : Quoted word)
    (keyed : EndsKeyed second) :
    selectorsOf (first ++ (windowMarker ++ word ++ "\"") ++ second) = [word] := by
  obtain ⟨between, after, rfl, clear, last⟩ := keyed
  have marker : keyMarker.toList = 'h' :: "l.dsp.send_key_state(".toList := by decide
  have found : beforeLast keyMarker.toList (keyMarker ++ after).toList = some [] := by
    have rest : Clear keyMarker ("l.dsp.send_key_state(" ++ after) := Clear.append (by decide) last
    rw [Clear, String.toList_append, marker] at rest
    rw [String.toList_append, marker]
    exact beforeLast_marker rest
  have front : beforeKeys (first ++ (windowMarker ++ word ++ "\"") ++
      (between ++ (keyMarker ++ after))).toList =
        (first ++ (windowMarker ++ word ++ "\"") ++ between).toList := by
    unfold beforeKeys
    rw [← String.append_assoc, String.toList_append, beforeLast_append found, Option.getD_some,
      List.append_nil]
  rw [selectorsOf, front, selectorsIn_one before quoted clear, List.map_cons, List.map_nil,
    String.ofList_toList]

/-- A selector in a text without a key event. -/
theorem selectorsOf_silent (before : Silent first) (quoted : Quoted word) (after : Silent second) :
    selectorsOf (first ++ (windowMarker ++ word ++ "\"") ++ second) = [word] := by
  have unkeyed : Clear keyMarker (first ++ (windowMarker ++ word ++ "\"") ++ second) := by
    have closed : Silent (word ++ "\"") := quoted.silent rfl ⟨by decide, by decide⟩
    have selector : Clear keyMarker (windowMarker ++ word ++ "\"") := by
      rw [String.append_assoc]
      exact Clear.append (by decide) closed.2
    exact (before.2.append selector).append after.2
  rw [selectorsOf, beforeKeys, beforeLast_of_clear unkeyed, Option.getD_none,
    selectorsIn_one before.1 quoted after.1, List.map_cons, List.map_nil, String.ofList_toList]

end Texts

/-! ### Key events -/

section Keys

variable {mods key state : String}

/-- A key event is one, and no selector. -/
structure IsKey (dispatcher : String) : Prop where
  clear : Clear windowMarker dispatcher
  keyed : EndsKeyed dispatcher

theorem isKey_sendKeyState (modifiers : Silent mods) (name : Quoted key) (stands : Quoted state) :
    IsKey (sendKeyState mods key state) := by
  have closesKey : Silent (key ++ "\", state = \"") := name.silent rfl ⟨by decide, by decide⟩
  have closesState : Silent (state ++ "\" \x7d)") := stands.silent rfl ⟨by decide, by decide⟩
  have inner : Silent ("\x7b mods = \"" ++ (mods ++ ("\", key = \"" ++ ((key ++ "\", state = \"") ++
      (state ++ "\" \x7d)"))))) :=
    Silent.append ⟨by decide, by decide⟩ (modifiers.append
      (Silent.append ⟨by decide, by decide⟩ (closesKey.append closesState)))
  have opens : "hl.dsp.send_key_state(\x7b mods = \"" = keyMarker ++ "\x7b mods = \"" := by
    rw [← String.toList_inj, String.toList_append]
    decide
  have whole : sendKeyState mods key state = keyMarker ++ ("\x7b mods = \"" ++ (mods ++
      ("\", key = \"" ++ ((key ++ "\", state = \"") ++ (state ++ "\" \x7d)"))))) := by
    unfold sendKeyState
    simp only [opens, String.append_assoc]
  refine ⟨?_, "", _, whole.trans String.empty_append.symm, by decide, inner.2⟩
  rw [whole]
  exact Clear.append (by decide) inner.1

theorem quoted_key (safe : isSafeKeyToken key = true) : Quoted key := by
  simp only [isSafeKeyToken, Bool.and_eq_true, List.all_eq_true] at safe
  exact quoted_of_forall (by decide) safe.2

theorem quoted_modifierKey (modifier : KeyModifier) : Quoted (modifierKey modifier) := by
  cases modifier <;> exact quoted_of_all rfl

/-- The modifiers of a chord are written with capitals and blanks. -/
theorem silent_modifiersHypr (chord : KeyChord) : Silent chord.modifiersHypr := by
  have names (modifier : KeyModifier) : ∀ c ∈ modifier.asHypr.toList, c ≠ 'w' ∧ c ≠ 'h' := by
    cases modifier <;> exact List.all_iff_forall_prop.mp rfl
  have apart : ∀ c ∈ chord.modifiersHypr.toList, c ≠ 'w' ∧ c ≠ 'h' := by
    refine forall_mem_intercalate (List.all_iff_forall_prop.mp rfl) fun part member => ?_
    obtain ⟨modifier, _, rfl⟩ := List.mem_map.mp member
    exact names modifier
  have window : windowMarker.toList = 'w' :: "indow = \"".toList := by decide
  have event : keyMarker.toList = 'h' :: "l.dsp.send_key_state(".toList := by decide
  rw [Silent, Clear, Clear, window, event]
  exact ⟨isClear_absent fun member => (apart _ member).1 rfl,
    isClear_absent fun member => (apart _ member).2 rfl⟩

theorem quoted_down : Quoted "down" := quoted_of_all rfl

theorem quoted_up : Quoted "up" := quoted_of_all rfl

/-- The press and the release of a chord. -/
theorem isKey_chord {chord : KeyChord} (safe : isSafeKeyToken chord.key = true)
    (stands : Quoted state) : IsKey (sendKeyState chord.modifiersHypr chord.key state) :=
  isKey_sendKeyState (silent_modifiersHypr chord) (quoted_key safe) stands

/-- Every dispatcher of a shortcut is a key event. -/
theorem isKey_of_mem_shortcutKeyDispatchers {chord : KeyChord} {dispatcher : String}
    (safe : isSafeKeyToken chord.key = true) (member : dispatcher ∈ shortcutKeyDispatchers chord) :
    IsKey dispatcher := by
  have event {key state : String} (name : Quoted key) (stands : Quoted state) :
      IsKey (keyStateDispatcher key state) := isKey_sendKeyState ⟨rfl, rfl⟩ name stands
  simp only [shortcutKeyDispatchers, List.mem_append, List.mem_map, List.mem_cons,
    List.mem_nil_iff, or_false] at member
  rcases member with (⟨modifier, _, rfl⟩ | rfl | rfl) | ⟨modifier, _, rfl⟩
  · exact event (quoted_modifierKey modifier) quoted_down
  · exact event (quoted_key safe) quoted_down
  · exact event (quoted_key safe) quoted_up
  · exact event (quoted_modifierKey modifier) quoted_up

/-! ### Sequences of key events -/

theorem shortcutSequence_cons {action : String} {rest : List String} (more : rest ≠ []) :
    shortcutSequence (action :: rest) = "hl.dispatch(" ++ action ++ "); hl.timer(function() " ++
      shortcutSequence rest ++ " end, \x7b timeout = 25, type = \"oneshot\" \x7d)" := by
  cases rest with
  | nil => exact absurd rfl more
  | cons next later => rfl

/-- No key event among the actions, and none in their sequence. -/
theorem clear_shortcutSequence {actions : List String}
    (clear : ∀ action ∈ actions, Clear keyMarker action) : Clear keyMarker (shortcutSequence actions) := by
  induction actions with
  | nil => rfl
  | cons action rest ih =>
      obtain ⟨own, others⟩ := List.forall_mem_cons.mp clear
      by_cases more : rest = []
      · subst more
        exact (Clear.append (by decide) own).append (by decide)
      · rw [shortcutSequence_cons more]
        exact (((Clear.append (by decide) own).append (by decide)).append (ih others)).append
          (by decide)

/-- **Key events, one after the other**, and then what is done without any. -/
theorem endsKeyed_shortcutSequence {keys later : List String} (some : keys ≠ [])
    (events : ∀ key ∈ keys, IsKey key) (clear : ∀ action ∈ later, Clear keyMarker action) :
    EndsKeyed (shortcutSequence (keys ++ later)) := by
  induction keys with
  | nil => exact absurd rfl some
  | cons key rest ih =>
      obtain ⟨own, others⟩ := List.forall_mem_cons.mp events
      have starts : EndsKeyed ("hl.dispatch(" ++ key) := own.keyed.prepend (by decide)
      rw [List.cons_append]
      by_cases more : rest = []
      · subst more
        rw [List.nil_append]
        cases later with
        | nil => exact starts.append (by decide)
        | cons action after =>
            rw [shortcutSequence_cons (List.cons_ne_nil action after)]
            exact ((starts.append (by decide)).append (clear_shortcutSequence clear)).append
              (by decide)
      · rw [shortcutSequence_cons (List.append_ne_nil_of_left_ne_nil more later)]
        have before : Clear windowMarker ("hl.dispatch(" ++ key ++ "); hl.timer(function() ") :=
          (Clear.append (by decide) own.clear).append (by decide)
        exact ((ih more others).prepend before).append (by decide)

/-- The return to the window before is no key event. -/
theorem clear_restoreFocusDispatcher {address : String} (quoted : Quoted address) :
    Clear keyMarker (restoreFocusDispatcher address) := by
  have closes : Silent (address ++ "\" \x7d)") := quoted.silent rfl ⟨by decide, by decide⟩
  unfold restoreFocusDispatcher
  rw [String.append_assoc]
  exact Clear.append (by decide) closes.2

end Keys

/-! ### The texts of this repository -/

section Dispatched

variable {window : WindowSelector} {first second : String}

/-- The focus on a window, and key events behind it. -/
theorem selectorsOf_focusDispatcher (before : Clear windowMarker first) (quoted : Quoted window.asHypr)
    (keyed : EndsKeyed second) :
    selectorsOf (first ++ focusDispatcher window ++ second) = [window.asHypr] := by
  have opens : "hl.dsp.focus(\x7b window = \"" = "hl.dsp.focus(\x7b " ++ windowMarker := by
    rw [← String.toList_inj, String.toList_append]
    decide
  have closes : "\" \x7d)" = "\"" ++ " \x7d)" := by decide
  have whole : first ++ focusDispatcher window ++ second = first ++ "hl.dsp.focus(\x7b " ++
      (windowMarker ++ window.asHypr ++ "\"") ++ (" \x7d)" ++ second) := by
    unfold focusDispatcher
    simp only [opens, closes, String.append_assoc]
  rw [whole]
  exact selectorsOf_keyed (before.append (by decide)) quoted (keyed.prepend (by decide))

/-- The close of a window. -/
theorem selectorsOf_close (before : Silent first) (quoted : Quoted window.asHypr)
    (after : Silent second) :
    selectorsOf (first ++ ("hl.dsp.window.close(\x7b window = \"" ++ window.asHypr ++ "\" \x7d)") ++
      second) = [window.asHypr] := by
  have opens : "hl.dsp.window.close(\x7b window = \"" =
      "hl.dsp.window.close(\x7b " ++ windowMarker := by
    rw [← String.toList_inj, String.toList_append]
    decide
  have closes : "\" \x7d)" = "\"" ++ " \x7d)" := by decide
  have whole : first ++ ("hl.dsp.window.close(\x7b window = \"" ++ window.asHypr ++ "\" \x7d)") ++
      second = first ++ "hl.dsp.window.close(\x7b " ++ (windowMarker ++ window.asHypr ++ "\"") ++
        (" \x7d)" ++ second) := by
    simp only [opens, closes, String.append_assoc]
  rw [whole]
  exact selectorsOf_silent (before.append ⟨by decide, by decide⟩) quoted
    (Silent.append ⟨by decide, by decide⟩ after)

/-- What a shortcut does behind the focus on its window. -/
def shortcutKeys (chord : KeyChord) (restoreAddress : Option String) : String :=
  if chord.key = "Z" then
    "hl.dispatch(" ++ sendKeyState chord.modifiersHypr chord.key "down" ++
      "); hl.timer(function() hl.dispatch(" ++ sendKeyState chord.modifiersHypr chord.key "up" ++
        ")" ++ restoreAddress.elim "" (fun address =>
          "; hl.dispatch(" ++ restoreFocusDispatcher address ++ ")") ++
            " end, \x7b timeout = 50, type = \"oneshot\" \x7d); return true"
  else
    shortcutSequence (shortcutKeyDispatchers chord ++ restoreAddress.toList.map restoreFocusDispatcher)

theorem timedShortcutLua_eq {chord : KeyChord} {restoreAddress : Option String}
    (aimed : window ≠ .activeWindow) : timedShortcutLua chord window restoreAddress =
      "hl.dispatch(" ++ focusDispatcher window ++ ("); " ++ shortcutKeys chord restoreAddress) := by
  cases window with
  | activeWindow => exact absurd rfl aimed
  | byClass name =>
      unfold timedShortcutLua shortcutKeys
      dsimp only
      split <;> simp only [String.append_assoc]
  | address value =>
      unfold timedShortcutLua shortcutKeys
      dsimp only
      split <;> simp only [String.append_assoc]

/-- The window before is focused behind the last key event. -/
theorem endsKeyed_shortcutKeys {chord : KeyChord} {restoreAddress : Option String}
    (safe : isSafeKeyToken chord.key = true) (restore : ∀ address ∈ restoreAddress, Quoted address) :
    EndsKeyed (shortcutKeys chord restoreAddress) := by
  unfold shortcutKeys
  split
  · have press := isKey_chord safe quoted_down
    have release := isKey_chord safe quoted_up
    have before : Clear windowMarker ("hl.dispatch(" ++
        sendKeyState chord.modifiersHypr chord.key "down" ++
          "); hl.timer(function() hl.dispatch(") :=
      (Clear.append (by decide) press.clear).append (by decide)
    have returns : Clear keyMarker (restoreAddress.elim "" fun address =>
        "; hl.dispatch(" ++ restoreFocusDispatcher address ++ ")") := by
      cases restoreAddress with
      | none => rfl
      | some address =>
          exact (Clear.append (by decide) (clear_restoreFocusDispatcher (restore address rfl))).append
            (by decide)
    exact (((release.keyed.prepend before).append (by decide)).append returns).append (by decide)
  · refine endsKeyed_shortcutSequence ?_ (fun _ => isKey_of_mem_shortcutKeyDispatchers safe) ?_
    · simp [shortcutKeyDispatchers]
    · intro action member
      obtain ⟨address, held, rfl⟩ := List.mem_map.mp member
      exact clear_restoreFocusDispatcher (restore address (Option.mem_toList.mp held))

/-- **The program of a shortcut** acts on its window: the only other one is focused behind the keys. -/
theorem selectorsOf_timedShortcutLua {chord : KeyChord} {restoreAddress : Option String}
    (aimed : window ≠ .activeWindow) (quoted : Quoted window.asHypr)
    (safe : isSafeKeyToken chord.key = true) (restore : ∀ address ∈ restoreAddress, Quoted address) :
    selectorsOf (timedShortcutLua chord window restoreAddress) = [window.asHypr] := by
  rw [timedShortcutLua_eq aimed]
  exact selectorsOf_focusDispatcher (by decide) quoted
    ((endsKeyed_shortcutKeys safe restore).prepend (by decide))

/-- The batch that closes a window. -/
theorem selectorsOf_batch_close (quoted : Quoted window.asHypr) :
    selectorsOf (hyprctlBatchArgument
      ["hl.dsp.window.close(\x7b window = \"" ++ window.asHypr ++ "\" \x7d)"]) =
        [window.asHypr] := by
  simp only [hyprctlBatchArgument, List.map_cons, List.map_nil, String.intercalate_singleton]
  exact selectorsOf_close ⟨by decide, by decide⟩ quoted ⟨by decide, by decide⟩

/-- The keybinding that toggles the capture focuses the window, and sends two key events behind it. -/
theorem selectorsOf_shortcutAction {chord : KeyChord} {action : String}
    (acts : controllerAction (.sendShortcut chord window) = some action)
    (safe : isSafeKeyToken chord.key = true) (quoted : Quoted window.asHypr)
    (before : Silent first) (after : Silent second) :
    selectorsOf (first ++ action ++ second) = [window.asHypr] := by
  have press := isKey_chord safe quoted_down
  have release := isKey_chord safe quoted_up
  let keys := sendKeyState chord.modifiersHypr chord.key
  have whole : first ++ action ++ second = first ++ "function() hl.timer(function() hl.dispatch(" ++
      focusDispatcher window ++ ("); hl.dispatch(" ++ keys "down" ++
        "); hl.timer(function() hl.dispatch(" ++ (keys "up" ++
          ") end, \x7b timeout = 50, type = \"oneshot\" \x7d) end, " ++
            "\x7b timeout = 100, type = \"oneshot\" \x7d) end" ++ second)) := by
    rw [← Option.some.inj acts]
    simp only [keys, String.append_assoc]
  have events : Clear windowMarker ("); hl.dispatch(" ++ keys "down" ++
      "); hl.timer(function() hl.dispatch(") :=
    (Clear.append (by decide) press.clear).append (by decide)
  rw [whole]
  refine selectorsOf_focusDispatcher (before.1.append (by decide)) quoted ?_
  refine EndsKeyed.prepend ?_ events
  exact ((release.keyed.append (by decide)).append (by decide)).append after.2

/-- The keybinding that closes the window has one selector and no key event. -/
theorem selectorsOf_closeAction {action : String}
    (acts : controllerAction (.closeWindow window) = some action) (quoted : Quoted window.asHypr)
    (before : Silent first) (after : Silent second) :
    selectorsOf (first ++ action ++ second) = [window.asHypr] := by
  have starts : "function() hl.dispatch(hl.dsp.exec_cmd([==[hyprctl --batch '" ++
      ("eval hl.dispatch(" ++ (("hl.dsp.window.close(\x7b window = \"" ++ window.asHypr ++
        "\" \x7d)") ++ ")")) ++ "']==])) end" = action := by
    rw [← Option.some.inj acts]
    simp only [hyprctlBatchArgument, List.map_cons, List.map_nil, String.intercalate_singleton,
      String.append_assoc]
  have opens : "function() hl.dispatch(hl.dsp.exec_cmd([==[hyprctl --batch 'eval hl.dispatch(" =
      "function() hl.dispatch(hl.dsp.exec_cmd([==[hyprctl --batch '" ++ "eval hl.dispatch(" := by
    rw [← String.toList_inj, String.toList_append]
    decide
  have closes : ")']==])) end" = ")" ++ "']==])) end" := by
    rw [← String.toList_inj, String.toList_append]
    decide
  have whole : first ++ action ++ second =
      first ++ "function() hl.dispatch(hl.dsp.exec_cmd([==[hyprctl --batch 'eval hl.dispatch(" ++
        ("hl.dsp.window.close(\x7b window = \"" ++ window.asHypr ++ "\" \x7d)") ++
          (")']==])) end" ++ second) := by
    rw [← starts, opens, closes]
    simp only [String.append_assoc]
  rw [whole]
  exact selectorsOf_close (before.append ⟨by decide, by decide⟩) quoted
    (Silent.append ⟨by decide, by decide⟩ after)

/-- **The action of a keybinding**, between any two texts without a selector or a key event. -/
theorem selectorsOf_controllerAction {bind : Keybind} {action : String}
    (member : bind ∈ sessionKeybinds window) (acts : controllerAction bind.command = some action)
    (quoted : Quoted window.asHypr) (before : Silent first) (after : Silent second) :
    selectorsOf (first ++ action ++ second) = [window.asHypr] := by
  rcases List.mem_cons.mp member with rfl | member
  · exact selectorsOf_shortcutAction acts (by decide) quoted before after
  · obtain rfl := List.mem_singleton.mp member
    exact selectorsOf_closeAction acts quoted before after

/-- The notice of a debug build. -/
theorem silent_debugNotify {message : String} (silent : Silent message) :
    Silent (debugNotify message) := by
  unfold debugNotify
  exact (Silent.append ⟨by decide, by decide⟩ silent).append ⟨by decide, by decide⟩

/-- **A keybinding of the controller** acts on the window it was made for. -/
theorem selectorsOf_controllerActionLua {debugAssertions : Bool} {bind : Keybind} {text : String}
    (member : bind ∈ sessionKeybinds window)
    (acts : controllerActionLua debugAssertions bind = some text) (quoted : Quoted window.asHypr) :
    selectorsOf text = [window.asHypr] := by
  unfold controllerActionLua at acts
  cases found : controllerAction bind.command with
  | none =>
      rw [found] at acts
      cases acts
  | some action =>
      rw [found] at acts
      have own {first second : String} (before : Silent first) (after : Silent second) :=
        selectorsOf_controllerAction member found quoted before after
      cases debugAssertions with
      | false =>
          obtain rfl := Option.some.inj acts
          simpa using @own "" "" ⟨rfl, rfl⟩ ⟨rfl, rfl⟩
      | true =>
          obtain rfl := Option.some.inj acts
          have notice : Silent (")(); " ++ debugNotify bind.description ++ " end") := by
            have described : Silent bind.description := by
              rcases List.mem_cons.mp member with rfl | member
              · exact show Silent "toggle remote shortcut capture" from ⟨by decide, by decide⟩
              · obtain rfl := List.mem_singleton.mp member
                exact show Silent "close remote session" from ⟨by decide, by decide⟩
            exact (Silent.append ⟨by decide, by decide⟩ (silent_debugNotify described)).append
              ⟨by decide, by decide⟩
          have shown := own (show Silent "function() (" from ⟨by decide, by decide⟩) notice
          simpa only [String.append_assoc] using shown

end Dispatched

/-! ### The selectors of the executor -/

/-- The text a call dispatches, if it dispatches one. -/
def HyprctlCall.dispatched (call : HyprctlCall) : Option String :=
  match call.args with
  | ["eval", text] | ["--batch", text] => some text
  | _ => none

/-- What the call dispatches, it dispatches for this selector alone. -/
def Selects (selector : String) (call : HyprctlCall) : Prop :=
  ∀ text, call.dispatched = some text → selectorsOf text = [selector]

theorem uses_runHyprland {permitted : HyprctlCall → Prop} {args : List String}
    (permits : permitted ⟨args⟩) : Uses permitted (runHyprland args).run := by
  refine ⟨permits, fun answer => ?_⟩
  cases answer with
  | error error => exact trivial
  | ok output =>
      dsimp only [Program.bind]
      split <;> exact trivial

/-- The selector of an accepted window. -/
theorem quoted_of_validate {window : WindowSelector} (accepted : window.validate = .ok ()) :
    Quoted window.asHypr := by
  cases window with
  | activeWindow => exact quoted_of_all rfl
  | byClass name =>
      obtain ⟨_, safe⟩ := validate_byClass_iff.mp accepted
      have opening : Quoted "class:" := quoted_of_all rfl
      exact opening.append (quoted_of_forall (by decide) safe)
  | address value =>
      have letters := isAlphanum_of_isWindowAddress (validate_address_iff.mp accepted)
      have opening : Quoted "address:" := quoted_of_all rfl
      exact opening.append (quoted_of_forall (by decide) letters)

/-- The address of the window before is a handle. -/
theorem quoted_of_activeWindowAddress {decode : String → Except String (Option String)}
    {output address : String} (found : activeWindowAddress decode output = .ok address) :
    Quoted address := by
  unfold activeWindowAddress at found
  split at found
  · cases found
  · rename_i value _
    split at found
    · rename_i handle filtered
      obtain rfl := Except.ok.inj found
      have hex : isHexHandle handle = true := by
        cases value with
        | none => cases filtered
        | some text =>
            obtain ⟨same, hex⟩ := Option.filter_eq_some_iff.mp filtered
            exact hex
      exact quoted_of_forall (by decide) (isAlphanum_of_isHexHandle hex)
    · cases found

/-- So is the address that a shortcut returns to. -/
theorem quoted_of_previousWindow {decode : String → Except String (Option String)}
    {window : WindowSelector} {trace : List (Event HyprctlCall HyprctlAnswer)}
    {previous : Option String} (run : Traces (previousWindow decode window).run trace (.ok previous)) :
    ∀ address ∈ previous, Quoted address := by
  have found {output : String} {later : List (Event HyprctlCall HyprctlAnswer)}
      (rest : Traces (do
        let address ← (ExceptT.mk (return activeWindowAddress decode output) : HyprctlA String)
        return some address : HyprctlA (Option String)).run later (.ok previous)) :
      ∀ address ∈ previous, Quoted address := by
    obtain ⟨_, ⟨⟩, _⟩ | ⟨_, _, address, _, read, _, same⟩ := traces_run_bind.mp rest
    obtain rfl := Except.ok.inj same
    rintro _ ⟨⟩
    exact quoted_of_activeWindowAddress read.2.symm
  cases window with
  | activeWindow =>
      obtain rfl := Except.ok.inj run.2
      exact nofun
  | byClass name =>
      obtain ⟨_, ⟨⟩, _⟩ | ⟨_, _, output, _, _, rest⟩ := traces_run_bind.mp run
      exact found rest
  | address value =>
      obtain ⟨_, ⟨⟩, _⟩ | ⟨_, _, output, _, _, rest⟩ := traces_run_bind.mp run
      exact found rest

theorem uses_sendShortcut {decode : String → Except String (Option String)} {chord : KeyChord}
    {window : WindowSelector} (aimed : window ≠ .activeWindow)
    (safe : isSafeKeyToken chord.key = true) (quoted : Quoted window.asHypr) :
    Uses (Selects window.asHypr) (sendShortcut decode chord window).run := by
  have asks : Selects window.asHypr ⟨["activewindow", "-j"]⟩ := nofun
  unfold sendShortcut
  refine uses_run_bind_of_traces ?_ fun trace previous run => ?_
  · cases window with
    | activeWindow => exact trivial
    | byClass name =>
        exact uses_run_bind (uses_runHyprland asks) fun _ => uses_run_bind trivial fun _ => trivial
    | address value =>
        exact uses_run_bind (uses_runHyprland asks) fun _ => uses_run_bind trivial fun _ => trivial
  · have acts : Selects window.asHypr ⟨["eval", timedShortcutLua chord window previous]⟩ := by
      rintro _ ⟨⟩
      exact selectorsOf_timedShortcutLua aimed quoted safe (quoted_of_previousWindow run)
    exact uses_run_bind (uses_runHyprland acts) fun _ => trivial

/-- An accepted command acts on an accepted window. -/
theorem validate_of_windowOf {command : RemoteCommand} {window : WindowSelector}
    (acts : windowOf command = some window) (accepted : command.validate = .ok ()) :
    window.validate = .ok () := by
  cases command with
  | sendShortcut chord selector =>
      obtain rfl := Option.some.inj acts
      simp only [RemoteCommand.validate] at accepted
      cases checked : chord.validate with
      | error error =>
          rw [checked] at accepted
          cases accepted
      | ok value =>
          rw [checked] at accepted
          exact accepted
  | closeWindow selector =>
      obtain rfl := Option.some.inj acts
      exact accepted
  | _ => cases acts

/-- A command for no window is not executed. -/
theorem uses_execute_none {decode : String → Except String (Option String)} {command : RemoteCommand}
    (none : windowOf command = none) : Uses (fun _ => False) (execute decode command).run := by
  unfold execute
  rw [ExceptT.run_bind]
  cases accepted : command.validate with
  | error error => exact trivial
  | ok value =>
      cases command with
      | sendShortcut chord window => cases none
      | closeWindow window => cases none
      | _ => exact trivial

/-- The chord of an accepted shortcut. -/
theorem isSafeKeyToken_of_validate {chord : KeyChord} {window : WindowSelector}
    (accepted : (RemoteCommand.sendShortcut chord window).validate = .ok ()) :
    isSafeKeyToken chord.key = true := by
  simp only [RemoteCommand.validate, KeyChord.validate] at accepted
  by_contra refused
  rw [if_neg refused] at accepted
  cases accepted

/-- **The executor** dispatches a command for its window alone. -/
theorem uses_execute {decode : String → Except String (Option String)} {command : RemoteCommand}
    {window : WindowSelector} (acts : windowOf command = some window)
    (aimed : window ≠ .activeWindow) :
    Uses (Selects window.asHypr) (execute decode command).run := by
  unfold execute
  rw [ExceptT.run_bind]
  cases accepted : command.validate with
  | error error => exact trivial
  | ok value =>
      have quoted := quoted_of_validate (validate_of_windowOf acts accepted)
      cases command with
      | sendShortcut chord selector =>
          obtain rfl := Option.some.inj acts
          exact uses_sendShortcut aimed (isSafeKeyToken_of_validate accepted) quoted
      | closeWindow selector =>
          obtain rfl := Option.some.inj acts
          refine uses_run_bind (uses_runHyprland ?_) fun _ => trivial
          rintro _ ⟨⟩
          exact selectorsOf_batch_close quoted
      | _ => cases acts

end Omdesky.Platform
