/-
**The program of a shortcut is the same for every key (`omdesky-platform/src/input.rs`).**

* `Mirrored`: the same tokens but for inserted characters in strings, and no command line among them.
* `sameProgram_timedShortcutLua`: two accepted keys with the same modifiers.
* `no_injection`: **the installed keybindings, the batch that closes a window, and the shortcuts are the
  same programs, whatever is inserted.**
-/

import Omdesky.Platform.Input.Injection

namespace Omdesky.Platform

open Scan Lua

/-! ### Tokens without command lines -/

/-- The same tokens but for inserted characters in strings, and none of them names `exec_cmd`. -/
def Mirrored (first second : List Token) : Prop :=
  List.Forall₂ (fun token other =>
    Alike isInserted Kind.isString token other ∧ token ≠ (.name, execCmd)) first second

section Mirrored

variable {first second others rest : List Token}

theorem Mirrored.append (early : Mirrored first second) (late : Mirrored others rest) :
    Mirrored (first ++ others) (second ++ rest) := List.rel_append early late

theorem mirrored_refl (silent : ∀ token ∈ first, token ≠ (.name, execCmd)) : Mirrored first first :=
  List.forall₂_same.mpr fun token member =>
    ⟨⟨rfl, Scan.Similar.refl _, fun _ => rfl⟩, silent token member⟩

theorem mirrored_quoted (text : String) : Mirrored (quoted text) (quoted text) :=
  mirrored_refl (List.forall_mem_singleton.mpr nofun)

/-- Two inserted texts between quotes. -/
theorem mirrored_inserted {text other : String} (inserted : InsertedText text)
    (otherInserted : InsertedText other) : Mirrored (quoted text) (quoted other) := by
  have similar : Similar isInserted (text.toList ++ []) (other.toList ++ []) :=
    .word inserted otherInserted .nil
  rw [List.append_nil, List.append_nil] at similar
  exact .cons ⟨⟨rfl, similar, nofun⟩, nofun⟩ .nil

theorem commandLines_of_mirrored (mirrored : Mirrored first second) :
    commandLines id first = [] ∧ commandLines id second = [] := by
  induction mirrored with
  | nil => exact ⟨rfl, rfl⟩
  | @cons token other tokens others both _ ih =>
      obtain ⟨alike, silent⟩ := both
      have otherSilent : other ≠ (.name, execCmd) := by
        rintro rfl
        have kind : token.1 = .name := alike.kind
        exact silent (Prod.ext kind (alike.closed (congrArg Kind.isString kind)))
      rw [commandLines, commandLines, List.map_id, if_neg silent, if_neg otherSilent]
      exact ih

theorem sameProgram_of_mirrored {text other : List Char} (mirrored : Mirrored first second)
    (scanned : lexer.scan text = some first) (otherScanned : lexer.scan other = some second) :
    SameProgram text other := by
  obtain ⟨none, otherNone⟩ := commandLines_of_mirrored mirrored
  refine ⟨first, second, scanned, otherScanned, mirrored.imp fun _ _ both => both.1, ?_⟩
  rw [none, otherNone]
  exact .nil

end Mirrored

/-! ### Shortcuts for two keys -/

/-- The same dispatch, but for what is inserted. -/
inductive AlikeDispatch : Dispatch → Dispatch → Prop
  | same (action) : AlikeDispatch action action
  | focus {window other} (inserted : InsertedText window) (otherInserted : InsertedText other) :
      AlikeDispatch (.focus window) (.focus other)
  | key {mods key other pressed} (inserted : InsertedText key) (otherInserted : InsertedText other) :
      AlikeDispatch (.key ⟨mods, key, pressed⟩) (.key ⟨mods, other, pressed⟩)

theorem mirrored_focus {first second : List Token} (window : Mirrored first second) :
    Mirrored (lexed "hl.dsp.focus(\x7b window =" ++ first ++ lexed "\x7d)")
      (lexed "hl.dsp.focus(\x7b window =" ++ second ++ lexed "\x7d)") :=
  ((mirrored_refl (by decide +kernel)).append window).append (mirrored_refl (by decide +kernel))

theorem mirrored_dispatch {action other : Dispatch} (alike : AlikeDispatch action other) :
    Mirrored action.tokens other.tokens := by
  have key (event : KeyEvent) (other : String) (name : Mirrored (quoted event.key) (quoted other)) :
      Mirrored (Dispatch.key event).tokens (Dispatch.key { event with key := other }).tokens :=
    ((((((mirrored_refl (by decide +kernel)).append (mirrored_quoted _)).append
      (mirrored_refl (by decide +kernel))).append name).append (mirrored_refl (by decide +kernel))).append
        (mirrored_quoted _)).append (mirrored_refl (by decide +kernel))
  cases alike with
  | same =>
      cases action with
      | focus window => exact mirrored_focus (mirrored_quoted window)
      | key event => exact key event event.key (mirrored_quoted _)
  | focus inserted otherInserted => exact mirrored_focus (mirrored_inserted inserted otherInserted)
  | key inserted otherInserted => exact key ⟨_, _, _⟩ _ (mirrored_inserted inserted otherInserted)

theorem mirrored_statement {action other : Dispatch} (alike : AlikeDispatch action other) :
    Mirrored (Statement.dispatch action).tokens (Statement.dispatch other).tokens := by
  rw [Statement.tokens, Statement.tokens]
  exact ((mirrored_refl (by decide +kernel)).append (mirrored_dispatch alike)).append
    (mirrored_refl (by decide +kernel))

/-- One dispatch after the other. -/
theorem mirrored_sequence {actions others : List Dispatch}
    (alike : List.Forall₂ AlikeDispatch actions others) :
    Mirrored (blockTokens (sequenceProgram actions)) (blockTokens (sequenceProgram others)) := by
  have last (action : Dispatch) : blockTokens (sequenceProgram [action]) =
      (Statement.dispatch action).tokens ++ (lexed ";" ++ Statement.finish.tokens) := by
    simp only [sequenceProgram, blockTokens, furtherTokens, List.append_nil]
  have next (action second : Dispatch) (rest : List Dispatch) :
      blockTokens (sequenceProgram (action :: second :: rest)) = (Statement.dispatch action).tokens ++
        (lexed ";" ++ (lexed "hl.timer(function()" ++ blockTokens (sequenceProgram (second :: rest)) ++
          (lexed "end, \x7b timeout =" ++ [(.numeral, "25".toList)] ++
            lexed ", type = \"oneshot\" \x7d)"))) := by
    simp only [sequenceProgram, blockTokens, furtherTokens, Statement.tokens, List.append_nil,
      List.append_assoc]
  induction alike with
  | nil => exact .nil
  | cons first rest ih =>
      have dispatch := mirrored_statement first
      cases rest with
      | nil =>
          rw [last, last]
          exact dispatch.append (mirrored_refl (by decide +kernel))
      | cons second rest =>
          rw [next, next]
          exact dispatch.append ((mirrored_refl (by decide +kernel)).append
            (((mirrored_refl (by decide +kernel)).append ih).append (mirrored_refl (by decide +kernel))))

section Shortcut

variable {mods : List KeyModifier} {key otherKey : String} {window otherWindow : WindowSelector}
  {restore otherRestore : Option String}

theorem mirrored_focusTokens (kind : kindOf window = kindOf otherWindow)
    (target : InsertedText window.asHypr) (otherTarget : InsertedText otherWindow.asHypr) :
    Mirrored (focusTokens window) (focusTokens otherWindow) := by
  have focuses (first second : WindowSelector) (target : InsertedText first.asHypr)
      (otherTarget : InsertedText second.asHypr) :
      Mirrored ((Statement.dispatch (.focus first.asHypr)).tokens ++ lexed ";" ++ [])
        ((Statement.dispatch (.focus second.asHypr)).tokens ++ lexed ";" ++ []) :=
    ((mirrored_statement (.focus target otherTarget)).append (mirrored_refl (by decide +kernel))).append
      .nil
  cases window <;> cases otherWindow <;> cases kind
  · exact .nil
  · exact focuses _ _ target otherTarget
  · exact focuses _ _ target otherTarget

/-- The dispatches of a chord, and the return to the window before. -/
theorem alike_actions (text : InsertedText key) (otherText : InsertedText otherKey)
    (returns : restore.isSome = otherRestore.isSome)
    (back : ∀ address ∈ restore, InsertedText address)
    (otherBack : ∀ address ∈ otherRestore, InsertedText address) :
    List.Forall₂ AlikeDispatch
      ((chordEvents ⟨mods, key⟩).map .key ++ (restore.map restoreOn).toList)
      ((chordEvents ⟨mods, otherKey⟩).map .key ++ (otherRestore.map restoreOn).toList) := by
  have fixed (actions : List Dispatch) : List.Forall₂ AlikeDispatch actions actions :=
    List.forall₂_same.mpr fun action _ => .same action
  have marked : InsertedText "address:" := by decide
  have returning : List.Forall₂ AlikeDispatch (restore.map restoreOn).toList
      (otherRestore.map restoreOn).toList := by
    cases restore <;> cases otherRestore <;> cases returns
    · exact .nil
    · exact .cons (.focus (marked.append (back _ rfl)) (marked.append (otherBack _ rfl))) .nil
  refine List.rel_append ?_ returning
  simp only [chordEvents, List.map_append]
  exact List.rel_append (List.rel_append (fixed _)
    (.cons (.key text otherText) (.cons (.key text otherText) .nil))) (fixed _)

/-- **A shortcut is the same program for every two keys.** -/
theorem sameProgram_timedShortcutLua (safe : isSafeKeyToken key = true)
    (otherSafe : isSafeKeyToken otherKey = true) (plain : key ≠ "Z") (otherPlain : otherKey ≠ "Z")
    (kind : kindOf window = kindOf otherWindow) (accepted : window.validate = .ok ())
    (otherAccepted : otherWindow.validate = .ok ()) (returns : restore.isSome = otherRestore.isSome)
    (back : ∀ address ∈ restore, isHexHandle address = true)
    (otherBack : ∀ address ∈ otherRestore, isHexHandle address = true) :
    SameProgram (timedShortcutLua ⟨mods, key⟩ window restore).toList
      (timedShortcutLua ⟨mods, otherKey⟩ otherWindow otherRestore).toList := by
  have text := insertedText_key safe
  have otherText := insertedText_key otherSafe
  have target := insertedText_asHypr accepted
  have otherTarget := insertedText_asHypr otherAccepted
  have address : ∀ address ∈ restore, InsertedText address := fun address given =>
    insertedText_handle (back address given)
  have otherAddress : ∀ address ∈ otherRestore, InsertedText address := fun address given =>
    insertedText_handle (otherBack address given)
  refine sameProgram_of_mirrored ?_
    (scan_timedShortcutLua text.plain target.plain fun given some => (address given some).plain)
    (scan_timedShortcutLua otherText.plain otherTarget.plain
      fun given some => (otherAddress given some).plain)
  have some (key : String) (restore : Option String) : sequenceProgram
      ((chordEvents ⟨mods, key⟩).map .key ++ (restore.map restoreOn).toList) ≠ [] :=
    sequenceProgram_ne_nil (by simp [chordEvents])
  rw [shortcutProgram, shortcutProgram, if_neg plain, if_neg otherPlain,
    blockTokens_focusOn (some key restore), blockTokens_focusOn (some otherKey otherRestore)]
  exact (mirrored_focusTokens kind target otherTarget).append
    (mirrored_sequence (alike_actions text otherText returns address otherAddress))

end Shortcut

/-! ### No injection -/

/-- **Nothing is injected**: neither into the installed program, for each role and with or without a
controller, nor into the batch that closes a window, nor into the program of a shortcut. -/
theorem no_injection :
    (∀ debugAssertions config other, shapeOf config = shapeOf other →
      config.window.validate = .ok () → other.window.validate = .ok () →
      ∃ text otherText, installSpec debugAssertions config = ["eval", text] ∧
        installSpec debugAssertions other = ["eval", otherText] ∧
          SameProgram text.toList otherText.toList) ∧
    (∀ window other, kindOf window = kindOf other →
      window.validate = .ok () → other.validate = .ok () →
      ∃ actions others, commandActions (.closeWindow window) [] = some actions ∧
        commandActions (.closeWindow other) [] = some others ∧
          List.Forall₂ SameProgram (batchCommands (hyprctlBatchArgument actions))
            (batchCommands (hyprctlBatchArgument others))) ∧
    (∀ mods key otherKey window otherWindow restore otherRestore,
      isSafeKeyToken key = true → isSafeKeyToken otherKey = true → key ≠ "Z" → otherKey ≠ "Z" →
      kindOf window = kindOf otherWindow → window.validate = .ok () → otherWindow.validate = .ok () →
      restore.isSome = otherRestore.isSome → (∀ address ∈ restore, isHexHandle address = true) →
      (∀ address ∈ otherRestore, isHexHandle address = true) →
      SameProgram (timedShortcutLua ⟨mods, key⟩ window restore).toList
        (timedShortcutLua ⟨mods, otherKey⟩ otherWindow otherRestore).toList) := by
  refine ⟨?_, ?_, ?_⟩
  · intro debugAssertions config other shape accepted otherAccepted
    exact ⟨_, _, rfl, rfl, sameProgram_installText shape accepted otherAccepted⟩
  · intro window other kind accepted otherAccepted
    exact ⟨_, _, rfl, rfl, sameProgram_closingBatch kind accepted otherAccepted⟩
  · intro mods key otherKey window otherWindow restore otherRestore safe otherSafe plain otherPlain kind
      accepted otherAccepted returns back otherBack
    exact sameProgram_timedShortcutLua safe otherSafe plain otherPlain kind accepted otherAccepted returns
      back otherBack

/-- Two classes in the keybindings of a remote computer, with two controllers. -/
theorem no_injection_classes :
    ∃ text otherText,
      installSpec false ⟨.remote, some ⟨.v4 100 64 0 1, 47991⟩, .byClass "a"⟩ = ["eval", text] ∧
      installSpec false ⟨.remote, some ⟨.v6 0 0 0 0 0 0 0 1, 80⟩, .byClass "b.c-d"⟩ = ["eval", otherText] ∧
        SameProgram text.toList otherText.toList :=
  no_injection.1 _ _ _ rfl (by decide) (by decide)

end Omdesky.Platform
