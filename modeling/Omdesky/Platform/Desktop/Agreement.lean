/-
**Both computers mean the same display (`omdesky-platform/src/display.rs`, `agent_client.rs`).**

The computer that is streamed names a display by its identifier. The controller looks the identifier up
in the list of displays it has received, whose texts are sanitized.

* `sanitizeForDisplay_eq_iff`: no other text is sanitized to a text that needs no sanitizing.
* `displays_agree`: the controller finds an accepted identifier at its first position in the list that
  was sent, and the shortcut is that position's own.
-/

import Omdesky.Platform.AgentClient
import Omdesky.Platform.Desktop

namespace Omdesky.Platform

/-! ### Identifiers in sanitized lists -/

/-- A character of an identifier that is accepted. -/
def isIdChar (c : Char) : Bool := c.isAlphanum || c == '-' || c == '_' || c == '.'

theorem safe_of_isIdChar {c : Char} (plain : isIdChar c = true) : isPresentationSafe c = true := by
  simp only [isIdChar, Bool.or_eq_true, isAlphanum_iff, beq_iff_eq] at plain
  have bounds : 32 ≤ c.toNat ∧ c.toNat < 127 := by
    obtain ((alphanumeric | rfl) | rfl) | rfl := plain
    · omega
    · decide
    · decide
    · decide
  exact safe_of_ascii c bounds.1 bounds.2

/-- **A text that needs no sanitizing** is what itself is sanitized to, and nothing else. -/
theorem sanitizeForDisplay_eq_iff {limit : Nat} {value text : String}
    (plain : ∀ c ∈ text.toList, isIdChar c = true) (short : text.toList.length ≤ limit) :
    sanitizeForDisplay value limit = text ↔ value = text := by
  constructor
  · rintro rfl
    have whole : ¬ limit < value.toList.length := by
      intro long
      have ellipsis : '…' ∈ (sanitizeForDisplay value limit).toList := by
        simp [sanitizeForDisplay, long]
      exact absurd (plain _ ellipsis) (by decide)
    have shown : (sanitizeForDisplay value limit).toList =
        value.toList.map fun c => if isPresentationSafe c then c else replacement := by
      unfold sanitizeForDisplay
      dsimp only
      rw [if_neg whole, String.toList_ofList, List.take_of_length_le (Nat.le_of_not_lt whole)]
    have kept : ∀ c ∈ value.toList, (if isPresentationSafe c then c else replacement) = c := by
      intro c member
      by_contra changed
      have replaced : ¬ isPresentationSafe c = true := fun safe => changed (if_pos safe)
      have inside : replacement ∈ (sanitizeForDisplay value limit).toList := by
        rw [shown]
        exact List.mem_map.mpr ⟨c, member, if_neg replaced⟩
      exact absurd (plain _ inside) (by decide)
    rw [← String.toList_inj, shown, List.map_congr_left kept, List.map_id']
  · rintro rfl
    have kept : ∀ c ∈ value.toList, (if isPresentationSafe c then c else replacement) = c :=
      fun c member => if_pos (safe_of_isIdChar (plain c member))
    unfold sanitizeForDisplay
    dsimp only
    rw [if_neg (Nat.not_lt.mpr short), List.take_of_length_le short, List.map_congr_left kept,
      List.map_id', String.ofList_toList]

/-- What an accepted identifier consists of. -/
theorem plain_of_validate_display {target : DisplayId} (accepted : target.validate = .ok ()) :
    (∀ c ∈ target.value.toList, isIdChar c = true) ∧
      target.value.toList.length ≤ displayNameLimit := by
  unfold DisplayId.validate at accepted
  split at accepted
  · cases accepted
  · next sized =>
      split at accepted
      · next plain =>
          have bytes : target.value.utf8ByteSize ≤ 64 := by
            simp only [Bool.or_eq_true, decide_eq_true_eq, not_or] at sized
            exact Nat.le_of_not_lt sized.2
          have length := length_le_utf8ByteSize target.value
          refine ⟨fun c member => List.all_eq_true.mp plain c member, ?_⟩
          unfold displayNameLimit
          omega
      · cases accepted

/-! ### The list that was sent, and the list that was received -/

/-- The first position of an identifier in a list. -/
structure FirstAt (ids : List String) (id : String) (index : Nat) : Prop where
  there : ids[index]? = some id
  first : ∀ earlier < index, ids[earlier]? ≠ some id

section Lookup

variable {Hertz : Type} {reported received : List (ShownDisplay Hertz)} {listed : List Display}
  {target other : DisplayId} {index : Nat}

theorem displaySwitchIndex_eq_some_iff :
    displaySwitchIndex listed target = some index ↔
      FirstAt (listed.map Display.id) target.value index := by
  unfold displaySwitchIndex
  rw [List.findIdx?_eq_some_iff_getElem]
  constructor
  · rintro ⟨inside, same, earlier⟩
    rw [beq_iff_eq] at same
    refine ⟨by simp [inside, same], fun before less => ?_⟩
    have differs := earlier before less
    rw [beq_iff_eq] at differs
    simp [Nat.lt_trans less inside, differs]
  · rintro ⟨there, first⟩
    rw [List.getElem?_map, Option.map_eq_some_iff] at there
    obtain ⟨display, there, same⟩ := there
    obtain ⟨inside, rfl⟩ := List.getElem?_eq_some_iff.mp there
    refine ⟨inside, beq_iff_eq.mpr same, fun before less => ?_⟩
    have differs := first before less
    rw [List.getElem?_map, List.getElem?_eq_getElem (Nat.lt_trans less inside)] at differs
    rw [beq_iff_eq]
    exact fun found => differs (congrArg some found)

theorem displaySwitchIndex_eq_none_iff :
    displaySwitchIndex listed target = none ↔ target.value ∉ listed.map Display.id := by
  unfold displaySwitchIndex
  rw [List.findIdx?_eq_none_iff]
  simp only [beq_eq_false_iff_ne, List.mem_map, not_exists, not_and]

/-- **An accepted identifier is found at the same position in both lists.** -/
theorem displaySwitchIndex_received (accepted : target.validate = .ok ())
    (arrived : displays (.ok reported) = .ok received) :
    displaySwitchIndex (received.map ShownDisplay.toDisplay) target =
      displaySwitchIndex (reported.map ShownDisplay.toDisplay) target := by
  obtain ⟨plain, short⟩ := plain_of_validate_display accepted
  obtain rfl := Except.ok.inj arrived
  unfold displaySwitchIndex
  rw [List.map_map, List.findIdx?_map, List.findIdx?_map]
  congr 1
  funext display
  show (sanitizeForDisplay display.id displayNameLimit == target.value) = (display.id == target.value)
  rw [Bool.eq_iff_iff, beq_iff_eq, beq_iff_eq]
  exact sanitizeForDisplay_eq_iff plain short

end Lookup

/-! ### The shortcuts -/

/-- The shortcut that shows the display at a position. -/
def switchShortcut (index : Nat) : RemoteCommand :=
  .sendShortcut ⟨[.ctrl, .alt, .shift], "F" ++ toString (index + 1)⟩ (.byClass moonlightWindowClass)

section Shortcut

variable {Hertz : Type} {reported received : List (ShownDisplay Hertz)} {listed : List Display}
  {target other : DisplayId} {index : Nat}

theorem displaySwitchShortcut_eq (index : Nat) :
    (index < 13 → displaySwitchShortcut index = .ok (switchShortcut index)) ∧
      (13 ≤ index → ∃ error, displaySwitchShortcut index = .error error) := by
  constructor
  · have each : ∀ index < 13, displaySwitchShortcut index = .ok (switchShortcut index) := by
      decide +kernel
    exact each index
  · intro beyond
    unfold displaySwitchShortcut
    exact ⟨_, if_pos beyond⟩

theorem switchShortcut_injective {first second : Nat} (firstBound : first < 13)
    (secondBound : second < 13) (same : switchShortcut first = switchShortcut second) :
    first = second := by
  have each : ∀ first < 13, ∀ second < 13,
      "F" ++ toString (first + 1) = "F" ++ toString (second + 1) → first = second := by
    decide +kernel
  have keys := (KeyChord.mk.inj (RemoteCommand.sendShortcut.inj same).1).2
  exact each first firstBound second secondBound keys

/-- What is resolved is the shortcut of a position that has one. -/
theorem resolve_eq_ok_iff {command : RemoteCommand} :
    resolveDisplaySwitchShortcut listed target = .ok command ↔ ∃ index < 13,
      displaySwitchIndex listed target = some index ∧ command = switchShortcut index := by
  unfold resolveDisplaySwitchShortcut
  cases displaySwitchIndex listed target with
  | none => simp
  | some index =>
      obtain ⟨within, beyond⟩ := displaySwitchShortcut_eq index
      by_cases small : index < 13
      · dsimp only
        rw [within small]
        constructor
        · rintro ⟨⟩
          exact ⟨index, small, rfl, rfl⟩
        · rintro ⟨_, _, ⟨⟩, rfl⟩
          rfl
      · obtain ⟨error, failed⟩ := beyond (Nat.le_of_not_lt small)
        dsimp only
        rw [failed]
        constructor
        · rintro ⟨⟩
        · rintro ⟨_, less, ⟨⟩, _⟩
          exact absurd less small

/-- **Both computers mean the same display.** The controller finds an accepted identifier in the list it
has received at the first position it has in the list that was reported, and nowhere exactly when it is
not reported; the first thirteen positions have the shortcuts from `F1` on, other positions and
identifiers that are not reported an error, and two identifiers never the same shortcut. -/
theorem displays_agree {Hertz : Type} (reported received : List (ShownDisplay Hertz))
    (target : DisplayId) (accepted : target.validate = .ok ())
    (arrived : displays (.ok reported) = .ok received) :
    let ids := reported.map fun display => display.id
    let listed := received.map ShownDisplay.toDisplay
    (∀ index, displaySwitchIndex listed target = some index ↔ FirstAt ids target.value index) ∧
    (displaySwitchIndex listed target = none ↔ target.value ∉ ids) ∧
    (∀ command, resolveDisplaySwitchShortcut listed target = .ok command ↔
      ∃ index < 13, FirstAt ids target.value index ∧ command = switchShortcut index) ∧
    ∀ other : DisplayId, other.validate = .ok () → other ≠ target → ∀ command,
      resolveDisplaySwitchShortcut listed target = .ok command →
        resolveDisplaySwitchShortcut listed other ≠ .ok command := by
  intro ids listed
  have same : ids = (reported.map ShownDisplay.toDisplay).map Display.id := by
    rw [List.map_map]
    rfl
  have found {id : DisplayId} (accepted : id.validate = .ok ()) (index : Nat) :
      displaySwitchIndex listed id = some index ↔ FirstAt ids id.value index := by
    rw [displaySwitchIndex_received accepted arrived, displaySwitchIndex_eq_some_iff, same]
  refine ⟨found accepted, ?_, fun command => ?_, fun other otherAccepted differ command resolved => ?_⟩
  · rw [displaySwitchIndex_received accepted arrived, displaySwitchIndex_eq_none_iff, same]
  · simp only [resolve_eq_ok_iff, found accepted]
  · rw [Ne, resolve_eq_ok_iff]
    rintro ⟨otherIndex, otherBound, otherFound, same⟩
    obtain ⟨index, bound, foundAt, rfl⟩ := resolve_eq_ok_iff.mp resolved
    obtain rfl := switchShortcut_injective bound otherBound same
    have here := ((found accepted index).mp foundAt).there
    have there := ((found otherAccepted index).mp otherFound).there
    exact differ (congrArg DisplayId.mk (Option.some.inj (there.symm.trans here)))

/-- A display behind one with a hostile identifier, which is sanitized and truncated. -/
theorem displays_agree_hostile :
    let hostile : ShownDisplay Unit := ⟨⟨"DP-1\x1b", "", 0, 0, false⟩, ()⟩
    let plain : ShownDisplay Unit := ⟨⟨"DP-1", "", 0, 0, false⟩, ()⟩
    let received := [sanitizeDisplay hostile, sanitizeDisplay plain]
    displaySwitchIndex (received.map ShownDisplay.toDisplay) ⟨"DP-1"⟩ = some 1 ↔
      FirstAt ["DP-1\x1b", "DP-1"] "DP-1" 1 := by
  intro hostile plain received
  exact (displays_agree [hostile, plain] received ⟨"DP-1"⟩ (by decide) rfl).1 1

end Shortcut

end Omdesky.Platform
