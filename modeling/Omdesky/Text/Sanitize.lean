/-
**What `sanitize_for_display` makes of a text (`omdesky-core/src/text.rs`).**

* `sanitizeLoop`: the loop of the code, character by character; `sanitizeForDisplay_eq_loop`.
* `Projected`: the safe text of a value and a limit.
* `projected_sanitizeForDisplay`: **the result is safe, bounded, faithful to the value, and stable**.
-/

import Omdesky.Text

namespace Omdesky

/-! ### The loop -/

/-- What is shown for a character. -/
def shownChar (c : Char) : Char := if isPresentationSafe c then c else replacement

/-- The loop of `sanitize_for_display`: what has been pushed, and whether it was cut short. -/
def sanitizeLoop (limit : Nat) (sanitized : List Char) : List Char → List Char × Bool
  | [] => (sanitized, false)
  | c :: rest =>
      if limit ≤ sanitized.length then (sanitized, true)
      else sanitizeLoop limit (sanitized ++ [shownChar c]) rest

theorem sanitizeLoop_eq (limit : Nat) (value sanitized : List Char) (room : sanitized.length ≤ limit) :
    sanitizeLoop limit sanitized value =
      (sanitized ++ (value.take (limit - sanitized.length)).map shownChar,
        decide (limit < sanitized.length + value.length)) := by
  induction value generalizing sanitized with
  | nil => simp [sanitizeLoop, room]
  | cons c rest ih =>
      unfold sanitizeLoop
      split
      · next full =>
          obtain rfl : limit = sanitized.length := Nat.le_antisymm full room
          simp
      · next space =>
          have one : limit - sanitized.length = (limit - (sanitized.length + 1)) + 1 := by omega
          rw [ih (sanitized ++ [shownChar c]) (by simp; omega), one, List.take_succ_cons, List.map_cons,
            List.length_append, List.length_singleton, List.append_assoc, List.singleton_append,
            List.length_cons]
          congr 3
          omega

/-- **The text is what the loop pushes, and a mark when it was cut short.** -/
theorem sanitizeForDisplay_eq_loop (value : String) (limit : Nat) :
    sanitizeForDisplay value limit =
      let (sanitized, truncated) := sanitizeLoop limit [] value.toList
      String.ofList (if truncated then sanitized ++ ['…'] else sanitized) := by
  rw [sanitizeLoop_eq limit value.toList [] (Nat.zero_le _)]
  simp only [List.nil_append, List.length_nil, Nat.sub_zero, Nat.zero_add, decide_eq_true_eq]
  rfl

/-! ### Its characters -/

theorem isPresentationSafe_shownChar (c : Char) : isPresentationSafe (shownChar c) = true := by
  unfold shownChar
  split
  · next safe => exact safe
  · rfl

theorem shownChar_eq_self_iff (c : Char) : shownChar c = c ↔ isPresentationSafe c = true := by
  refine ⟨fun same => same ▸ isPresentationSafe_shownChar c, fun safe => if_pos safe⟩

theorem shownChar_shownChar (c : Char) : shownChar (shownChar c) = shownChar c :=
  (shownChar_eq_self_iff _).mpr (isPresentationSafe_shownChar c)

section Result

variable (value : String) (limit : Nat)

/-- The part of the result that stands for the value. -/
def shownPart : List Char := (value.toList.take limit).map shownChar

theorem length_shownPart : (shownPart value limit).length = min limit value.toList.length := by
  rw [shownPart, List.length_map, List.length_take]

theorem sanitizeForDisplay_of_long {value : String} {limit : Nat} (long : limit < value.toList.length) :
    (sanitizeForDisplay value limit).toList = shownPart value limit ++ ['…'] := by
  rw [sanitizeForDisplay, String.toList_ofList, if_pos long]
  rfl

theorem sanitizeForDisplay_of_short {value : String} {limit : Nat}
    (short : value.toList.length ≤ limit) :
    (sanitizeForDisplay value limit).toList = shownPart value limit := by
  rw [sanitizeForDisplay, String.toList_ofList, if_neg (Nat.not_lt.mpr short)]
  rfl

/-- What is shown is shown unchanged. -/
theorem map_shownChar_shownPart : (shownPart value limit).map shownChar = shownPart value limit := by
  rw [shownPart, List.map_map]
  exact List.map_congr_left fun c _ => shownChar_shownChar c

theorem isPresentationSafe_sanitizeForDisplay :
    ∀ c ∈ (sanitizeForDisplay value limit).toList, isPresentationSafe c = true := by
  have part : ∀ c ∈ shownPart value limit, isPresentationSafe c = true := by
    intro c member
    obtain ⟨_, _, rfl⟩ := List.mem_map.mp member
    exact isPresentationSafe_shownChar _
  rcases Nat.lt_or_ge limit value.toList.length with long | short
  · rw [sanitizeForDisplay_of_long long]
    exact List.forall_mem_append.mpr ⟨part, List.forall_mem_singleton.mpr rfl⟩
  · rw [sanitizeForDisplay_of_short short]
    exact part

theorem length_sanitizeForDisplay :
    (sanitizeForDisplay value limit).toList.length = min (limit + 1) value.toList.length := by
  rcases Nat.lt_or_ge limit value.toList.length with long | short
  · rw [sanitizeForDisplay_of_long long, List.length_append, length_shownPart, List.length_singleton]
    omega
  · rw [sanitizeForDisplay_of_short short, length_shownPart]
    omega

theorem getElem?_sanitizeForDisplay {index : Nat} (within : index < min limit value.toList.length) :
    (sanitizeForDisplay value limit).toList[index]? = value.toList[index]?.map shownChar := by
  have part : (shownPart value limit)[index]? = value.toList[index]?.map shownChar := by
    rw [shownPart, List.getElem?_map, List.getElem?_take_of_lt (Nat.lt_of_lt_of_le within (min_le_left _ _))]
  rcases Nat.lt_or_ge limit value.toList.length with long | short
  · rw [sanitizeForDisplay_of_long long, List.getElem?_append_left, part]
    rwa [length_shownPart]
  · rw [sanitizeForDisplay_of_short short, part]

/-- A second pass finds the mark one character past the limit, and puts it back. -/
theorem sanitizeForDisplay_idempotent :
    sanitizeForDisplay (sanitizeForDisplay value limit) limit = sanitizeForDisplay value limit := by
  apply String.toList_inj.mp
  rcases Nat.lt_or_ge limit value.toList.length with long | short
  · have full : (shownPart value limit).length = limit := by
      rw [length_shownPart]
      omega
    have again : limit < (sanitizeForDisplay value limit).toList.length := by
      rw [length_sanitizeForDisplay]
      omega
    rw [sanitizeForDisplay_of_long again, shownPart, sanitizeForDisplay_of_long long,
      List.take_left' full, map_shownChar_shownPart]
  · have again : (sanitizeForDisplay value limit).toList.length ≤ limit := by
      rw [length_sanitizeForDisplay]
      omega
    rw [sanitizeForDisplay_of_short again, shownPart, List.take_of_length_le again,
      sanitizeForDisplay_of_short short, map_shownChar_shownPart]

theorem sanitizeForDisplay_eq_self_of_safe {value : String} {limit : Nat}
    (safe : ∀ c ∈ value.toList, isPresentationSafe c = true) (short : value.toList.length ≤ limit) :
    sanitizeForDisplay value limit = value := by
  apply String.toList_inj.mp
  rw [sanitizeForDisplay_of_short short, shownPart, List.take_of_length_le short]
  exact (List.map_congr_left fun c member => (shownChar_eq_self_iff c).mpr (safe c member)).trans
    (List.map_id _)

end Result

/-! ### The projection -/

/-- The safe text of a value within a limit. -/
structure Projected (value : String) (limit : Nat) (result : String) : Prop where
  /-- No character disturbs the terminal or hides. -/
  clean : ∀ c ∈ result.toList, isControl c = false ∧ isBidiOrInvisible c = false
  bounded : result.toList.length ≤ limit + 1
  /-- A result past the limit stands for a value past the limit, and says so. -/
  marked : limit < result.toList.length →
    limit < value.toList.length ∧ result.toList.getLast? = some '…'
  /-- A character stands for itself when it is safe, and is replaced when it is not. -/
  shown : ∀ index < min limit value.toList.length, ∃ c, value.toList[index]? = some c ∧
    result.toList[index]? = some (if isPresentationSafe c then c else '\ufffd')
  kept : (∀ c ∈ value.toList, isPresentationSafe c = true) → value.toList.length ≤ limit →
    result = value
  changed : ∀ c ∈ value.toList, isPresentationSafe c = false → result ≠ value
  /-- A second pass changes nothing. -/
  stable : sanitizeForDisplay result limit = result

/-- **`sanitize_for_display` is a safe, stable projection.** -/
theorem projected_sanitizeForDisplay (value : String) (limit : Nat) :
    Projected value limit (sanitizeForDisplay value limit) where
  clean := by
    intro c member
    simpa [isPresentationSafe] using isPresentationSafe_sanitizeForDisplay value limit c member
  bounded := by
    rw [length_sanitizeForDisplay]
    exact min_le_left _ _
  marked := by
    intro past
    rw [length_sanitizeForDisplay] at past
    have long : limit < value.toList.length := Nat.lt_of_lt_of_le past (min_le_right _ _)
    rw [sanitizeForDisplay_of_long long]
    exact ⟨long, List.getLast?_concat⟩
  shown := by
    intro index within
    have inside : index < value.toList.length := Nat.lt_of_lt_of_le within (min_le_right _ _)
    refine ⟨value.toList[index], List.getElem?_eq_getElem inside, ?_⟩
    rw [getElem?_sanitizeForDisplay value limit within, List.getElem?_eq_getElem inside]
    rfl
  kept := sanitizeForDisplay_eq_self_of_safe
  changed := by
    intro c member hidden same
    have safe := isPresentationSafe_sanitizeForDisplay value limit c (same.symm ▸ member)
    rw [hidden] at safe
    cases safe
  stable := sanitizeForDisplay_idempotent value limit

end Omdesky
