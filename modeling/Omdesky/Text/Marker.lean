/-
**Markers in a text.**

* `occurrences`: what follows each occurrence of a marker.
* `beforeLast`: what stands in front of its last occurrence.
* `isClear`: no occurrence begins in a text, whatever follows it. `isClear_append` puts such texts together,
  and `isClear_word` is for a word that lacks a character of the marker.
-/

import Mathlib.Data.List.Basic

namespace Omdesky

variable {marker : List Char}

/-- What follows each occurrence of the marker. -/
def occurrences (marker : List Char) : List Char → List (List Char)
  | [] => []
  | c :: rest =>
      if marker.isPrefixOf (c :: rest) then
        (c :: rest).drop marker.length :: occurrences marker rest
      else occurrences marker rest

/-- What stands in front of the last occurrence of the marker, if there is one. -/
def beforeLast (marker : List Char) : List Char → Option (List Char)
  | [] => none
  | c :: rest =>
      match beforeLast marker rest with
      | some front => some (c :: front)
      | none => if marker.isPrefixOf (c :: rest) then some [] else none

/-- No marker begins in a text, whatever follows it. -/
def isClear (marker : List Char) : List Char → Bool
  | [] => true
  | c :: rest =>
      !marker.isPrefixOf (c :: rest) && !(c :: rest).isPrefixOf marker && isClear marker rest

/-! ### Clear texts -/

theorem isClear_cons_iff {c : Char} {rest : List Char} : isClear marker (c :: rest) = true ↔
    ¬ marker <+: c :: rest ∧ ¬ c :: rest <+: marker ∧ isClear marker rest = true := by
  simp only [isClear, Bool.and_eq_true, Bool.not_eq_true', Bool.eq_false_iff, ne_eq,
    List.isPrefixOf_iff_prefix, and_assoc]

/-- No marker begins at the beginning either. -/
theorem not_prefix_append {c : Char} {before rest : List Char}
    (clear : isClear marker (c :: before) = true) : ¬ marker <+: c :: (before ++ rest) := by
  obtain ⟨whole, part, _⟩ := isClear_cons_iff.mp clear
  intro begins
  rcases List.prefix_or_prefix_of_prefix begins (List.prefix_append (c :: before) rest) with
    inside | across
  · exact whole inside
  · exact part across

theorem isClear_append {first second : List Char} (clear : isClear marker first = true)
    (others : isClear marker second = true) : isClear marker (first ++ second) = true := by
  induction first with
  | nil => exact others
  | cons c first ih =>
      obtain ⟨_, part, later⟩ := isClear_cons_iff.mp clear
      refine isClear_cons_iff.mpr ⟨not_prefix_append clear, fun begins => part ?_, ih later⟩
      exact (List.prefix_append (c :: first) second).trans begins

/-- A word up to a mark that stops it, if it lacks a character that the marker has, and the marker does not
have the mark before. -/
theorem isClear_word {front back word : List Char} {gap stop : Char} (lacks : gap ∉ word)
    (other : gap ≠ stop) (absent : stop ∉ front) :
    isClear (front ++ gap :: back) (word ++ [stop]) = true := by
  have apart {text : List Char} (without : gap ∉ text) (stops : stop ∈ text) :
      ¬ front ++ gap :: back <+: text ∧ ¬ text <+: front ++ gap :: back := by
    constructor
    · exact fun begins => without (begins.subset (List.mem_append_right _ List.mem_cons_self))
    · intro begins
      have gapped : front ++ [gap] <+: front ++ gap :: back := ⟨back, by simp⟩
      rcases List.prefix_or_prefix_of_prefix begins gapped with short | long
      · rcases List.mem_append.mp (short.subset stops) with inside | last
        · exact absent inside
        · exact other (List.mem_singleton.mp last).symm
      · exact without (long.subset (List.mem_append_right _ List.mem_cons_self))
  induction word with
  | nil =>
      obtain ⟨whole, part⟩ := apart (List.mem_singleton.not.mpr other) List.mem_cons_self
      exact isClear_cons_iff.mpr ⟨whole, part, rfl⟩
  | cons c word ih =>
      obtain ⟨different, others⟩ := List.ne_and_not_mem_of_not_mem_cons lacks
      have without : gap ∉ c :: (word ++ [stop]) := by
        simp only [List.mem_cons, List.mem_append, List.mem_nil_iff, or_false, not_or]
        exact ⟨different, others, other⟩
      obtain ⟨whole, part⟩ := apart without (by simp)
      exact isClear_cons_iff.mpr ⟨whole, part, ih others⟩

/-- A text without the first character of the marker. -/
theorem isClear_absent {c : Char} {rest text : List Char} (absent : c ∉ text) :
    isClear (c :: rest) text = true := by
  induction text with
  | nil => rfl
  | cons d text ih =>
      obtain ⟨different, others⟩ := List.ne_and_not_mem_of_not_mem_cons absent
      refine isClear_cons_iff.mpr ⟨fun begins => ?_, fun begins => ?_, ih others⟩
      · exact different (List.cons_prefix_cons.mp begins).1
      · exact different (List.cons_prefix_cons.mp begins).1.symm

/-! ### Occurrences -/

theorem occurrences_of_clear {before : List Char} (clear : isClear marker before = true)
    (rest : List Char) : occurrences marker (before ++ rest) = occurrences marker rest := by
  induction before with
  | nil => rfl
  | cons c before ih =>
      have later := (isClear_cons_iff.mp clear).2.2
      rw [List.cons_append, occurrences, if_neg, ih later]
      exact fun begins => not_prefix_append clear (List.isPrefixOf_iff_prefix.mp begins)

theorem occurrences_marker {c : Char} {marker : List Char} (rest : List Char) :
    occurrences (c :: marker) (c :: marker ++ rest) =
      rest :: occurrences (c :: marker) (marker ++ rest) := by
  have begins : (c :: marker).isPrefixOf (c :: (marker ++ rest)) = true :=
    List.isPrefixOf_iff_prefix.mpr (List.prefix_append (c :: marker) rest)
  rw [List.cons_append, occurrences, if_pos begins, ← List.cons_append, List.drop_left]

theorem beforeLast_append {rest front : List Char} (found : beforeLast marker rest = some front)
    (before : List Char) : beforeLast marker (before ++ rest) = some (before ++ front) := by
  induction before with
  | nil => exact found
  | cons c before ih => rw [List.cons_append, beforeLast, ih, List.cons_append]

theorem beforeLast_of_clear {text : List Char} (clear : isClear marker text = true) :
    beforeLast marker text = none := by
  induction text with
  | nil => rfl
  | cons c rest ih =>
      obtain ⟨whole, _, later⟩ := isClear_cons_iff.mp clear
      rw [beforeLast, ih later]
      exact if_neg fun begins => whole (List.isPrefixOf_iff_prefix.mp begins)

/-- The last marker. -/
theorem beforeLast_marker {c : Char} {marker rest : List Char}
    (clear : isClear (c :: marker) (marker ++ rest) = true) :
    beforeLast (c :: marker) (c :: marker ++ rest) = some [] := by
  rw [List.cons_append, beforeLast, beforeLast_of_clear clear]
  exact if_pos (List.isPrefixOf_iff_prefix.mpr (List.prefix_append (c :: marker) rest))

end Omdesky
