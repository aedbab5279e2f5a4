/-
**The greedy layout has the fewest lines.**

* `length_render`, `mem_render`: the length and the letters of a line, from its words.
* `closed_foldl_place_of_part`: while words of one narrow line are placed, at most one line is closed.
* `length_fill_le`: **no layout of the same words on narrow lines has fewer lines.**
* `fill_of_narrow`: the words of one narrow line stay on one line.
-/

import Mathlib.Algebra.BigOperators.Group.List.Basic
import Mathlib.Algebra.GroupWithZero.Nat
import Omdesky.Collections.Layout

namespace Collections.Layout

variable {α : Type} {separator : α} {width : Nat} {filling : Filling α}
  {line front words : List (List α)}

/-! ### The length of a line -/

/-- What the words of a line take with a separator after each. -/
def span (line : List (List α)) : Nat := (line.map fun word => word.length + 1).sum

@[simp] theorem span_nil : span ([] : List (List α)) = 0 := rfl

@[simp] theorem span_cons (word : List α) : span (word :: line) = word.length + 1 + span line :=
  List.sum_cons

@[simp] theorem span_append (later : List (List α)) : span (line ++ later) = span line + span later := by
  rw [span, span, span, List.map_append, List.sum_append]

/-- There is no separator after the last word. -/
theorem length_render : (render separator line).length = span line - 1 := by
  induction line with
  | nil => rfl
  | cons word line ih =>
      cases line with
      | nil => simp
      | cons second line =>
          rw [render_cons_cons, List.length_append, List.length_cons, ih]
          simp only [span_cons]
          omega

/-- Words in a row of a line are no longer than the line. -/
theorem length_render_le_of_part (part : front <:+: line) :
    (render separator front).length ≤ (render separator line).length := by
  obtain ⟨before, after, rfl⟩ := part
  rw [length_render, length_render, span_append, span_append]
  omega

/-- A line has the letters of its words and separators. -/
theorem mem_render {letter : α} (member : letter ∈ render separator line) :
    letter = separator ∨ ∃ word ∈ line, letter ∈ word := by
  induction line with
  | nil => cases member
  | cons word line ih =>
      cases line with
      | nil => exact .inr ⟨word, List.mem_cons_self, by rwa [render_singleton] at member⟩
      | cons second line =>
          rw [render_cons_cons] at member
          rcases List.mem_append.mp member with first | rest
          · exact .inr ⟨word, List.mem_cons_self, first⟩
          · rcases List.mem_cons.mp rest with same | later
            · exact .inl same
            · rcases ih later with same | ⟨other, listed, inside⟩
              · exact .inl same
              · exact .inr ⟨other, List.mem_cons_of_mem _ listed, inside⟩

/-! ### Placing the words of a line -/

/-- What is left of a narrow line has room on the line that holds the words before it. -/
theorem foldl_place_of_suffix (narrow : (render separator line).length ≤ width)
    (started : filling.started ++ words <:+ line) :
    words.foldl (place separator width) filling = ⟨filling.closed, filling.started ++ words⟩ := by
  induction words generalizing filling with
  | nil => rw [List.append_nil]; rfl
  | cons word words ih =>
      rw [List.append_cons] at started ⊢
      have part : filling.started ++ [word] <:+: line :=
        (List.prefix_append _ _).isInfix.trans started.isInfix
      have fits : (render separator (filling.started ++ [word])).length ≤ width :=
        Nat.le_trans (length_render_le_of_part part) narrow
      rw [List.foldl_cons, place, if_pos fits]
      exact @ih { filling with started := filling.started ++ [word] } started

/-- **The words of one narrow line close at most one line.** -/
theorem closed_foldl_place_of_part (narrow : (render separator line).length ≤ width)
    (part : words <:+ line) :
    (words.foldl (place separator width) filling).closed.length ≤ filling.closed.length + 1 := by
  induction words generalizing filling with
  | nil => exact Nat.le_succ _
  | cons word words ih =>
      have later : words <:+ line := (List.suffix_cons word words).trans part
      by_cases fits : (render separator (filling.started ++ [word])).length ≤ width
      · rw [List.foldl_cons, place, if_pos fits]
        exact @ih { filling with started := filling.started ++ [word] } later
      · -- the line is closed, and all that is left has room on the next one
        rw [List.foldl_cons, place, if_neg fits,
          @foldl_place_of_suffix _ _ _ ⟨filling.closed ++ [filling.started], [word]⟩ _ _ narrow part]
        exact Nat.le_of_eq List.length_append

/-- Narrow lines close at most one line each. -/
theorem closed_foldl_place_le {lines : List (List (List α))}
    (narrow : ∀ line ∈ lines, (render separator line).length ≤ width) :
    (lines.flatten.foldl (place separator width) filling).closed.length ≤
      filling.closed.length + lines.length := by
  induction lines generalizing filling with
  | nil => exact Nat.le_refl _
  | cons line lines ih =>
      obtain ⟨first, others⟩ := List.forall_mem_cons.mp narrow
      have one := @closed_foldl_place_of_part _ _ _ filling _ _ first List.suffix_rfl
      have rest := @ih (line.foldl (place separator width) filling) others
      rw [List.flatten_cons, List.foldl_append, List.length_cons]
      omega

/-- The words of a narrow line stay on one line. -/
theorem foldl_place_of_narrow (narrow : (render separator line).length ≤ width) :
    line.foldl (place separator width) .empty = ⟨[], line⟩ :=
  @foldl_place_of_suffix _ _ _ .empty _ _ narrow List.suffix_rfl

theorem fill_of_narrow (narrow : (render separator line).length ≤ width) :
    fill separator width line = [line] := by
  rw [fill, foldl_place_of_narrow narrow]
  rfl

/-- **The greedy layout has the fewest lines.** -/
theorem length_fill_le {lines : List (List (List α))} (lined : lines ≠ [])
    (narrow : ∀ line ∈ lines, (render separator line).length ≤ width) :
    (fill separator width lines.flatten).length ≤ lines.length := by
  obtain ⟨first, others, rfl⟩ := List.exists_cons_of_ne_nil lined
  obtain ⟨here, later⟩ := List.forall_mem_cons.mp narrow
  have closed := @closed_foldl_place_le _ _ _ ⟨[], first⟩ _ later
  rw [fill, Filling.lines, List.flatten_cons, List.foldl_append, foldl_place_of_narrow here,
    List.length_append, List.length_singleton, List.length_cons]
  simpa using closed

end Collections.Layout
