/-
**Words laid out on lines.**

The words of a line have one separator between two of them. Words are placed one after the other: a
line is closed when the next word does not fit on it.

* `Layout.render`: the text of a line.
* `Layout.Filling`, `Layout.place`, `Layout.fill`: the lines so far, one word more, and all words.
* `Layout.Filling.Sound`: the words placed so far are on the lines, and every line is narrow.
* `Layout.chop`: a word in pieces that fit. `Layout.foldl_place_chop`: where the word does not fit,
  its pieces start a line.
-/

import Mathlib.Data.List.Basic
import Mathlib.Tactic.Common

namespace Collections.Layout

variable {α : Type}

/-- The text of a line. -/
def render (separator : α) (line : List (List α)) : List α := [separator].intercalate line

/-- The lines that are closed, and the one that is not. -/
structure Filling (α : Type) where
  closed : List (List (List α))
  started : List (List α)

/-- No line yet. -/
def Filling.empty : Filling α := ⟨[], []⟩

/-- All the lines. -/
def Filling.lines (filling : Filling α) : List (List (List α)) :=
  filling.closed ++ [filling.started]

/-- One word more. -/
def place (separator : α) (width : Nat) (filling : Filling α) (word : List α) : Filling α :=
  if (render separator (filling.started ++ [word])).length ≤ width then
    { filling with started := filling.started ++ [word] }
  else ⟨filling.closed ++ [filling.started], [word]⟩

/-- The lines of these words. -/
def fill (separator : α) (width : Nat) (words : List (List α)) : List (List (List α)) :=
  (words.foldl (place separator width) .empty).lines

/-- The pieces of a word. The first of them begins with what there is of it. -/
def chop (width : Nat) : List α → List α → List (List α)
  | piece, [] => [piece]
  | piece, letter :: rest =>
      if piece.length = width then piece :: chop width [letter] rest
      else chop width (piece ++ [letter]) rest

variable {separator : α} {width : Nat} {filling : Filling α} {placed line words : List (List α)}
  {word : List α}

/-! ### Lines -/

@[simp] theorem render_nil : render separator [] = [] := rfl

@[simp] theorem render_singleton : render separator [word] = word := List.intercalate_singleton

theorem render_cons_cons {second : List α} :
    render separator (word :: second :: line) =
      word ++ separator :: render separator (second :: line) := by
  rw [render, List.intercalate_cons_cons, List.append_assoc]
  rfl

theorem render_append (filled : line ≠ []) :
    render separator (line ++ [word]) = render separator line ++ separator :: word := by
  induction line with
  | nil => exact absurd rfl filled
  | cons first line ih =>
      cases line with
      | nil => rw [List.singleton_append, render_cons_cons, render_singleton, render_singleton]
      | cons second line =>
          have more := ih (List.cons_ne_nil _ _)
          rw [List.cons_append] at more
          rw [List.cons_append, List.cons_append, render_cons_cons, more, render_cons_cons,
            List.append_assoc, List.cons_append]

theorem render_ne_nil (filled : line ≠ []) (words : ∀ word ∈ line, word ≠ []) :
    render separator line ≠ [] := by
  cases line with
  | nil => exact absurd rfl filled
  | cons first line =>
      cases line with
      | nil =>
          rw [render_singleton]
          exact words first List.mem_cons_self
      | cons second line =>
          rw [render_cons_cons]
          exact List.append_ne_nil_of_right_ne_nil _ (List.cons_ne_nil _ _)

/-! ### Placing -/

/-- These words are on the lines, and every line is narrow. -/
structure Filling.Sound (separator : α) (width : Nat) (filling : Filling α)
    (placed : List (List α)) : Prop where
  whole : filling.lines.flatten = placed
  narrow : ∀ line ∈ filling.lines, (render separator line).length ≤ width

theorem Filling.sound_empty : (Filling.empty : Filling α).Sound separator width [] :=
  ⟨rfl, List.forall_mem_singleton.mpr (Nat.zero_le _)⟩

theorem Filling.Sound.place (sound : filling.Sound separator width placed)
    (short : word.length ≤ width) :
    (place separator width filling word).Sound separator width (placed ++ [word]) := by
  obtain ⟨whole, narrow⟩ := sound
  rw [Filling.lines, List.flatten_append, List.flatten_singleton] at whole
  obtain ⟨closed, started⟩ := List.forall_mem_append.mp narrow
  unfold Layout.place
  split
  · next fits =>
      refine ⟨?_, List.forall_mem_append.mpr ⟨closed, List.forall_mem_singleton.mpr fits⟩⟩
      rw [← whole, Filling.lines, List.flatten_append, List.flatten_singleton, List.append_assoc]
  · next past =>
      refine ⟨?_, List.forall_mem_append.mpr ⟨narrow, List.forall_mem_singleton.mpr ?_⟩⟩
      · rw [← whole, Filling.lines, List.flatten_append, List.flatten_append,
          List.flatten_singleton, List.flatten_singleton]
      · rwa [render_singleton]

theorem Filling.Sound.foldl_place (sound : filling.Sound separator width placed)
    (short : ∀ word ∈ words, word.length ≤ width) :
    (words.foldl (Layout.place separator width) filling).Sound separator width
      (placed ++ words) := by
  induction words generalizing filling placed with
  | nil => rwa [List.append_nil]
  | cons word words ih =>
      obtain ⟨first, others⟩ := List.forall_mem_cons.mp short
      rw [List.foldl_cons, List.append_cons]
      exact ih (sound.place first) others

/-- **All the words are on the lines, and every line is narrow.** -/
theorem sound_fill (short : ∀ word ∈ words, word.length ≤ width) :
    (fill separator width words).flatten = words ∧
      ∀ line ∈ fill separator width words, (render separator line).length ≤ width := by
  have sound := (@Filling.sound_empty α separator width).foldl_place short
  exact ⟨sound.whole, sound.narrow⟩

/-- The words that are placed come from the words there were. -/
theorem mem_started_foldl {other : List α}
    (member : other ∈ (words.foldl (place separator width) filling).started) :
    other ∈ filling.started ∨ other ∈ words := by
  induction words generalizing filling with
  | nil => exact Or.inl member
  | cons word words ih =>
      rcases ih member with before | after
      · have either : other ∈ filling.started ∨ other = word := by
          unfold place at before
          split at before
          · rcases List.mem_append.mp before with old | new
            · exact Or.inl old
            · exact Or.inr (List.mem_singleton.mp new)
          · exact Or.inr (List.mem_singleton.mp before)
        rcases either with old | rfl
        · exact Or.inl old
        · exact Or.inr List.mem_cons_self
      · exact Or.inr (List.mem_cons_of_mem _ after)

/-! ### Pieces -/

variable {piece : List α} {closed : List (List (List α))}

theorem flatten_chop (width : Nat) (piece word : List α) :
    (chop width piece word).flatten = piece ++ word := by
  induction word generalizing piece with
  | nil => rw [chop, List.flatten_singleton, List.append_nil]
  | cons letter rest ih =>
      rw [chop]
      split
      · rw [List.flatten_cons, ih, List.singleton_append]
      · rw [ih, List.append_assoc, List.singleton_append]

theorem chop_of_short (short : (piece ++ word).length ≤ width) :
    chop width piece word = [piece ++ word] := by
  induction word generalizing piece with
  | nil => rw [chop, List.append_nil]
  | cons letter rest ih =>
      rw [List.append_cons] at short ⊢
      have more : piece.length ≠ width := by
        simp only [List.length_append, List.length_cons] at short
        omega
      rw [chop, if_neg more, ih short]

/-- The first piece is as long as possible. -/
theorem chop_eq_cons (short : piece.length ≤ width) (word : List α) :
    ∃ others, chop width piece word = (piece ++ word).take width :: others := by
  induction word generalizing piece with
  | nil =>
      refine ⟨[], ?_⟩
      rw [chop, List.append_nil, List.take_of_length_le short]
  | cons letter rest ih =>
      rw [chop]
      split
      · next full => exact ⟨chop width [letter] rest, by rw [List.take_left' full]⟩
      · next more =>
          have longer : (piece ++ [letter]).length ≤ width := by
            rw [List.length_append, List.length_singleton]
            omega
          obtain ⟨others, pieces⟩ := ih longer
          exact ⟨others, by rw [pieces, ← List.append_cons]⟩

/-- Every piece fits, and none is empty. -/
theorem forall_mem_chop (positive : 0 < width) (short : piece.length ≤ width)
    (filled : piece ++ word ≠ []) :
    ∀ other ∈ chop width piece word, other.length ≤ width ∧ other ≠ [] := by
  induction word generalizing piece with
  | nil =>
      rw [List.append_nil] at filled
      exact List.forall_mem_singleton.mpr ⟨short, filled⟩
  | cons letter rest ih =>
      rw [chop]
      split
      · next full =>
          refine List.forall_mem_cons.mpr ⟨⟨short, ?_⟩, ih positive (List.cons_ne_nil _ _)⟩
          rintro rfl
          exact Nat.ne_of_lt positive full
      · next more =>
          have longer : (piece ++ [letter]).length ≤ width := by
            rw [List.length_append, List.length_singleton]
            omega
          exact ih longer (by rwa [← List.append_cons])

theorem place_nil (short : word.length ≤ width) :
    place separator width ⟨closed, []⟩ word = ⟨closed, [word]⟩ :=
  if_pos (by rwa [List.nil_append, render_singleton])

/-- A line that has no room for the next word may be closed before it. -/
theorem place_of_past (past : width < (render separator (line ++ [word])).length)
    (short : word.length ≤ width) :
    place separator width ⟨closed, line⟩ word =
      place separator width ⟨closed ++ [line], []⟩ word := by
  rw [place_nil short]
  exact if_neg (Nat.not_le.mpr past)

/-- **Nor has it room for a piece of that word.** -/
theorem foldl_place_chop (filled : line ≠ [])
    (short : piece.length ≤ width)
    (past : width < (render separator line).length + 1 + (piece ++ word).length) :
    (chop width piece word).foldl (place separator width) ⟨closed, line⟩ =
      (chop width piece word).foldl (place separator width) ⟨closed ++ [line], []⟩ := by
  obtain ⟨others, pieces⟩ := chop_eq_cons short word
  rw [pieces, List.foldl_cons, List.foldl_cons, place_of_past]
  · rw [render_append filled, List.length_append, List.length_cons, List.length_take]
    omega
  · rw [List.length_take]
    exact Nat.min_le_left _ _

end Collections.Layout
