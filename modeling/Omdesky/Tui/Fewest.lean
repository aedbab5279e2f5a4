/-
**Wrapping is as good as it can be (`omdesky-tui/src/lib.rs`).**

* `span_le_of_words`: a text is at least as long as its words with one blank between two of them.
* `length_paragraphLines_le`: whoever wraps a paragraph of short words needs as many lines.
* `BestWrapped`, `bestWrapped_wrapText`: **fewest lines**, fewer where there is more room, and a text
  that is wrapped stays as it is.
-/

import Omdesky.Collections.Fewest
import Omdesky.Tui.Wrap

namespace Omdesky.Tui

open Collections

variable {width : Nat} {text : String}

/-! ### The length of a text -/

/-- A text that begins with a blank has room for its words with a blank before each; any other lacks
one. -/
theorem span_le_of_words {words : List (List Char)} {text : List Char} (spelled : Words words text) :
    Layout.span words ≤ text.length + 1 ∧
      ((∀ c ∈ text.head?, isWhitespace c = true) → Layout.span words ≤ text.length) := by
  induction spelled with
  | done blank => exact ⟨Nat.zero_le _, fun _ => Nat.zero_le _⟩
  | @word gap word words rest blank nonempty solid apart more ih =>
      have later := ih.2 apart
      rw [Layout.span_cons, List.length_append, List.length_append]
      refine ⟨by omega, fun begins => ?_⟩
      cases gap with
      | nil =>
          obtain ⟨c, others, rfl⟩ := List.exists_cons_of_ne_nil nonempty
          have blank := begins c rfl
          rw [solid c List.mem_cons_self] at blank
          cases blank
      | cons c gap =>
          rw [List.length_cons]
          omega

/-- The words of a line take no more room than the line. -/
theorem length_render_splitWhitespace_le (line : List Char) :
    (Layout.render ' ' (splitWhitespace line)).length ≤ line.length := by
  have room := (span_le_of_words (words_splitWhitespace line)).1
  rw [Layout.length_render]
  omega

/-! ### Paragraphs -/

/-- Every word of the text has room on a line. -/
def Short (width : Nat) (text : List Char) : Prop :=
  ∀ word ∈ splitWhitespace text, word.length ≤ width

/-- Short words are not cut. -/
theorem flatMap_chop_of_short {words : List (List Char)} (short : ∀ word ∈ words, word.length ≤ width) :
    words.flatMap (Layout.chop width []) = words := by
  have pieces : words.flatMap (Layout.chop width []) = words.flatMap fun word => [word] :=
    List.flatMap_congr fun word member => Layout.chop_of_short (short word member)
  rw [pieces, List.flatMap_singleton']

theorem Spells.read_of_short {words : List (List Char)} {lines : List String}
    (spells : Spells width words lines) (short : ∀ word ∈ words, word.length ≤ width) :
    (lines.map fun line => splitWhitespace line.toList).flatten = words := by
  obtain ⟨cut, _, whole, read⟩ := spells
  have uncut : words.flatMap cut = words.flatMap fun word => [word] :=
    List.flatMap_congr fun word member => whole word (short word member)
  rw [← List.flatMap_def, read, uncut, List.flatMap_singleton']

/-- **Whoever wraps a paragraph of short words needs as many lines.** -/
theorem length_paragraphLines_le {paragraph : List Char} {block : List String}
    (short : Short width paragraph) (lined : block ≠ []) (narrow : ∀ line ∈ block, line.length ≤ width)
    (spells : Spells width (splitWhitespace paragraph) block) :
    (paragraphLines width paragraph).length ≤ block.length := by
  have read := spells.read_of_short short
  have narrow' : ∀ words ∈ block.map fun line => splitWhitespace line.toList,
      (Layout.render ' ' words).length ≤ width := by
    refine List.forall_mem_map.mpr fun line member => ?_
    exact Nat.le_trans (length_render_splitWhitespace_le line.toList) (narrow line member)
  have fewest := Layout.length_fill_le (mt List.map_eq_nil_iff.mp lined) narrow'
  rw [read, List.length_map] at fewest
  rwa [paragraphLines, List.length_map, flatMap_chop_of_short short]

/-- A line of a paragraph has words that are short. -/
theorem exists_words_of_mem_paragraphLines (positive : 0 < width) {paragraph line : List Char}
    (member : line ∈ paragraphLines width paragraph) : ∃ words, line = Layout.render ' ' words ∧
      ∀ word ∈ words, (word ≠ [] ∧ ∀ c ∈ word, isWhitespace c = false) ∧ word.length ≤ width := by
  obtain ⟨words, listed, rfl⟩ := List.mem_map.mp member
  refine ⟨words, rfl, fun piece inside => ?_⟩
  have known := (words_splitWhitespace paragraph).solid
  have short : ∀ piece ∈ (splitWhitespace paragraph).flatMap (Layout.chop width []),
      (piece ≠ [] ∧ ∀ c ∈ piece, isWhitespace c = false) ∧ piece.length ≤ width := by
    intro piece chopped
    obtain ⟨word, spelled, cut⟩ := List.mem_flatMap.mp chopped
    have fits := @Layout.forall_mem_chop _ _ word [] positive (Nat.zero_le _) (known word spelled).1
    exact ⟨solid_of_mem_chop positive (known word spelled) cut, (fits piece cut).1⟩
  have whole := (@Layout.sound_fill _ ' ' width _ fun piece chopped => (short piece chopped).2).1
  exact short piece (whole ▸ List.mem_flatten_of_mem listed inside)

/-- **A line stays a line.** -/
theorem paragraphLines_of_line (positive : 0 < width) {paragraph line : List Char}
    (member : line ∈ paragraphLines width paragraph) : paragraphLines width line = [line] := by
  have narrow := (sound_paragraphLines paragraph positive).2 line member
  obtain ⟨words, rfl, short⟩ := exists_words_of_mem_paragraphLines positive member
  rw [paragraphLines, splitWhitespace_render fun word inside => (short word inside).1,
    flatMap_chop_of_short fun word inside => (short word inside).2, Layout.fill_of_narrow narrow,
    List.map_singleton]

theorem newline_not_mem (positive : 0 < width) {paragraph line : List Char}
    (member : line ∈ paragraphLines width paragraph) : '\n' ∉ line := by
  obtain ⟨words, rfl, short⟩ := exists_words_of_mem_paragraphLines positive member
  intro inside
  rcases Layout.mem_render inside with blank | ⟨word, listed, letter⟩
  · cases blank
  · cases (short word listed).1.2 _ letter

/-! ### The law -/

/-- **These lines are the best way to wrap the text.** -/
structure BestWrapped (width : Nat) (text : String) (lines : List String) : Prop where
  fewest : Short width text.toList → ∀ others, Wrapped width text others → lines.length ≤ others.length
  wider : Short width text.toList → ∀ wider, width ≤ wider → (wrapText text wider).length ≤ lines.length
  stable : wrapText ("\n".intercalate lines) width = lines

/-- The words of a paragraph are words of the text. -/
theorem Short.paragraph (short : Short width text.toList) :
    ∀ paragraph ∈ text.toList.splitOn '\n', Short width paragraph := by
  intro paragraph member word inside
  refine short word ?_
  rw [splitWhitespace_splitOn (by rfl : isWhitespace '\n' = true)]
  exact List.mem_flatMap.mpr ⟨paragraph, member, inside⟩

/-- Paragraph by paragraph. -/
theorem length_wrapText_le (positive : 0 < width) (short : Short width text.toList)
    {others : List String} (wrapped : Wrapped width text others) :
    (wrapText text width).length ≤ others.length := by
  obtain ⟨blocks, rfl, each⟩ := wrapped.paragraphs
  have narrow : ∀ block ∈ blocks, ∀ line ∈ block, line.length ≤ width := fun block listed line member =>
    wrapped.narrow line (List.mem_flatten_of_mem listed member)
  rw [wrapText_eq positive, List.length_map]
  replace each := (List.forall₂_and_left _ _).mpr ⟨short.paragraph, each⟩
  clear wrapped short
  generalize text.toList.splitOn '\n' = paragraphs at each
  induction each with
  | nil => exact Nat.le_refl _
  | cons here _ ih =>
      obtain ⟨tight, others⟩ := List.forall_mem_cons.mp narrow
      have first := length_paragraphLines_le here.1 here.2.1 tight here.2.2
      rw [List.flatMap_cons, List.flatten_cons, List.length_append, List.length_append]
      exact Nat.add_le_add first (ih others)

theorem Spells.widen {words : List (List Char)} {lines : List String} (spells : Spells width words lines)
    (short : ∀ word ∈ words, word.length ≤ width) (wider : Nat) : Spells wider words lines := by
  refine ⟨fun word => [word], fun word => List.flatten_singleton, fun _ _ => rfl, ?_⟩
  rw [List.flatMap_singleton', List.flatMap_def, spells.read_of_short short]

/-- Short words that are wrapped are wrapped at any greater width. -/
theorem Wrapped.widen {lines : List String} (wrapped : Wrapped width text lines)
    (short : Short width text.toList) {wider : Nat} (grown : width ≤ wider) : Wrapped wider text lines where
  narrow line member := Nat.le_trans (wrapped.narrow line member) grown
  conserved := wrapped.conserved
  unsplit := wrapped.unsplit.widen short wider
  paragraphs := by
    obtain ⟨blocks, rfl, each⟩ := wrapped.paragraphs
    refine ⟨blocks, rfl, ?_⟩
    have each := (List.forall₂_and_left _ _).mpr ⟨short.paragraph, each⟩
    exact each.imp fun paragraph block both => ⟨both.2.1, both.2.2.widen both.1 wider⟩

/-- **Wrapping a wrapped text changes nothing.** -/
theorem wrapText_wrapText (positive : 0 < width) (text : String) :
    wrapText ("\n".intercalate (wrapText text width)) width = wrapText text width := by
  rw [wrapText_eq positive text]
  generalize listed : (text.toList.splitOn '\n').flatMap (paragraphLines width) = lines
  have origin : ∀ line ∈ lines, ∃ paragraph, line ∈ paragraphLines width paragraph := by
    intro line member
    obtain ⟨paragraph, _, inside⟩ := List.mem_flatMap.mp (listed ▸ member)
    exact ⟨paragraph, inside⟩
  have lined : lines ≠ [] := by
    obtain ⟨first, others, paragraphs⟩ := List.exists_cons_of_ne_nil
      (List.splitOn_ne_nil '\n' text.toList)
    rw [← listed, paragraphs, List.flatMap_cons]
    exact List.append_ne_nil_of_left_ne_nil (paragraphLines_ne_nil width first) _
  have split : ("\n".intercalate (lines.map String.ofList)).toList.splitOn '\n' = lines := by
    have texts : (lines.map String.ofList).map String.toList = lines := by simp
    rw [String.toList_intercalate, texts]
    refine List.splitOn_intercalate '\n' (fun line member => ?_) lined
    obtain ⟨paragraph, inside⟩ := origin line member
    exact newline_not_mem positive inside
  have kept : lines.flatMap (paragraphLines width) = lines.flatMap fun line => [line] := by
    refine List.flatMap_congr fun line member => ?_
    obtain ⟨paragraph, inside⟩ := origin line member
    exact paragraphLines_of_line positive inside
  rw [wrapText_eq positive, split, kept, List.flatMap_singleton']

/-- **Wrapping is as good as it can be.** -/
theorem bestWrapped_wrapText (text : String) (positive : 0 < width) :
    BestWrapped width text (wrapText text width) where
  fewest short _ wrapped := length_wrapText_le positive short wrapped
  wider short _ grown := length_wrapText_le (Nat.lt_of_lt_of_le positive grown)
    (fun word member => Nat.le_trans (short word member) grown)
    ((wrapped_wrapText text positive).widen short grown)
  stable := wrapText_wrapText positive text

/-- Three words, of which no two have room on one line. -/
theorem bestWrapped_wrapText_three :
    BestWrapped 9 "workspace \t monitor\nwindow" (wrapText "workspace \t monitor\nwindow" 9) :=
  bestWrapped_wrapText _ (by decide)

-- A word that is too long for a line starts on a line of its own, so that one more line may be needed.
example : wrapText "ab SUNSHINE" 7 = ["ab", "SUNSHIN", "E"] := by decide

end Omdesky.Tui
