/-
**Wrapping a text (`omdesky-tui/src/lib.rs`).**

* `Wrapping`, `pushWord`, `wrapWord`, `wrapParagraph`, `wrapText`: the code.
* `Wrapping.of`, `wrapWord_of`: its two half-built values are a layout that is half filled.
* `wrapParagraph_eq`: a paragraph is laid out in the pieces of its words.
* `wrapped_wrapText`: **nothing is lost**, every line is narrow, and only longer words are cut.
-/

import Mathlib.Data.List.Forall2
import Omdesky.Collections.Layout
import Omdesky.Text.Split

namespace Omdesky.Tui

open Collections

/-! ### The code -/

/-- The variables `lines` and `current` of `wrap_text`. -/
structure Wrapping where
  lines : List (List Char)
  current : List Char
  deriving DecidableEq, Repr

/-- The loop of `push_word`, over the rest of a word. -/
def pushChunks (width : Nat) (lines : List (List Char)) (chunk : List Char) : List Char → Wrapping
  | [] => ⟨lines, chunk⟩
  | character :: rest =>
      if chunk.length = width then pushChunks width (lines ++ [chunk]) [character] rest
      else pushChunks width lines (chunk ++ [character]) rest

/-- `push_word`. -/
def pushWord (width : Nat) (state : Wrapping) (word : List Char) : Wrapping :=
  if word.length ≤ width then { state with current := word }
  else pushChunks width state.lines [] word

/-- One turn of the loop over the words. -/
def wrapWord (width : Nat) (state : Wrapping) (word : List Char) : Wrapping :=
  if state.current.isEmpty then pushWord width state word
  else if state.current.length + 1 + word.length ≤ width then
    { state with current := state.current ++ ' ' :: word }
  else pushWord width ⟨state.lines ++ [state.current], []⟩ word

/-- One turn of the loop over the paragraphs. -/
def wrapParagraph (width : Nat) (lines : List (List Char)) (paragraph : List Char) :
    List (List Char) :=
  let state := (splitWhitespace paragraph).foldl (wrapWord width) ⟨lines, []⟩
  state.lines ++ [state.current]

/-- `wrap_text`. -/
def wrapText (text : String) (width : Nat) : List String :=
  if width = 0 then [text]
  else
    let lines := (text.toList.splitOn '\n').foldl (wrapParagraph width) []
    (if lines.isEmpty then [[]] else lines).map String.ofList

/-! ### The layout -/

section Layout

variable {width : Nat} {before : List (List Char)} {filling : Layout.Filling Char}

/-- The variables that hold these lines, after those of other paragraphs. -/
def Wrapping.of (before : List (List Char)) (filling : Layout.Filling Char) : Wrapping where
  lines := before ++ filling.closed.map (Layout.render ' ')
  current := Layout.render ' ' filling.started

/-- A line that is full is pushed before the next character. -/
theorem pushChunks_of (positive : 0 < width) {closed : List (List (List Char))} {chunk : List Char}
    (short : chunk.length ≤ width) (word : List Char) :
    pushChunks width (before ++ closed.map (Layout.render ' ')) chunk word =
      .of before ((Layout.chop width chunk word).foldl (Layout.place ' ' width) ⟨closed, []⟩) := by
  induction word generalizing closed chunk with
  | nil =>
      rw [pushChunks, Layout.chop, List.foldl_cons, Layout.place_nil short, List.foldl_nil,
        Wrapping.of, Layout.render_singleton]
  | cons character rest ih =>
      rw [pushChunks, Layout.chop]
      split
      · next full =>
          have pushed := @ih (closed ++ [[chunk]]) [character] positive
          rw [List.map_append, List.map_singleton, Layout.render_singleton, ← List.append_assoc]
            at pushed
          have past :
              width < (Layout.render ' ' [chunk]).length + 1 + ([character] ++ rest).length := by
            rw [Layout.render_singleton]
            omega
          rw [pushed, List.foldl_cons, Layout.place_nil short,
            Layout.foldl_place_chop (List.cons_ne_nil _ _) positive past]
      · next more =>
          refine ih ?_
          rw [List.length_append, List.length_singleton]
          omega

/-- The early return makes no difference. -/
theorem pushWord_of (positive : 0 < width) {closed : List (List (List Char))} (current : List Char)
    (word : List Char) :
    pushWord width ⟨before ++ closed.map (Layout.render ' '), current⟩ word =
      .of before ((Layout.chop width [] word).foldl (Layout.place ' ' width) ⟨closed, []⟩) := by
  unfold pushWord
  split
  · next short =>
      rw [Layout.chop_of_short short, List.nil_append, List.foldl_cons, Layout.place_nil short,
        List.foldl_nil, Wrapping.of, Layout.render_singleton]
  · exact pushChunks_of positive (Nat.zero_le _) word

/-- **One word**: its pieces are placed. -/
theorem wrapWord_of (positive : 0 < width) (filled : ∀ word ∈ filling.started, word ≠ [])
    (word : List Char) :
    wrapWord width (.of before filling) word =
      .of before ((Layout.chop width [] word).foldl (Layout.place ' ' width) filling) := by
  obtain ⟨closed, started⟩ := filling
  by_cases first : started = []
  · subst first
    exact pushWord_of positive [] word
  · have current : (Layout.render ' ' started).isEmpty = false :=
      List.isEmpty_eq_false_iff.mpr (Layout.render_ne_nil first filled)
    have room : (Layout.render ' ' (started ++ [word])).length =
        (Layout.render ' ' started).length + 1 + word.length := by
      rw [Layout.render_append first, List.length_append, List.length_cons]
      omega
    unfold wrapWord Wrapping.of
    rw [if_neg (by simp [current])]
    split
    · next fits =>
        have short : word.length ≤ width := by omega
        rw [Layout.chop_of_short short, List.nil_append, List.foldl_cons, List.foldl_nil,
          Layout.place, if_pos (by rwa [room]), Layout.render_append first]
    · next past =>
        have pushed := @pushWord_of width before positive (closed ++ [started]) [] word
        rw [List.map_append, List.map_singleton, ← List.append_assoc] at pushed
        rw [Layout.foldl_place_chop first (Nat.zero_le _) (Nat.not_le.mp past)]
        exact pushed

/-- **All the words**: so are all their pieces. -/
theorem foldl_wrapWord (positive : 0 < width) (filled : ∀ word ∈ filling.started, word ≠ [])
    {words : List (List Char)} (solid : ∀ word ∈ words, word ≠ []) :
    words.foldl (wrapWord width) (.of before filling) = .of before
      ((words.flatMap (Layout.chop width [])).foldl (Layout.place ' ' width) filling) := by
  induction words generalizing filling with
  | nil => rfl
  | cons word words ih =>
      obtain ⟨nonempty, others⟩ := List.forall_mem_cons.mp solid
      have filled' : ∀ other ∈
          ((Layout.chop width [] word).foldl (Layout.place ' ' width) filling).started,
            other ≠ [] := by
        intro other member
        rcases Layout.mem_started_foldl member with old | new
        · exact filled other old
        · exact (@Layout.forall_mem_chop _ _ word [] positive (Nat.zero_le _) nonempty other new).2
      rw [List.foldl_cons, wrapWord_of positive filled, ih filled' others, List.flatMap_cons,
        List.foldl_append]

/-- The lines of a paragraph. -/
def paragraphLines (width : Nat) (paragraph : List Char) : List (List Char) :=
  (Layout.fill ' ' width ((splitWhitespace paragraph).flatMap (Layout.chop width []))).map
    (Layout.render ' ')

/-- **A paragraph is laid out in the pieces of its words**, after the lines of those before it. -/
theorem wrapParagraph_eq (positive : 0 < width) (lines : List (List Char)) (paragraph : List Char) :
    wrapParagraph width lines paragraph = lines ++ paragraphLines width paragraph := by
  have solid := (words_splitWhitespace paragraph).solid
  have laid := @foldl_wrapWord width lines .empty positive (List.forall_mem_nil _) _
    fun word member => (solid word member).1
  have start : Wrapping.of lines .empty = ⟨lines, []⟩ := by
    rw [Wrapping.of, Layout.Filling.empty, List.map_nil, List.append_nil, Layout.render_nil]
  rw [start] at laid
  rw [wrapParagraph, laid, Wrapping.of, paragraphLines, Layout.fill, Layout.Filling.lines,
    List.map_append, List.append_assoc, List.map_singleton]

theorem paragraphLines_ne_nil (width : Nat) (paragraph : List Char) :
    paragraphLines width paragraph ≠ [] := by
  rw [paragraphLines, Layout.fill, Layout.Filling.lines, List.map_append]
  exact List.append_ne_nil_of_right_ne_nil _ (List.cons_ne_nil _ _)

/-- **A text in closed form**: its paragraphs, one after the other. -/
theorem wrapText_eq (positive : 0 < width) (text : String) :
    wrapText text width =
      ((text.toList.splitOn '\n').flatMap (paragraphLines width)).map String.ofList := by
  have lines (before paragraphs : List (List Char)) :
      paragraphs.foldl (wrapParagraph width) before =
        before ++ paragraphs.flatMap (paragraphLines width) := by
    induction paragraphs generalizing before with
    | nil => exact (List.append_nil before).symm
    | cons paragraph paragraphs ih =>
        rw [List.foldl_cons, ih, wrapParagraph_eq positive, List.flatMap_cons, List.append_assoc]
  have some : ((text.toList.splitOn '\n').flatMap (paragraphLines width)).isEmpty = false := by
    obtain ⟨first, others, paragraphs⟩ := List.exists_cons_of_ne_nil
      (List.splitOn_ne_nil '\n' text.toList)
    rw [paragraphs, List.flatMap_cons, List.isEmpty_eq_false_iff]
    exact List.append_ne_nil_of_left_ne_nil (paragraphLines_ne_nil width first) _
  unfold wrapText
  rw [if_neg (Nat.ne_of_gt positive), lines, List.nil_append]
  exact congrArg _ (if_neg (by rw [some]; decide))

end Layout

/-! ### The words -/

section Words

variable {width : Nat}

/-- A line of words has these words. -/
theorem splitWhitespace_render {line : List (List Char)}
    (solid : ∀ word ∈ line, word ≠ [] ∧ ∀ c ∈ word, isWhitespace c = false) :
    splitWhitespace (Layout.render ' ' line) = line := by
  induction line with
  | nil => rfl
  | cons word line ih =>
      obtain ⟨⟨nonempty, first⟩, others⟩ := List.forall_mem_cons.mp solid
      cases line with
      | nil => rw [Layout.render_singleton, splitWhitespace_eq_singleton nonempty first]
      | cons second line =>
          rw [Layout.render_cons_cons, splitWhitespace_append_cons (by rfl), ih others,
            splitWhitespace_eq_singleton nonempty first, List.singleton_append]

/-- A piece of a word is a word. -/
theorem solid_of_mem_chop (positive : 0 < width) {word piece : List Char}
    (solid : word ≠ [] ∧ ∀ c ∈ word, isWhitespace c = false)
    (member : piece ∈ Layout.chop width [] word) :
    piece ≠ [] ∧ ∀ c ∈ piece, isWhitespace c = false := by
  have nonempty := @Layout.forall_mem_chop _ _ word [] positive (Nat.zero_le _) solid.1 piece member
  refine ⟨nonempty.2, fun c inside => solid.2 c ?_⟩
  have whole : c ∈ (Layout.chop width [] word).flatten := List.mem_flatten_of_mem member inside
  rwa [Layout.flatten_chop, List.nil_append] at whole

variable (paragraph : List Char)

theorem sound_paragraphLines (positive : 0 < width) :
    (paragraphLines width paragraph).flatMap splitWhitespace =
        (splitWhitespace paragraph).flatMap (Layout.chop width []) ∧
      ∀ line ∈ paragraphLines width paragraph, line.length ≤ width := by
  have words := (words_splitWhitespace paragraph).solid
  have solid : ∀ piece ∈ (splitWhitespace paragraph).flatMap (Layout.chop width []),
      (piece ≠ [] ∧ ∀ c ∈ piece, isWhitespace c = false) ∧ piece.length ≤ width := by
    intro piece member
    obtain ⟨word, known, inside⟩ := List.mem_flatMap.mp member
    have short := @Layout.forall_mem_chop _ _ word [] positive (Nat.zero_le _) (words word known).1
    exact ⟨solid_of_mem_chop positive (words word known) inside, (short piece inside).1⟩
  obtain ⟨whole, narrow⟩ :=
    @Layout.sound_fill _ ' ' width _ fun piece member => (solid piece member).2
  refine ⟨?_, List.forall_mem_map.mpr narrow⟩
  rw [paragraphLines, List.flatMap_map]
  refine Eq.trans ?_ (List.flatMap_id'.trans whole)
  refine List.flatMap_congr fun line member => splitWhitespace_render fun piece inside => ?_
  exact (solid piece (whole ▸ List.mem_flatten_of_mem member inside)).1

end Words

/-! ### The law -/

/-- Read off these lines, the words are these. Only those that are longer than a line are cut. -/
def Spells (width : Nat) (words : List (List Char)) (lines : List String) : Prop :=
  ∃ cut : List Char → List (List Char),
    (∀ word, (cut word).flatten = word) ∧ (∀ word, word.length ≤ width → cut word = [word]) ∧
      lines.flatMap (fun line => splitWhitespace line.toList) = words.flatMap cut

/-- These lines are the text, wrapped. -/
structure Wrapped (width : Nat) (text : String) (lines : List String) : Prop where
  narrow : ∀ line ∈ lines, line.length ≤ width
  conserved : (String.join lines).toList.filter (fun c => !isWhitespace c) =
    text.toList.filter fun c => !isWhitespace c
  unsplit : Spells width (splitWhitespace text.toList) lines
  /-- Every paragraph has lines of its own, at least one. -/
  paragraphs : ∃ blocks : List (List String), lines = blocks.flatten ∧
    List.Forall₂
      (fun paragraph block => block ≠ [] ∧ Spells width (splitWhitespace paragraph) block)
      (text.toList.splitOn '\n') blocks

section Law

variable {width : Nat}

/-- Nothing but whitespace is lost where words are cut. -/
theorem Spells.conserved {words : List (List Char)} {lines : List String}
    (spells : Spells width words lines) :
    (String.join lines).toList.filter (fun c => !isWhitespace c) = words.flatten := by
  obtain ⟨cut, whole, _, read⟩ := spells
  have flatten {α : Type} (items : List α) (f : α → List (List Char)) :
      (items.flatMap f).flatten = items.flatMap fun item => (f item).flatten := by
    rw [← List.flatMap_id, List.flatMap_assoc]
    simp only [List.flatMap_id]
  calc (String.join lines).toList.filter (fun c => !isWhitespace c)
      = lines.flatMap fun line => (splitWhitespace line.toList).flatten := by
        rw [String.toList_join, List.filter_flatMap]
        exact List.flatMap_congr fun line _ => (words_splitWhitespace line.toList).flatten_eq.symm
    _ = (words.flatMap cut).flatten := by rw [← flatten, read]
    _ = words.flatten := by
        rw [flatten]
        exact (List.flatMap_congr fun word _ => whole word).trans List.flatMap_id'

theorem spells_of_words {words lines : List (List Char)}
    (read : lines.flatMap splitWhitespace = words.flatMap (Layout.chop width [])) :
    Spells width words (lines.map String.ofList) := by
  refine ⟨Layout.chop width [], Layout.flatten_chop width [],
    fun word short => @Layout.chop_of_short _ width word [] short, ?_⟩
  rw [List.flatMap_map, ← read]
  exact List.flatMap_congr fun line _ => by rw [String.toList_ofList]

/-- **Wrapping loses nothing.** -/
theorem wrapped_wrapText (text : String) (positive : 0 < width) :
    Wrapped width text (wrapText text width) := by
  have unsplit : Spells width (splitWhitespace text.toList) (wrapText text width) := by
    rw [wrapText_eq positive]
    refine spells_of_words ?_
    rw [splitWhitespace_splitOn (by rfl : isWhitespace '\n' = true), List.flatMap_assoc,
      List.flatMap_assoc]
    exact List.flatMap_congr fun paragraph _ => (sound_paragraphLines paragraph positive).1
  have conserved := unsplit.conserved.trans (words_splitWhitespace text.toList).flatten_eq
  refine ⟨fun line member => ?_, conserved, unsplit, ?_⟩
  · rw [wrapText_eq positive] at member
    obtain ⟨characters, inside, rfl⟩ := List.mem_map.mp member
    obtain ⟨paragraph, _, known⟩ := List.mem_flatMap.mp inside
    rw [String.length_ofList]
    exact (sound_paragraphLines paragraph positive).2 characters known
  · refine ⟨(text.toList.splitOn '\n').map fun paragraph =>
      (paragraphLines width paragraph).map String.ofList, ?_, ?_⟩
    · rw [wrapText_eq positive, List.flatMap_def, List.map_flatten, List.map_map]
      rfl
    · refine List.forall₂_map_right_iff.mpr (List.forall₂_same.mpr fun paragraph _ => ⟨?_, ?_⟩)
      · exact fun none => paragraphLines_ne_nil width paragraph (List.map_eq_nil_iff.mp none)
      · exact spells_of_words (sound_paragraphLines paragraph positive).1

/-- A word that fills its line, and one that is longer. -/
theorem wrapped_wrapText_long :
    Wrapped 8 "the SUNSHINE_API_UNAVAILABLE code"
      (wrapText "the SUNSHINE_API_UNAVAILABLE code" 8) :=
  wrapped_wrapText _ (by decide)

example : wrapText "ab SUNSHINE_API_UNAVAILABLE x yy\n\nend" 7 =
    ["ab", "SUNSHIN", "E_API_U", "NAVAILA", "BLE x", "yy", "", "end"] := by decide

end Law

end Omdesky.Tui
