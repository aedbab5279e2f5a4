/-
**Splitting a text, and the numbers in it, as the standard library does both.**

* `rsplitOnce`, `splitWhitespace`: the functions of `str`.
* `Words`: a text is these words with whitespace between them; `splitWhitespace_of_words` finds them,
  and every text has some (`words_splitWhitespace`).
* `parseUnsigned`: `str::parse` for an unsigned integer, `parseUnsigned_toString`.
-/

import Mathlib.Data.List.Basic
import Omdesky.Core

namespace Omdesky

/-! ### The last separator -/

/-- `str::rsplit_once` for one character: what is before the last one, and what is after it. -/
def rsplitOnce (separator : Char) : List Char → Option (List Char × List Char)
  | [] => none
  | c :: rest =>
      match rsplitOnce separator rest with
      | some (front, back) => some (c :: front, back)
      | none => if c = separator then some ([], rest) else none

theorem rsplitOnce_eq_none {separator : Char} {text : List Char} (absent : separator ∉ text) :
    rsplitOnce separator text = none := by
  induction text with
  | nil => rfl
  | cons c rest ih =>
      obtain ⟨other, absent⟩ := List.ne_and_not_mem_of_not_mem_cons absent
      rw [rsplitOnce, ih absent]
      exact if_neg other.symm

/-- Nothing before the last separator matters. -/
theorem rsplitOnce_append {separator : Char} {back : List Char} (absent : separator ∉ back)
    (front : List Char) :
    rsplitOnce separator (front ++ separator :: back) = some (front, back) := by
  induction front with
  | nil =>
      rw [List.nil_append, rsplitOnce, rsplitOnce_eq_none absent]
      exact if_pos rfl
  | cons c front ih => rw [List.cons_append, rsplitOnce, ih]

theorem absent_of_rsplitOnce {separator : Char} {text : List Char}
    (missing : rsplitOnce separator text = none) : separator ∉ text := by
  induction text with
  | nil => exact List.not_mem_nil
  | cons c rest ih =>
      rw [rsplitOnce] at missing
      split at missing
      · cases missing
      · next absent =>
          split at missing
          · cases missing
          · next other => exact List.not_mem_cons_of_ne_of_not_mem (Ne.symm other) (ih absent)

theorem rsplitOnce_eq_some {separator : Char} {text front back : List Char}
    (found : rsplitOnce separator text = some (front, back)) :
    text = front ++ separator :: back ∧ separator ∉ back := by
  induction text generalizing front with
  | nil => cases found
  | cons c rest ih =>
      rw [rsplitOnce] at found
      split at found
      · next later =>
          obtain ⟨rfl, rfl⟩ := Prod.mk.inj (Option.some.inj found)
          obtain ⟨rfl, absent⟩ := ih later
          exact ⟨rfl, absent⟩
      · next missing =>
          split at found
          · next same =>
              obtain ⟨rfl, rfl⟩ := Prod.mk.inj (Option.some.inj found)
              exact ⟨by rw [same, List.nil_append], absent_of_rsplitOnce missing⟩
          · cases found

/-! ### A prefix -/

/-- `str::strip_prefix`. -/
def stripPrefix : List Char → List Char → Option (List Char)
  | [], text => some text
  | c :: front, d :: text => if c = d then stripPrefix front text else none
  | _ :: _, [] => none

theorem stripPrefix_eq_some_iff {front text rest : List Char} :
    stripPrefix front text = some rest ↔ text = front ++ rest := by
  induction front generalizing text with
  | nil => exact Option.some_inj
  | cons c front ih =>
      cases text with
      | nil => exact iff_of_false (fun none => by cases none) (fun none => by cases none)
      | cons d text =>
          rw [stripPrefix, List.cons_append, List.cons.injEq]
          split
          · next same => exact ih.trans ⟨fun rest => ⟨same.symm, rest⟩, fun both => both.2⟩
          · next other => exact iff_of_false (fun none => by cases none) fun both => other both.1.symm

/-- The part of a text up to where it stops. -/
theorem takeWhile_append_of_stop {within : Char → Bool} {front tail : List Char}
    (inside : ∀ c ∈ front, within c = true) (stops : ∀ c ∈ tail.head?, within c = false) :
    (front ++ tail).takeWhile within = front := by
  rw [List.takeWhile_append_of_pos inside]
  cases tail with
  | nil => rw [List.takeWhile_nil, List.append_nil]
  | cons c rest => rw [List.takeWhile_cons_of_neg (by simp [stops c rfl]), List.append_nil]

/-! ### Words -/

/-- `str::split_whitespace`. -/
def splitWhitespace (text : List Char) : List (List Char) :=
  (text.splitOnP isWhitespace).filter fun word => !word.isEmpty

/-- A text is these words, with whitespace around and at least one between two. -/
inductive Words : List (List Char) → List Char → Prop
  | done {gap : List Char} (blank : ∀ c ∈ gap, isWhitespace c = true) : Words [] gap
  | word {gap word : List Char} {words : List (List Char)} {rest : List Char}
      (blank : ∀ c ∈ gap, isWhitespace c = true) (nonempty : word ≠ [])
      (solid : ∀ c ∈ word, isWhitespace c = false)
      (apart : ∀ c ∈ rest.head?, isWhitespace c = true) (more : Words words rest) :
      Words (word :: words) (gap ++ word ++ rest)

/-- A blank separates words. -/
theorem splitWhitespace_append_cons {c : Char} (blank : isWhitespace c = true)
    (front back : List Char) :
    splitWhitespace (front ++ c :: back) = splitWhitespace front ++ splitWhitespace back := by
  rw [splitWhitespace, List.splitOnP_append_cons front back blank, List.filter_append]
  rfl

theorem splitWhitespace_cons {c : Char} (blank : isWhitespace c = true) (rest : List Char) :
    splitWhitespace (c :: rest) = splitWhitespace rest :=
  splitWhitespace_append_cons blank [] rest

/-- The words of a text are those of its paragraphs, one after the other. -/
theorem splitWhitespace_splitOn {c : Char} (blank : isWhitespace c = true) (text : List Char) :
    splitWhitespace text = (text.splitOn c).flatMap splitWhitespace := by
  have join (paragraphs : List (List Char)) :
      splitWhitespace ([c].intercalate paragraphs) = paragraphs.flatMap splitWhitespace := by
    induction paragraphs with
    | nil => rfl
    | cons paragraph paragraphs ih =>
        cases paragraphs with
        | nil => rw [List.intercalate_singleton, List.flatMap_singleton]
        | cons second paragraphs =>
            rw [List.intercalate_cons_cons, List.append_assoc, List.singleton_append,
              splitWhitespace_append_cons blank, ih]
            rfl
  rw [← join, List.intercalate_splitOn]

theorem splitWhitespace_gap {gap : List Char} (blank : ∀ c ∈ gap, isWhitespace c = true)
    (rest : List Char) : splitWhitespace (gap ++ rest) = splitWhitespace rest := by
  induction gap with
  | nil => rfl
  | cons c gap ih =>
      obtain ⟨first, others⟩ := List.forall_mem_cons.mp blank
      rw [List.cons_append, splitWhitespace_cons first, ih others]

theorem splitWhitespace_word {word : List Char} (nonempty : word ≠ [])
    (solid : ∀ c ∈ word, isWhitespace c = false) {rest : List Char}
    (apart : ∀ c ∈ rest.head?, isWhitespace c = true) :
    splitWhitespace (word ++ rest) = word :: splitWhitespace rest := by
  have kept (words : List (List Char)) :
      (word :: words).filter (fun word => !word.isEmpty) =
        word :: words.filter fun word => !word.isEmpty :=
    List.filter_cons_of_pos (by simpa using nonempty)
  cases rest with
  | nil =>
      rw [List.append_nil, splitWhitespace, List.splitOnP_eq_singleton solid, kept]
      rfl
  | cons c rest =>
      have blank : isWhitespace c = true := apart c rfl
      rw [splitWhitespace_cons blank, splitWhitespace,
        List.splitOnP_append_cons_of_forall_mem solid c blank rest, kept]
      rfl

theorem splitWhitespace_eq_singleton {word : List Char} (nonempty : word ≠ [])
    (solid : ∀ c ∈ word, isWhitespace c = false) : splitWhitespace word = [word] := by
  have alone := @splitWhitespace_word word nonempty solid [] fun _ none => by cases none
  rwa [List.append_nil] at alone

/-- **The words of a text are found.** -/
theorem splitWhitespace_of_words {words : List (List Char)} {text : List Char}
    (spelled : Words words text) : splitWhitespace text = words := by
  induction spelled with
  | @done gap blank =>
      have split := splitWhitespace_gap blank []
      rwa [List.append_nil] at split
  | word blank nonempty solid apart _ ih =>
      rw [List.append_assoc, splitWhitespace_gap blank, splitWhitespace_word nonempty solid apart, ih]

theorem Words.indent {words : List (List Char)} {text : List Char} (spelled : Words words text)
    {c : Char} (blank : isWhitespace c = true) : Words words (c :: text) := by
  cases spelled with
  | done others => exact .done (List.forall_mem_cons.mpr ⟨blank, others⟩)
  | @word gap _ _ _ others nonempty solid apart more =>
      exact @Words.word (c :: gap) _ _ _ (List.forall_mem_cons.mpr ⟨blank, others⟩) nonempty solid apart
        more

/-- Every text is some words. -/
theorem exists_words (text : List Char) : ∃ words, Words words text := by
  induction text with
  | nil => exact ⟨[], .done (List.forall_mem_nil _)⟩
  | cons c rest ih =>
      obtain ⟨words, spelled⟩ := ih
      cases blank : isWhitespace c with
      | true => exact ⟨words, spelled.indent blank⟩
      | false =>
          -- A character of a word joins the word that it touches, or is one.
          have alone : ∀ d ∈ [c], isWhitespace d = false := List.forall_mem_singleton.mpr blank
          cases spelled with
          | @done gap others =>
              exact ⟨[[c]], @Words.word [] [c] [] rest (List.forall_mem_nil _) (List.cons_ne_nil _ _)
                alone (fun d first => others d (List.mem_of_mem_head? first)) (.done others)⟩
          | @word gap word words rest others nonempty solid apart more =>
              cases gap with
              | nil =>
                  exact ⟨(c :: word) :: words, @Words.word [] (c :: word) words rest
                    (List.forall_mem_nil _) (List.cons_ne_nil _ _)
                    (List.forall_mem_cons.mpr ⟨blank, solid⟩) apart more⟩
              | cons d gap =>
                  refine ⟨[c] :: word :: words, @Words.word [] [c] _ _ (List.forall_mem_nil _)
                    (List.cons_ne_nil _ _) alone (fun e first => ?_)
                    (.word others nonempty solid apart more)⟩
                  obtain rfl := Option.some.inj first
                  exact others _ List.mem_cons_self

theorem words_splitWhitespace (text : List Char) : Words (splitWhitespace text) text := by
  obtain ⟨words, spelled⟩ := exists_words text
  rwa [splitWhitespace_of_words spelled]

theorem Words.solid {words : List (List Char)} {text : List Char} (spelled : Words words text) :
    ∀ word ∈ words, word ≠ [] ∧ ∀ c ∈ word, isWhitespace c = false := by
  induction spelled with
  | done blank => exact List.forall_mem_nil _
  | word _ nonempty solid _ _ ih => exact List.forall_mem_cons.mpr ⟨⟨nonempty, solid⟩, ih⟩

/-- The words of a text are all of it but the whitespace. -/
theorem Words.flatten_eq {words : List (List Char)} {text : List Char} (spelled : Words words text) :
    words.flatten = text.filter fun c => !isWhitespace c := by
  have gone {gap : List Char} (blank : ∀ c ∈ gap, isWhitespace c = true) :
      gap.filter (fun c => !isWhitespace c) = [] :=
    List.filter_eq_nil_iff.mpr fun c member => by simp [blank c member]
  induction spelled with
  | done blank => exact (gone blank).symm
  | @word _ word _ _ blank _ solid _ _ ih =>
      have kept : word.filter (fun c => !isWhitespace c) = word :=
        List.filter_eq_self.mpr fun c member => by simp [solid c member]
      rw [List.flatten_cons, ih, List.filter_append, List.filter_append, gone blank, kept,
        List.nil_append]

/-- Words with one space between two of them. -/
theorem words_spaced {words : List String}
    (plain : ∀ word ∈ words, word ≠ "" ∧ ∀ c ∈ word.toList, isWhitespace c = false) :
    Words (words.map String.toList) (" ".intercalate words).toList := by
  induction words with
  | nil => exact .done (List.forall_mem_nil _)
  | cons word words ih =>
      obtain ⟨⟨nonempty, solid⟩, others⟩ := List.forall_mem_cons.mp plain
      have filled : word.toList ≠ [] := fun empty => nonempty (String.toList_eq_nil_iff.mp empty)
      cases words with
      | nil =>
          have last : Words [word.toList] ([] ++ word.toList ++ []) :=
            .word (List.forall_mem_nil _) filled solid (fun _ none => by cases none)
              (.done (List.forall_mem_nil _))
          simpa using last
      | cons second words =>
          have next := @Words.indent _ _ (ih others) ' ' rfl
          have whole : Words (word.toList :: (second :: words).map String.toList)
              ([] ++ word.toList ++ ' ' :: (" ".intercalate (second :: words)).toList) :=
            .word (List.forall_mem_nil _) filled solid
              (fun c first => by obtain rfl := Option.some.inj first; rfl) next
          rw [String.intercalate_cons_cons, String.toList_append, String.toList_append]
          simpa using whole

/-! ### Numbers -/

/-- `str::parse` for an unsigned integer below a limit: digits after an optional plus sign. -/
def parseUnsigned (limit : Nat) (text : List Char) : Option Nat :=
  let digits := if text.head? = some '+' then text.tail else text
  if digits.isEmpty || !digits.all Char.isDigit then none
  else
    let value := Nat.ofDigitChars 10 digits 0
    if value < limit then some value else none

/-- The digits of a number are read back. -/
theorem parseUnsigned_toDigits {limit value : Nat} (small : value < limit) :
    parseUnsigned limit (Nat.toDigits 10 value) = some value := by
  have every : ∀ c ∈ Nat.toDigits 10 value, c.isDigit = true :=
    fun c member => Nat.isDigit_of_mem_toDigits (by decide) (by decide) member
  have unsigned : (Nat.toDigits 10 value).head? ≠ some '+' := by
    intro signed
    exact absurd (every _ (List.mem_of_mem_head? signed)) (by decide)
  unfold parseUnsigned
  dsimp only
  rw [if_neg unsigned, Nat.ofDigitChars_ten_toDigits]
  have digital : (Nat.toDigits 10 value).all Char.isDigit = true := List.all_eq_true.mpr every
  have nonempty : (Nat.toDigits 10 value).isEmpty = false :=
    List.isEmpty_eq_false_iff.mpr Nat.toDigits_ne_nil
  simp [digital, nonempty, small]

end Omdesky
