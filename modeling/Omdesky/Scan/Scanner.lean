/-
**Scanners, and what they see of a text with holes.**

A scanner reads a text one character at a time. What it does depends on its mode alone, not on the text
of the token it is in, so what a word does to the tokens can be told without knowing the word.

* `Scanner`, `Scanner.scan`: the tokens of a text, each with its kind.
* `Whole`: a text of whole tokens, between two tokens; `Whole.append` puts such texts together.
* `Slot`, `fill`: a text with holes, and the text with words in them.
* `Scanner.outline`: the tokens of a text with holes; `scan_fill` says that they are the tokens of every
  text that fills it with safe words.
* `Similar`, `Alike`, `SameTokens`: two texts with the same tokens but for safe characters inside tokens
  of certain kinds. `sameTokens_of_outline` shows it for two ways of filling one text.
-/

import Mathlib.Data.List.Forall2

namespace Scan

/-! ### Scanners -/

/-- A token: its kind, and its text in some alphabet. -/
abbrev Token (Kind α : Type) := Kind × List α

/-- What reading a character does to the token under way. -/
inductive Mark (Kind : Type)
  | keep (c : Char)
  | finish (kind : Kind)
  deriving DecidableEq, Repr

/-- A scanner: its modes, what a character does in each, and what the end of the text does. -/
structure Scanner (Mode Kind : Type) where
  start : Mode
  step : Mode → Char → Mode × List (Mark Kind)
  close : Mode → Option (List (Mark Kind))

/-- A scanner under way, with the text of the current token and the tokens before it. -/
@[ext] structure Reader (Mode Kind α : Type) where
  mode : Mode
  text : List α
  tokens : List (Token Kind α)
  deriving DecidableEq, Repr

variable {Mode Kind α β : Type}

/-- One mark, in an alphabet with all characters. -/
def Reader.mark (embed : Char → α) (reader : Reader Mode Kind α) : Mark Kind → Reader Mode Kind α
  | .keep c => { reader with text := reader.text ++ [embed c] }
  | .finish kind => { reader with text := [], tokens := reader.tokens ++ [(kind, reader.text)] }

/-- Several marks. -/
def Reader.marks (embed : Char → α) (reader : Reader Mode Kind α) (marks : List (Mark Kind)) :
    Reader Mode Kind α := marks.foldl (Reader.mark embed) reader

namespace Scanner

variable (scanner : Scanner Mode Kind)

/-- One character. -/
def advance (embed : Char → α) (reader : Reader Mode Kind α) (c : Char) : Reader Mode Kind α :=
  let (mode, marks) := scanner.step reader.mode c
  { reader.marks embed marks with mode }

/-- A text. -/
def read (reader : Reader Mode Kind Char) (text : List Char) : Reader Mode Kind Char :=
  text.foldl (scanner.advance id) reader

/-- The end of the text. -/
def finish (embed : Char → α) (reader : Reader Mode Kind α) : Option (List (Token Kind α)) :=
  (scanner.close reader.mode).map fun marks => (reader.marks embed marks).tokens

/-- The tokens of a text, if it ends where it may. -/
def scan (text : List Char) : Option (List (Token Kind Char)) :=
  scanner.finish id (scanner.read ⟨scanner.start, [], []⟩ text)

end Scanner

section Reading

variable {scanner : Scanner Mode Kind}

@[simp] theorem read_nil (reader : Reader Mode Kind Char) : scanner.read reader [] = reader := rfl

@[simp] theorem read_cons (reader : Reader Mode Kind Char) (c : Char) (text : List Char) :
    scanner.read reader (c :: text) = scanner.read (scanner.advance id reader c) text := rfl

@[simp] theorem read_append (reader : Reader Mode Kind Char) (first second : List Char) :
    scanner.read reader (first ++ second) = scanner.read (scanner.read reader first) second :=
  List.foldl_append

end Reading

/-! ### Earlier tokens -/

/-- The same reader with more tokens before it. -/
def Reader.after (earlier : List (Token Kind α)) (reader : Reader Mode Kind α) :
    Reader Mode Kind α := { reader with tokens := earlier ++ reader.tokens }

section Earlier

variable {embed : Char → α} {reader : Reader Mode Kind α} {earlier : List (Token Kind α)}

theorem marks_after (marks : List (Mark Kind)) :
    (reader.after earlier).marks embed marks = (reader.marks embed marks).after earlier := by
  induction marks generalizing reader with
  | nil => rfl
  | cons mark marks ih =>
      have first : (reader.after earlier).mark embed mark = (reader.mark embed mark).after earlier := by
        cases mark with
        | keep c => rfl
        | finish kind => simp [Reader.mark, Reader.after]
      rw [Reader.marks, List.foldl_cons, first]
      exact ih

theorem advance_after {scanner : Scanner Mode Kind} (c : Char) :
    scanner.advance embed (reader.after earlier) c = (scanner.advance embed reader c).after earlier := by
  simp only [Scanner.advance, marks_after]
  rfl

/-- What a text is read as does not depend on the tokens before it. -/
theorem read_after {scanner : Scanner Mode Kind} {reader : Reader Mode Kind Char}
    {earlier : List (Token Kind Char)} (text : List Char) :
    scanner.read (reader.after earlier) text = (scanner.read reader text).after earlier := by
  induction text generalizing reader with
  | nil => rfl
  | cons c text ih => rw [read_cons, read_cons, advance_after, ih]

end Earlier

/-! ### Texts of whole tokens -/

section Whole

variable {scanner : Scanner Mode Kind} {text first second : List Char}
  {tokens others : List (Token Kind Char)}

/-- Read from the start, the text is these tokens, and leads back to the start. -/
def Whole (scanner : Scanner Mode Kind) (text : List Char) (tokens : List (Token Kind Char)) : Prop :=
  scanner.read ⟨scanner.start, [], []⟩ text = ⟨scanner.start, [], tokens⟩

instance [DecidableEq Mode] [DecidableEq Kind] : Decidable (Whole scanner text tokens) :=
  inferInstanceAs (Decidable (_ = _))

theorem Whole.append (early : Whole scanner first tokens) (late : Whole scanner second others) :
    Whole scanner (first ++ second) (tokens ++ others) := by
  have there : (⟨scanner.start, [], tokens⟩ : Reader Mode Kind Char) =
      Reader.after tokens ⟨scanner.start, [], []⟩ := by simp [Reader.after]
  unfold Whole at early late ⊢
  rw [read_append, early, there, read_after, late]
  rfl

/-- A text that ends inside a token which the end of the text finishes. -/
theorem Whole.scan (early : Whole scanner first tokens) (late : scanner.scan second = some others) :
    scanner.scan (first ++ second) = some (tokens ++ others) := by
  have there : (⟨scanner.start, [], tokens⟩ : Reader Mode Kind Char) =
      Reader.after tokens ⟨scanner.start, [], []⟩ := by simp [Reader.after]
  unfold Scanner.scan Scanner.finish at late ⊢
  obtain ⟨marks, closed, rfl⟩ := Option.map_eq_some_iff.mp late
  rw [read_append, early, there, read_after]
  refine Option.map_eq_some_iff.mpr ⟨marks, closed, ?_⟩
  rw [marks_after]
  rfl

end Whole

/-! ### Texts with holes -/

/-- A character of a text with holes, or a hole. -/
inductive Slot
  | char (c : Char)
  | hole (index : Nat)
  deriving DecidableEq, Repr

/-- What a slot holds when the holes are filled. -/
def Slot.fill (words : Nat → List Char) : Slot → List Char
  | .char c => [c]
  | .hole index => words index

/-- The text with words in its holes. -/
def fill (words : Nat → List Char) (text : List Slot) : List Char := text.flatMap (Slot.fill words)

/-- A text without holes. -/
def slots (text : List Char) : List Slot := text.map .char

/-- The word in a hole is there, and all its characters are safe. -/
def Fits (safe : Char → Bool) (words : Nat → List Char) : Prop :=
  ∀ index, words index ≠ [] ∧ ∀ c ∈ words index, safe c = true

section Fill

variable {words : Nat → List Char}

@[simp] theorem fill_nil : fill words [] = [] := rfl

@[simp] theorem fill_append (first second : List Slot) :
    fill words (first ++ second) = fill words first ++ fill words second := List.flatMap_append

@[simp] theorem fill_hole (index : Nat) : fill words [.hole index] = words index := List.append_nil _

@[simp] theorem fill_slots (text : List Char) : fill words (slots text) = text := by
  simp [fill, slots, List.flatMap_map, Slot.fill]

end Fill

/-- The modes in which a safe word is absorbed: each of its characters is kept, and afterwards the mode
is the one that is given. -/
structure Absorbs (scanner : Scanner Mode Kind) (safe : Char → Bool) (absorb : Mode → Option Mode) :
    Prop where
  first : ∀ {mode later : Mode}, absorb mode = some later → ∀ c, safe c = true →
    scanner.step mode c = (later, [.keep c])
  again : ∀ {mode later : Mode}, absorb mode = some later → ∀ c, safe c = true →
    scanner.step later c = (later, [.keep c])

namespace Scanner

variable (scanner : Scanner Mode Kind) (absorb : Mode → Option Mode)

/-- One slot. A hole is kept where a safe word is absorbed. -/
def advanceSlot (reader : Reader Mode Kind Slot) : Slot → Option (Reader Mode Kind Slot)
  | .char c => some (scanner.advance .char reader c)
  | .hole index => (absorb reader.mode).map fun later =>
      { reader with mode := later, text := reader.text ++ [.hole index] }

/-- A text with holes. -/
def readSlots (reader : Reader Mode Kind Slot) (text : List Slot) :
    Option (Reader Mode Kind Slot) := text.foldlM (scanner.advanceSlot absorb) reader

/-- The tokens of a text with holes, if a safe word is absorbed by each of them. -/
def outline (text : List Slot) : Option (List (Token Kind Slot)) :=
  (scanner.readSlots absorb ⟨scanner.start, [], []⟩ text).bind (scanner.finish .char)

end Scanner

/-- The token with words in its holes. -/
def fillToken (words : Nat → List Char) (token : Token Kind Slot) : Token Kind Char :=
  (token.1, fill words token.2)

/-- The reader with words in all holes it has met. -/
def Reader.fill (words : Nat → List Char) (reader : Reader Mode Kind Slot) :
    Reader Mode Kind Char where
  mode := reader.mode
  text := Scan.fill words reader.text
  tokens := reader.tokens.map (fillToken words)

section Outline

variable {scanner : Scanner Mode Kind} {safe : Char → Bool} {absorb : Mode → Option Mode}
  {words : Nat → List Char} {reader : Reader Mode Kind Slot}

theorem marks_fill (marks : List (Mark Kind)) :
    (reader.fill words).marks id marks = (reader.marks .char marks).fill words := by
  induction marks generalizing reader with
  | nil => rfl
  | cons mark marks ih =>
      have first : (reader.fill words).mark id mark = (reader.mark .char mark).fill words := by
        cases mark with
        | keep c => simp [Reader.mark, Reader.fill, Scan.fill, Slot.fill]
        | finish kind => simp [Reader.mark, Reader.fill, fillToken]
      rw [Reader.marks, List.foldl_cons, first]
      exact ih

theorem advance_fill (c : Char) :
    scanner.advance id (reader.fill words) c = (scanner.advance .char reader c).fill words := by
  have modes : (reader.fill words).mode = reader.mode := rfl
  simp only [Scanner.advance, modes, marks_fill]
  rfl

/-- Further characters of a safe word. -/
theorem read_word {later : Mode} {word : List Char} {reader : Reader Mode Kind Char}
    (keeps : ∀ c ∈ word, scanner.step later c = (later, [.keep c])) (there : reader.mode = later) :
    scanner.read reader word = { reader with text := reader.text ++ word } := by
  induction word generalizing reader with
  | nil => simp
  | cons c word ih =>
      obtain ⟨first, others⟩ := List.forall_mem_cons.mp keeps
      have one : scanner.advance id reader c = { reader with text := reader.text ++ [c] } := by
        simp only [Scanner.advance, there, first]
        simp [Reader.marks, Reader.mark, there]
      have rest := @ih { reader with text := reader.text ++ [c] } others there
      rw [read_cons, one, rest, List.append_assoc]
      rfl

/-- A safe word is kept where it is absorbed. -/
theorem read_absorbed (absorbs : Absorbs scanner safe absorb) {later : Mode} {word : List Char}
    {reader : Reader Mode Kind Char} (absorbed : absorb reader.mode = some later) (some : word ≠ [])
    (safely : ∀ c ∈ word, safe c = true) :
    scanner.read reader word = { reader with mode := later, text := reader.text ++ word } := by
  cases word with
  | nil => exact absurd rfl some
  | cons c word =>
      obtain ⟨first, others⟩ := List.forall_mem_cons.mp safely
      have one : scanner.advance id reader c =
          { reader with mode := later, text := reader.text ++ [c] } := by
        simp only [Scanner.advance, absorbs.first absorbed c first]
        rfl
      rw [read_cons, one, read_word (fun c member => absorbs.again absorbed c (others c member)) rfl]
      simp

theorem read_fill (absorbs : Absorbs scanner safe absorb) (fits : Fits safe words)
    {text : List Slot} {after : Reader Mode Kind Slot}
    (outlined : scanner.readSlots absorb reader text = some after) :
    scanner.read (reader.fill words) (fill words text) = after.fill words := by
  induction text generalizing reader with
  | nil =>
      obtain rfl := Option.some.inj outlined
      rfl
  | cons slot text ih =>
      obtain ⟨middle, one, outlined⟩ := Option.bind_eq_some_iff.mp outlined
      have first : scanner.read (reader.fill words) (slot.fill words) = middle.fill words := by
        cases slot with
        | char c =>
            obtain rfl := Option.some.inj one
            exact advance_fill c
        | hole index =>
            obtain ⟨later, absorbed, rfl⟩ := Option.map_eq_some_iff.mp one
            obtain ⟨some, safely⟩ := fits index
            rw [Slot.fill, read_absorbed absorbs absorbed some safely]
            simp [Reader.fill]
      have cut : fill words (slot :: text) = slot.fill words ++ fill words text := rfl
      rw [cut, read_append, first, ih outlined]

/-- **The outline of a text with holes gives the tokens of every text that fills it.** -/
theorem scan_fill (absorbs : Absorbs scanner safe absorb) (fits : Fits safe words) {text : List Slot}
    {tokens : List (Token Kind Slot)} (outlined : scanner.outline absorb text = some tokens) :
    scanner.scan (fill words text) = some (tokens.map (fillToken words)) := by
  obtain ⟨after, reached, finished⟩ := Option.bind_eq_some_iff.mp outlined
  obtain ⟨marks, closed, rfl⟩ := Option.map_eq_some_iff.mp finished
  have start : (⟨scanner.start, [], []⟩ : Reader Mode Kind Char) =
      Reader.fill words ⟨scanner.start, [], []⟩ := rfl
  unfold Scanner.scan Scanner.finish
  rw [start, read_fill absorbs fits reached]
  refine Option.map_eq_some_iff.mpr ⟨marks, closed, ?_⟩
  rw [marks_fill]
  rfl

end Outline

/-! ### Two texts with the same tokens -/

/-- Two texts that differ in runs of safe characters only. -/
inductive Similar (safe : Char → Bool) : List Char → List Char → Prop
  | nil : Similar safe [] []
  | char {first second} (c : Char) (rest : Similar safe first second) :
      Similar safe (c :: first) (c :: second)
  | word {first second word other} (safely : ∀ c ∈ word, safe c = true)
      (otherSafely : ∀ c ∈ other, safe c = true) (rest : Similar safe first second) :
      Similar safe (word ++ first) (other ++ second)

/-- Two tokens of one kind with similar texts, which are equal unless the kind is an `opened` one. -/
structure Alike (safe : Char → Bool) (opened : Kind → Bool) (first second : Token Kind Char) :
    Prop where
  kind : first.1 = second.1
  text : Similar safe first.2 second.2
  closed : opened first.1 = false → first.2 = second.2

/-- **The same tokens**, but for safe characters inside tokens of the `opened` kinds. -/
def SameTokens (scanner : Scanner Mode Kind) (safe : Char → Bool) (opened : Kind → Bool)
    (first second : List Char) : Prop :=
  ∃ tokens others, scanner.scan first = some tokens ∧ scanner.scan second = some others ∧
    List.Forall₂ (Alike safe opened) tokens others

/-- The token has no hole. -/
def isClosed (token : Token Kind Slot) : Bool :=
  token.2.all fun
    | .char _ => true
    | .hole _ => false

/-- Only tokens of the `opened` kinds have holes. -/
def confined (opened : Kind → Bool) (tokens : List (Token Kind Slot)) : Bool :=
  tokens.all fun token => opened token.1 || isClosed token

section Same

variable {safe : Char → Bool} {opened : Kind → Bool} {words others : Nat → List Char}

theorem Similar.refl (text : List Char) : Similar safe text text := by
  induction text with
  | nil => exact .nil
  | cons c text ih => exact .char c ih

theorem similar_fill (fits : Fits safe words) (othersFit : Fits safe others) (text : List Slot) :
    Similar safe (fill words text) (fill others text) := by
  induction text with
  | nil => exact .nil
  | cons slot text ih =>
      cases slot with
      | char c => exact .char c ih
      | hole index => exact .word (fits index).2 (othersFit index).2 ih

theorem fill_of_isClosed {token : Token Kind Slot} (closed : isClosed token = true) :
    fill words token.2 = fill others token.2 := by
  refine List.flatMap_congr fun slot member => ?_
  have known := List.all_eq_true.mp closed slot member
  cases slot with
  | char c => rfl
  | hole index => cases known

theorem alike_fill (fits : Fits safe words) (othersFit : Fits safe others)
    {tokens : List (Token Kind Slot)} (confines : confined opened tokens = true) :
    List.Forall₂ (Alike safe opened) (tokens.map (fillToken words)) (tokens.map (fillToken others)) := by
  rw [List.forall₂_map_left_iff, List.forall₂_map_right_iff, List.forall₂_same]
  intro token member
  refine ⟨rfl, similar_fill fits othersFit token.2, fun unopened => ?_⟩
  have known := List.all_eq_true.mp confines token member
  have kind : opened token.1 = false := unopened
  rw [kind, Bool.false_or] at known
  exact fill_of_isClosed known

/-- **Two ways of filling one text** lead to the same tokens. -/
theorem sameTokens_of_outline {scanner : Scanner Mode Kind} {absorb : Mode → Option Mode}
    (absorbs : Absorbs scanner safe absorb) (fits : Fits safe words) (othersFit : Fits safe others)
    {text : List Slot} {tokens : List (Token Kind Slot)}
    (outlined : scanner.outline absorb text = some tokens)
    (confines : confined opened tokens = true) :
    SameTokens scanner safe opened (fill words text) (fill others text) :=
  ⟨_, _, scan_fill absorbs fits outlined, scan_fill absorbs othersFit outlined,
    alike_fill fits othersFit confines⟩

end Same

end Scan
