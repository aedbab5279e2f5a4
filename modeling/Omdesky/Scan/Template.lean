/-
**Texts that are written from the same template.**

* `Template`: one text with holes for all the texts that a function writes, and what is in the holes.
* `Template.text`, `Template.hole`, `Template.append`: the template of a function is put together the way
  its texts are.
* `Scanner.sketch`: the outline of a text, token by token from the front; `outline_eq_sketch`.
-/

import Omdesky.Scan.Scanner

namespace Scan

/-- The texts of a function are one text with holes, with these words in them. -/
structure Template {α : Type} (words : α → Nat → List Char) (text : α → String) where
  slots : List Slot
  spells : ∀ a, (text a).toList = fill (words a) slots

namespace Template

variable {α : Type} {words : α → Nat → List Char}

/-- The same text for all, by its characters. -/
def text (characters : List Char) : Template words fun _ => String.ofList characters where
  slots := Scan.slots characters
  spells := fun _ => by rw [String.toList_ofList, fill_slots]

/-- The word of a hole. -/
def hole (index : Nat) (word : α → String) (same : ∀ a, words a index = (word a).toList) :
    Template words word where
  slots := [.hole index]
  spells := fun a => by rw [fill_hole, same]

/-- One text after the other. -/
def append {early late : α → String} (first : Template words early) (second : Template words late) :
    Template words fun a => early a ++ late a where
  slots := first.slots ++ second.slots
  spells := fun a => by rw [String.toList_append, first.spells, second.spells, fill_append]

/-- Another way to write the same texts. -/
def congr {text other : α → String} (template : Template words text) (same : ∀ a, other a = text a) :
    Template words other where
  slots := template.slots
  spells := fun a => by rw [same, template.spells]

/-- A character that is not safe is in a text if it is in its template. -/
theorem mem_slots {texts : α → String} (template : Template words texts) {a : α} {safe : Char → Bool}
    (fits : Fits safe (words a)) {c : Char} (refused : safe c = false) (member : c ∈ (texts a).toList) :
    Slot.char c ∈ template.slots := by
  rw [template.spells, fill, List.mem_flatMap] at member
  obtain ⟨slot, there, inside⟩ := member
  cases slot with
  | char other =>
      obtain rfl := List.mem_singleton.mp inside
      exact there
  | hole index => exact absurd ((fits index).2 c inside) (by simp [refused])

end Template

/-! ### Outlines from the front -/

section Sketch

variable {Mode Kind α : Type}

/-- What is left of the current token after some marks, and the tokens they finish. -/
def emit (embed : Char → α) : List α → List (Mark Kind) → List α × List (Token Kind α)
  | text, [] => (text, [])
  | text, .keep c :: marks => emit embed (text ++ [embed c]) marks
  | text, .finish kind :: marks => ((emit embed [] marks).1, (kind, text) :: (emit embed [] marks).2)

theorem marks_eq_emit {embed : Char → α} {reader : Reader Mode Kind α} (marks : List (Mark Kind)) :
    reader.marks embed marks = ⟨reader.mode, (emit embed reader.text marks).1,
      reader.tokens ++ (emit embed reader.text marks).2⟩ := by
  induction marks generalizing reader with
  | nil => simp [Reader.marks, emit]
  | cons mark marks ih =>
      rw [Reader.marks, List.foldl_cons]
      change (reader.mark embed mark).marks embed marks = _
      rw [ih]
      cases mark with
      | keep c => rfl
      | finish kind => simp [Reader.mark, emit]

/-- The tokens of a text with holes, from a mode and the text of the current token on. -/
def Scanner.sketch (scanner : Scanner Mode Kind) (absorb : Mode → Option Mode) :
    Mode → List Slot → List Slot → Option (List (Token Kind Slot))
  | mode, text, [] => (scanner.close mode).map fun marks => (emit .char text marks).2
  | mode, text, .char c :: rest =>
      (scanner.sketch absorb (scanner.step mode c).1 (emit .char text (scanner.step mode c).2).1 rest).map
        ((emit .char text (scanner.step mode c).2).2 ++ ·)
  | mode, text, .hole index :: rest =>
      (absorb mode).bind fun later => scanner.sketch absorb later (text ++ [.hole index]) rest

variable {scanner : Scanner Mode Kind} {absorb : Mode → Option Mode}

theorem readSlots_bind_finish {reader : Reader Mode Kind Slot} (text : List Slot) :
    (scanner.readSlots absorb reader text).bind (scanner.finish .char) =
      (scanner.sketch absorb reader.mode reader.text text).map (reader.tokens ++ ·) := by
  induction text generalizing reader with
  | nil =>
      simp only [Scanner.readSlots, List.foldlM_nil, Option.pure_def, Option.bind_some, Scanner.finish,
        Scanner.sketch, marks_eq_emit, Option.map_map, Function.comp_def]
  | cons slot text ih =>
      have first : scanner.readSlots absorb reader (slot :: text) =
          (scanner.advanceSlot absorb reader slot).bind (scanner.readSlots absorb · text) := rfl
      rw [first, Option.bind_assoc]
      cases slot with
      | char c =>
          rw [Scanner.advanceSlot, Option.bind_some, ih]
          simp [Scanner.sketch, Scanner.advance, marks_eq_emit, Function.comp_def]
      | hole index =>
          rw [Scanner.advanceSlot, Scanner.sketch]
          cases absorb reader.mode with
          | none => rfl
          | some later => exact ih

/-- **The outline, token by token from the front.** -/
theorem outline_eq_sketch (text : List Slot) :
    scanner.outline absorb text = scanner.sketch absorb scanner.start [] text := by
  rw [Scanner.outline, readSlots_bind_finish]
  simp

end Sketch

end Scan
