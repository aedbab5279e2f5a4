/-
**Documents of names and values, and their text.**

A document is built of texts, numbers, lists and objects. Its numbers are integers, or values of a
type of the reader's choice.

* `Value`, `insertField`, `ofFields`: documents whose objects keep their fields in the order of the
  keys; `ofFields_perm` says that sorting loses no field.
* `Piece`: a piece of an output is the program's own text or text it was given.
* `escape`: the quote, the backslash and the characters below the blank are written with a backslash.
* `pretty`: a document over several lines, two blanks for each level.
* `clean_pretty_iff`: what is printed is clean exactly when every text of the document is clean once
  it is escaped.
-/

import Mathlib.Data.List.Perm.Basic

set_option linter.unusedSectionVars false

namespace Json

/-- A document. -/
inductive Value (Number : Type) : Type
  | null
  | bool (value : Bool)
  | integer (value : Int)
  | number (value : Number)
  | string (text : String)
  | array (items : List (Value Number))
  | object (fields : List (String × Value Number))

variable {Number : Type}

/-! ### Objects -/

section Fields

variable {α : Type}

/-- A field in its place by the order of the keys; it replaces a field of the same key. -/
def insertField (key : String) (value : α) (fields : List (String × α)) : List (String × α) :=
  let others := fields.filter fun field => field.1 ≠ key
  (others.takeWhile fun field => field.1 < key) ++ (key, value) ::
    (others.dropWhile fun field => field.1 < key)

/-- The fields, inserted one after the other. -/
def ofFields (fields : List (String × α)) : List (String × α) :=
  fields.foldl (fun sorted field => insertField field.1 field.2 sorted) []

/-- A field of a new key is one more field. -/
theorem insertField_perm {key : String} {value : α} {fields : List (String × α)}
    (fresh : key ∉ fields.map Prod.fst) :
    (insertField key value fields).Perm ((key, value) :: fields) := by
  have others : fields.filter (fun field => field.1 ≠ key) = fields := by
    refine List.filter_eq_self.mpr fun field member => ?_
    have other : field.1 ≠ key := fun same => fresh (same ▸ List.mem_map_of_mem member)
    exact decide_eq_true other
  unfold insertField
  rw [others]
  refine List.perm_middle.trans (List.Perm.cons _ ?_)
  rw [List.takeWhile_append_dropWhile]

/-- Sorting loses no field. -/
theorem ofFields_perm {fields : List (String × α)} (distinct : (fields.map Prod.fst).Nodup) :
    (ofFields fields).Perm fields := by
  have grown : ∀ (later sorted : List (String × α)), ((sorted ++ later).map Prod.fst).Nodup →
      (later.foldl (fun sorted field => insertField field.1 field.2 sorted) sorted).Perm
        (sorted ++ later) := by
    intro later
    induction later with
    | nil => exact fun sorted _ => by simp
    | cons field later ih =>
        intro sorted distinct
        have fresh : field.1 ∉ sorted.map Prod.fst := by
          rw [List.map_append, List.map_cons] at distinct
          exact fun member => (List.nodup_append.mp distinct).2.2 _ member _ List.mem_cons_self rfl
        have moved : (insertField field.1 field.2 sorted ++ later).Perm (sorted ++ field :: later) :=
          ((insertField_perm fresh).append_right later).trans List.perm_middle.symm
        exact (ih _ (((moved.map Prod.fst).nodup_iff).mpr distinct)).trans moved
  exact grown fields [] distinct

end Fields

/-! ### Output -/

/-- A piece of an output: the program's own text, or text it was given. -/
inductive Piece
  | own (text : String)
  | given (text : String)
  deriving DecidableEq, Repr

/-- Every character of what was given is safe, and so is every character the program writes itself,
line feeds and tabs apart. -/
def Piece.Clean (safe : Char → Bool) : Piece → Prop
  | .own text => ∀ c ∈ text.toList, safe c = true ∨ c = '\n' ∨ c = '\t'
  | .given text => ∀ c ∈ text.toList, safe c = true

/-- All pieces are clean. -/
def Clean (safe : Char → Bool) (pieces : List Piece) : Prop := ∀ piece ∈ pieces, piece.Clean safe

/-- The characters of an output. -/
def characters (pieces : List Piece) : List Char :=
  pieces.flatMap fun
    | .own text => text.toList
    | .given text => text.toList

section Clean

variable {safe : Char → Bool}

@[simp] theorem clean_nil : Clean safe [] := fun _ member => absurd member List.not_mem_nil

@[simp] theorem clean_cons {piece : Piece} {pieces : List Piece} :
    Clean safe (piece :: pieces) ↔ piece.Clean safe ∧ Clean safe pieces := List.forall_mem_cons

@[simp] theorem clean_append {first second : List Piece} :
    Clean safe (first ++ second) ↔ Clean safe first ∧ Clean safe second := List.forall_mem_append

/-- What is clean has no unsafe character but line feeds and tabs. -/
theorem Clean.safe_of_mem {pieces : List Piece} (clean : Clean safe pieces) {c : Char}
    (member : c ∈ characters pieces) : safe c = true ∨ c = '\n' ∨ c = '\t' := by
  obtain ⟨piece, listed, inside⟩ := List.mem_flatMap.mp member
  cases piece with
  | own text => exact clean _ listed c inside
  | given text => exact .inl (clean _ listed c inside)

end Clean

/-! ### The text of a document -/

/-- One hexadecimal digit. -/
def hexDigit (value : Nat) : Char := Nat.digitChar value

/-- A character of a text: the quote, the backslash and the characters below the blank are escaped. -/
def escapeChar (c : Char) : List Char :=
  if c = '"' then ['\\', '"']
  else if c = '\\' then ['\\', '\\']
  else if c.toNat = 8 then ['\\', 'b']
  else if c.toNat = 9 then ['\\', 't']
  else if c.toNat = 10 then ['\\', 'n']
  else if c.toNat = 12 then ['\\', 'f']
  else if c.toNat = 13 then ['\\', 'r']
  else if c.toNat < 32 then
    ['\\', 'u', '0', '0', hexDigit (c.toNat / 16), hexDigit (c.toNat % 16)]
  else [c]

/-- A text as it stands between quotes. -/
def escape (text : String) : String := String.ofList (text.toList.flatMap escapeChar)

/-- The beginning of a line at a level. -/
def indent (level : Nat) : String := String.ofList ('\n' :: List.replicate (2 * level) ' ')

/-- The numbers that are not integers, as they are written. -/
abbrev Writer (Number : Type) := Number → String

mutual

/-- A document at a level. -/
def pretty (write : Writer Number) (level : Nat) : Value Number → List Piece
  | .null => [.own "null"]
  | .bool value => [.own (if value then "true" else "false")]
  | .integer value => [.given (toString value)]
  | .number value => [.given (write value)]
  | .string text => [.own "\"", .given (escape text), .own "\""]
  | .array [] => [.own "[]"]
  | .array (item :: items) =>
      .own "[" :: .own (indent (level + 1)) :: pretty write (level + 1) item ++
        prettyItems write (level + 1) items ++ [.own (indent level), .own "]"]
  | .object [] => [.own "\x7b\x7d"]
  | .object (field :: fields) =>
      .own "\x7b" :: .own (indent (level + 1)) :: prettyField write (level + 1) field ++
        prettyFields write (level + 1) fields ++ [.own (indent level), .own "\x7d"]

/-- The further elements of a list. -/
def prettyItems (write : Writer Number) (level : Nat) : List (Value Number) → List Piece
  | [] => []
  | item :: items =>
      .own "," :: .own (indent level) :: pretty write level item ++ prettyItems write level items

/-- A field of an object. -/
def prettyField (write : Writer Number) (level : Nat) : String × Value Number → List Piece
  | (key, value) => .own "\"" :: .own (escape key) :: .own "\": " :: pretty write level value

/-- The further fields of an object. -/
def prettyFields (write : Writer Number) (level : Nat) : List (String × Value Number) → List Piece
  | [] => []
  | field :: fields =>
      .own "," :: .own (indent level) :: prettyField write level field ++
        prettyFields write level fields

end

/-! ### The texts and keys of a document -/

mutual

/-- The texts of a document, keys apart. -/
def Value.texts : Value Number → List String
  | .string text => [text]
  | .array items => itemTexts items
  | .object fields => fieldTexts fields
  | _ => []

/-- The texts of the elements of a list. -/
def itemTexts : List (Value Number) → List String
  | [] => []
  | item :: items => item.texts ++ itemTexts items

/-- The texts of the fields of an object. -/
def fieldTexts : List (String × Value Number) → List String
  | [] => []
  | (_, value) :: fields => value.texts ++ fieldTexts fields

end

mutual

/-- The keys of all objects of a document. -/
def Value.keys : Value Number → List String
  | .array items => itemKeys items
  | .object fields => fieldKeys fields
  | _ => []

/-- The keys in the elements of a list. -/
def itemKeys : List (Value Number) → List String
  | [] => []
  | item :: items => item.keys ++ itemKeys items

/-- The keys of fields, and the keys in their values. -/
def fieldKeys : List (String × Value Number) → List String
  | [] => []
  | (key, value) :: fields => key :: value.keys ++ fieldKeys fields

end

theorem itemTexts_eq (items : List (Value Number)) : itemTexts items = items.flatMap Value.texts := by
  induction items with
  | nil => rfl
  | cons item items ih => rw [itemTexts, ih, List.flatMap_cons]

theorem itemKeys_eq (items : List (Value Number)) : itemKeys items = items.flatMap Value.keys := by
  induction items with
  | nil => rfl
  | cons item items ih => rw [itemKeys, ih, List.flatMap_cons]

theorem fieldTexts_eq (fields : List (String × Value Number)) :
    fieldTexts fields = fields.flatMap fun field => field.2.texts := by
  induction fields with
  | nil => rfl
  | cons field fields ih => rw [fieldTexts, ih, List.flatMap_cons]

theorem fieldKeys_eq (fields : List (String × Value Number)) :
    fieldKeys fields = fields.flatMap fun field => field.1 :: field.2.keys := by
  induction fields with
  | nil => rfl
  | cons field fields ih => rw [fieldKeys, ih, List.flatMap_cons]

theorem mem_fieldTexts_ofFields {fields : List (String × Value Number)}
    (distinct : (fields.map Prod.fst).Nodup) {text : String} :
    text ∈ fieldTexts (ofFields fields) ↔ text ∈ fieldTexts fields := by
  rw [fieldTexts_eq, fieldTexts_eq]
  exact ((ofFields_perm distinct).flatMap_right _).mem_iff

theorem mem_fieldKeys_ofFields {fields : List (String × Value Number)}
    (distinct : (fields.map Prod.fst).Nodup) {key : String} :
    key ∈ fieldKeys (ofFields fields) ↔ key ∈ fieldKeys fields := by
  rw [fieldKeys_eq, fieldKeys_eq]
  exact ((ofFields_perm distinct).flatMap_right _).mem_iff

theorem mem_fieldTexts_insertField {key : String} {value : Value Number}
    {fields : List (String × Value Number)} (fresh : key ∉ fields.map Prod.fst) {text : String} :
    text ∈ fieldTexts (insertField key value fields) ↔ text ∈ value.texts ∨ text ∈ fieldTexts fields := by
  rw [fieldTexts_eq, ((insertField_perm fresh).flatMap_right _).mem_iff, ← fieldTexts_eq, fieldTexts,
    List.mem_append]

theorem mem_fieldKeys_insertField {key other : String} {value : Value Number}
    {fields : List (String × Value Number)} (fresh : key ∉ fields.map Prod.fst) :
    other ∈ fieldKeys (insertField key value fields) ↔
      other = key ∨ other ∈ value.keys ∨ other ∈ fieldKeys fields := by
  rw [fieldKeys_eq, ((insertField_perm fresh).flatMap_right _).mem_iff, ← fieldKeys_eq, fieldKeys,
    List.cons_append, List.mem_cons, List.mem_append]

/-! ### What printing lets through -/

section Printing

variable {safe : Char → Bool} (ascii : ∀ c : Char, 32 ≤ c.toNat → c.toNat < 127 → safe c = true)

include ascii

/-- No character of the text does harm once it is escaped. -/
def Harmless (safe : Char → Bool) (text : String) : Prop :=
  ∀ c ∈ text.toList, c.toNat < 32 ∨ safe c = true

/-- Escaping writes printable characters for what it escapes, and leaves the rest as it is. -/
theorem safe_escapeChar_iff (c : Char) :
    (∀ d ∈ escapeChar c, safe d = true) ↔ c.toNat < 32 ∨ safe c = true := by
  have digit : ∀ value < 16, safe (hexDigit value) = true := by
    intro value small
    have range : ∀ value < 16, 32 ≤ (hexDigit value).toNat ∧ (hexDigit value).toNat < 127 := by decide
    exact ascii _ (range value small).1 (range value small).2
  have printed {escaped : List Char} (listed : escaped.all fun d => 32 ≤ d.toNat && d.toNat < 127) :
      ∀ d ∈ escaped, safe d = true := fun d member => by
    have bounds := List.all_eq_true.mp listed d member
    rw [Bool.and_eq_true, decide_eq_true_eq, decide_eq_true_eq] at bounds
    exact ascii d bounds.1 bounds.2
  by_cases quote : c = '"'
  · subst quote
    exact iff_of_true (printed (by decide)) (.inr (ascii _ (by decide) (by decide)))
  by_cases backslash : c = '\\'
  · subst backslash
    exact iff_of_true (printed (by decide)) (.inr (ascii _ (by decide) (by decide)))
  by_cases low : c.toNat < 32
  · refine iff_of_true ?_ (.inl low)
    have high : safe (hexDigit (c.toNat / 16)) = true := digit _ (by omega)
    have rest : safe (hexDigit (c.toNat % 16)) = true := digit _ (by omega)
    have zero : safe '0' = true := ascii _ (by decide) (by decide)
    have letter : safe 'u' = true := ascii _ (by decide) (by decide)
    have slash : safe '\\' = true := ascii _ (by decide) (by decide)
    unfold escapeChar
    rw [if_neg quote, if_neg backslash]
    split_ifs
    iterate 5 exact printed (by decide)
    simp [high, rest, zero, letter, slash]
  · have same : escapeChar c = [c] := by
      unfold escapeChar
      rw [if_neg quote, if_neg backslash]
      split_ifs <;> first | omega | rfl
    rw [same]
    simp [low]

theorem safe_escape_iff (text : String) :
    (∀ d ∈ (escape text).toList, safe d = true) ↔ Harmless safe text := by
  unfold escape Harmless
  rw [String.toList_ofList]
  simp only [List.mem_flatMap, forall_exists_index, and_imp]
  constructor
  · exact fun all c member => (safe_escapeChar_iff ascii c).mp fun d inside => all d c member inside
  · exact fun all d c member => (safe_escapeChar_iff ascii c).mpr (all c member) d

omit ascii in
/-- The program's own printable text. -/
theorem clean_own {text : String} (printable : ∀ c ∈ text.toList, safe c = true) :
    (Piece.own text).Clean safe := fun c member => .inl (printable c member)

theorem clean_ascii {text : String}
    (printable : text.toList.all fun c => 32 ≤ c.toNat && c.toNat < 127) :
    (Piece.own text).Clean safe := clean_own fun c member => by
  have bounds := List.all_eq_true.mp printable c member
  rw [Bool.and_eq_true, decide_eq_true_eq, decide_eq_true_eq] at bounds
  exact ascii c bounds.1 bounds.2

theorem clean_indent (level : Nat) : (Piece.own (indent level)).Clean safe := by
  intro c member
  rw [indent, String.toList_ofList] at member
  rcases List.mem_cons.mp member with rfl | blank
  · exact .inr (.inl rfl)
  · obtain rfl := List.eq_of_mem_replicate blank
    exact .inl (ascii _ (by decide) (by decide))

theorem clean_integer (value : Int) : (Piece.given (toString value)).Clean safe := by
  have digits (n : Nat) : ∀ c ∈ (toString n).toList, safe c = true := by
    intro c member
    rw [Nat.toString_eq_ofList_toDigits, String.toList_ofList] at member
    have digit := Nat.isDigit_of_mem_toDigits (by decide) (by decide) member
    simp only [Char.isDigit, Bool.and_eq_true, decide_eq_true_eq, UInt32.le_iff_toNat_le] at digit
    have bounds : 48 ≤ c.toNat ∧ c.toNat ≤ 57 := digit
    exact ascii c (by omega) (by omega)
  intro c member
  cases value with
  | ofNat n => exact digits n c member
  | negSucc n =>
      have signed : toString (Int.negSucc n) = "-" ++ toString (n + 1) := rfl
      rw [signed, String.toList_append] at member
      rcases List.mem_append.mp member with sign | digit
      · obtain rfl := List.mem_singleton.mp sign
        exact ascii _ (by decide) (by decide)
      · exact digits _ c digit

variable {write : Writer Number} (written : ∀ value, ∀ c ∈ (write value).toList, safe c = true)

include written

mutual

/-- **What is printed of a document is clean** exactly when its texts do no harm, its keys being
plain. -/
theorem clean_pretty_iff (level : Nat) : ∀ value : Value Number,
    (∀ key ∈ value.keys, Harmless safe key) →
      (Clean safe (pretty write level value) ↔ ∀ text ∈ value.texts, Harmless safe text)
  | .null, _ => by simpa [pretty, Value.texts] using clean_ascii ascii (by decide)
  | .bool value, _ => by
      cases value <;> simpa [pretty, Value.texts] using clean_ascii ascii (by decide)
  | .integer value, _ => by simpa [pretty, Value.texts] using clean_integer ascii value
  | .number value, _ => by simpa [pretty, Value.texts, Piece.Clean] using written value
  | .string text, _ => by
      have quote : (Piece.own "\"").Clean safe := clean_ascii ascii (by decide)
      simp only [pretty, Value.texts, clean_cons, clean_nil, quote, List.forall_mem_singleton, true_and,
        and_true]
      exact safe_escape_iff ascii text
  | .array [], _ => by simpa [pretty, Value.texts, itemTexts] using clean_ascii ascii (by decide)
  | .array (item :: items), keys => by
      rw [Value.keys, itemKeys, List.forall_mem_append] at keys
      have opened : (Piece.own "[").Clean safe := clean_ascii ascii (by decide)
      have closed : (Piece.own "]").Clean safe := clean_ascii ascii (by decide)
      have first := clean_pretty_iff (level + 1) item keys.1
      have rest := clean_prettyItems_iff (level + 1) items keys.2
      simp only [pretty, Value.texts, itemTexts, clean_cons, clean_append, clean_nil, opened, closed,
        clean_indent ascii, first, rest, List.forall_mem_append, true_and, and_true]
  | .object [], _ => by simpa [pretty, Value.texts, fieldTexts] using clean_ascii ascii (by decide)
  | .object ((key, value) :: fields), keys => by
      rw [Value.keys, fieldKeys, List.cons_append, List.forall_mem_cons, List.forall_mem_append] at keys
      have opened : (Piece.own "\x7b").Clean safe := clean_ascii ascii (by decide)
      have closed : (Piece.own "\x7d").Clean safe := clean_ascii ascii (by decide)
      have quote : (Piece.own "\"").Clean safe := clean_ascii ascii (by decide)
      have colon : (Piece.own "\": ").Clean safe := clean_ascii ascii (by decide)
      have name := clean_own ((safe_escape_iff ascii key).mpr keys.1)
      have first := clean_pretty_iff (level + 1) value keys.2.1
      have rest := clean_prettyFields_iff (level + 1) fields keys.2.2
      simp only [pretty, prettyField, Value.texts, fieldTexts, clean_cons, clean_append, clean_nil,
        opened, closed, quote, colon, name, clean_indent ascii, first, rest, List.forall_mem_append,
        true_and, and_true]

theorem clean_prettyItems_iff (level : Nat) : ∀ items : List (Value Number),
    (∀ key ∈ itemKeys items, Harmless safe key) →
      (Clean safe (prettyItems write level items) ↔ ∀ text ∈ itemTexts items, Harmless safe text)
  | [], _ => by simp [prettyItems, itemTexts]
  | item :: items, keys => by
      rw [itemKeys, List.forall_mem_append] at keys
      have comma : (Piece.own ",").Clean safe := clean_ascii ascii (by decide)
      have first := clean_pretty_iff level item keys.1
      have rest := clean_prettyItems_iff level items keys.2
      simp only [prettyItems, itemTexts, clean_cons, clean_append, comma, clean_indent ascii, first,
        rest, List.forall_mem_append, true_and]

theorem clean_prettyFields_iff (level : Nat) : ∀ fields : List (String × Value Number),
    (∀ key ∈ fieldKeys fields, Harmless safe key) →
      (Clean safe (prettyFields write level fields) ↔
        ∀ text ∈ fieldTexts fields, Harmless safe text)
  | [], _ => by simp [prettyFields, fieldTexts]
  | (key, value) :: fields, keys => by
      rw [fieldKeys, List.cons_append, List.forall_mem_cons, List.forall_mem_append] at keys
      have comma : (Piece.own ",").Clean safe := clean_ascii ascii (by decide)
      have quote : (Piece.own "\"").Clean safe := clean_ascii ascii (by decide)
      have colon : (Piece.own "\": ").Clean safe := clean_ascii ascii (by decide)
      have name := clean_own ((safe_escape_iff ascii key).mpr keys.1)
      have first := clean_pretty_iff level value keys.2.1
      have rest := clean_prettyFields_iff level fields keys.2.2
      simp only [prettyFields, prettyField, fieldTexts, clean_cons, clean_append, comma, quote, colon,
        name, clean_indent ascii, first, rest, List.forall_mem_append, true_and]

end

end Printing

end Json
