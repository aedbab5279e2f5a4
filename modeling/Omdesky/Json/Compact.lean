/-
**The text of a document on one line, and the bytes it takes at least.**

* `compact`: a document without blanks.
* `Value.leastBytes`: a text of the document is at least so long, however it is laid out: every text
  and key stands between quotes, and every value takes a byte.
* `leastBytes_le_of_mem`, `leastBytes_le_field`: a document is longer than its elements and fields.
-/

import Omdesky.Json.Derive

namespace Json

variable {Number : Type}

mutual

/-- A document on one line. -/
def compact (write : Writer Number) : Value Number → List Piece
  | .null => [.own "null"]
  | .bool value => [.own (if value then "true" else "false")]
  | .integer value => [.given (toString value)]
  | .number value => [.given (write value)]
  | .string text => [.own "\"", .given (escape text), .own "\""]
  | .array [] => [.own "[]"]
  | .array (item :: items) => .own "[" :: compact write item ++ compactItems write items ++ [.own "]"]
  | .object [] => [.own "\x7b\x7d"]
  | .object (field :: fields) =>
      .own "\x7b" :: compactField write field ++ compactFields write fields ++ [.own "\x7d"]

/-- The further elements of a list. -/
def compactItems (write : Writer Number) : List (Value Number) → List Piece
  | [] => []
  | item :: items => .own "," :: compact write item ++ compactItems write items

/-- A field of an object. -/
def compactField (write : Writer Number) : String × Value Number → List Piece
  | (key, value) => .own "\"" :: .own (escape key) :: .own "\":" :: compact write value

/-- The further fields of an object. -/
def compactFields (write : Writer Number) : List (String × Value Number) → List Piece
  | [] => []
  | field :: fields => .own "," :: compactField write field ++ compactFields write fields

end

mutual

/-- The bytes a text of the document takes at least. -/
def Value.leastBytes : Value Number → Nat
  | .null | .bool _ => 4
  | .integer _ | .number _ => 1
  | .string text => 2 + text.utf8ByteSize
  | .array items => 2 + leastItems items
  | .object fields => 2 + leastFields fields

/-- The elements of a list, and the commas between them. -/
def leastItems : List (Value Number) → Nat
  | [] => 0
  | [item] => item.leastBytes
  | item :: items => item.leastBytes + 1 + leastItems items

/-- The fields of an object. -/
def leastFields : List (String × Value Number) → Nat
  | [] => 0
  | (key, value) :: fields => key.utf8ByteSize + 3 + value.leastBytes + leastFields fields

end

theorem leastBytes_array (items : List (Value Number)) :
    (Value.array items).leastBytes = 2 + leastItems items := by rw [Value.leastBytes]

theorem leastBytes_object (fields : List (String × Value Number)) :
    (Value.object fields).leastBytes = 2 + leastFields fields := by rw [Value.leastBytes]

theorem leastItems_cons (item : Value Number) (items : List (Value Number)) :
    leastItems (item :: items) = item.leastBytes + (if items = [] then 0 else 1 + leastItems items) := by
  cases items with
  | nil => rfl
  | cons next items =>
      rw [leastItems, if_neg (List.cons_ne_nil _ _)]
      · omega
      · nofun

/-- Every value takes a byte. -/
theorem leastBytes_pos (value : Value Number) : 0 < value.leastBytes := by
  cases value <;> rw [Value.leastBytes] <;> omega

theorem length_le_leastItems (items : List (Value Number)) : items.length ≤ leastItems items := by
  induction items with
  | nil => exact Nat.zero_le _
  | cons item items ih =>
      have first := leastBytes_pos item
      rw [leastItems_cons, List.length_cons]
      split_ifs with only
      · rw [only, List.length_nil]
        omega
      · omega

/-- A list is longer than its elements. -/
theorem leastBytes_le_of_mem {item : Value Number} {items : List (Value Number)}
    (member : item ∈ items) : item.leastBytes ≤ leastItems items := by
  induction items with
  | nil => cases member
  | cons first items ih =>
      rw [leastItems_cons]
      rcases List.mem_cons.mp member with rfl | later
      · omega
      · have nonempty : items ≠ [] := List.ne_nil_of_mem later
        have inside := ih later
        rw [if_neg nonempty]
        omega

/-- An object is longer than its fields. -/
theorem leastBytes_le_field {key : String} {value : Value Number}
    {fields : List (String × Value Number)} (member : (key, value) ∈ fields) :
    key.utf8ByteSize + 3 + value.leastBytes ≤ leastFields fields := by
  induction fields with
  | nil => cases member
  | cons field fields ih =>
      obtain ⟨name, first⟩ := field
      rw [leastFields]
      rcases List.mem_cons.mp member with same | later
      · cases same
        omega
      · have inside := ih later
        omega

/-- What is read of a list is read of its elements. -/
theorem exists_of_mem_asList {α : Type} {decode : Value Number → Option α} {value : Value Number}
    {list : List α} (read : asList decode value = some list) {element : α} (member : element ∈ list) :
    ∃ items, value = .array items ∧ ∃ item ∈ items, decode item = some element := by
  have inside (items : List (Value Number)) : ∀ list, items.mapM decode = some list → element ∈ list →
      ∃ item ∈ items, decode item = some element := by
    induction items with
    | nil =>
        intro list read member
        cases read
        cases member
    | cons item items ih =>
        intro list read member
        rw [List.mapM_cons] at read
        obtain ⟨first, decoded, read⟩ := Option.bind_eq_some_iff.mp read
        obtain ⟨rest, others, read⟩ := Option.bind_eq_some_iff.mp read
        cases read
        rcases List.mem_cons.mp member with rfl | later
        · exact ⟨item, List.mem_cons_self, decoded⟩
        · obtain ⟨other, there, decoded⟩ := ih rest others later
          exact ⟨other, List.mem_cons_of_mem _ there, decoded⟩
  unfold asList at read
  split at read
  · exact ⟨_, rfl, inside _ _ read member⟩
  · cases read

/-- The value of a field stands among the fields. -/
theorem mem_of_field {name : String} {value : Value Number} {fields : List (String × Value Number)}
    (found : field name fields = some (some value)) : (name, value) ∈ fields := by
  unfold field at found
  split at found
  · cases found
  · rename_i key _ kept
    cases found
    have member : (key, value) ∈ fields.filter fun field => field.1 == name := by
      rw [kept]
      exact List.mem_singleton_self _
    obtain ⟨inside, named⟩ := List.mem_filter.mp member
    exact (beq_iff_eq.mp named) ▸ inside
  · cases found

end Json
