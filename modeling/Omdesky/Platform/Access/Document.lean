/-
**The text of the allowlist.**

The file holds the entries as a document over several lines, with a line feed at its end.

* `AllowedController.encode`, `AllowedController.decode`: the document of an entry, and what is read of
  one. An entry without capabilities has none.
* `serialized`: what the serializer writes for a list.
* `decodeControllers_encode`: a list is read back from its document.
* `length_content`: the bytes of the file, entry by entry.
-/

import Mathlib.Algebra.GroupWithZero.Nat
import Omdesky.Platform.Access
import Omdesky.Protocol.Wire

namespace Omdesky

open Json Platform

/-! ### Documents -/

/-- How a timestamp is written and read. -/
structure Stamps where
  write : Int → Document
  read : Document → Option Int

variable (stamps : Stamps)

/-- A `ControlCapability` in snake case. -/
def ControlCapability.decode : Document → Option ControlCapability :=
  decodeNamed ControlCapability.all ControlCapability.asStr

/-- A label, if there is one. -/
def encodeLabel : Option String → Document
  | none => .null
  | some label => .string label

/-- The document of an entry. -/
def AllowedController.encode (entry : AllowedController) : Document :=
  .object [("tailnet_node_id", .string entry.tailnetNodeId), ("label", encodeLabel entry.label),
    ("added_at", stamps.write entry.addedAt),
    ("capabilities", .array (entry.capabilities.map fun capability => .string capability.asStr))]

/-- A field that counts as empty when it is missing. -/
def defaultedField {α : Type} (name : String) (decode : Document → Option (List α))
    (fields : List (String × Document)) : Option (List α) := do
  match ← field name fields with
  | none => return []
  | some value => decode value

/-- What is read of an entry. -/
def AllowedController.decode (value : Document) : Option AllowedController := do
  let fields ← members ["tailnet_node_id", "label", "added_at", "capabilities"] value
  return { tailnetNodeId := ← requiredField "tailnet_node_id" asString fields
           label := ← optionalField "label" asString fields
           addedAt := ← requiredField "added_at" stamps.read fields
           capabilities := ← defaultedField "capabilities" (asList ControlCapability.decode) fields }

/-- The document of a list. -/
def encodeControllers (controllers : List AllowedController) : Document :=
  .array (controllers.map (AllowedController.encode stamps))

/-- What is read of a list. -/
def decodeControllers : Document → Option (List AllowedController) :=
  asList (AllowedController.decode stamps)

/-! ### Bytes -/

/-- The text of a piece. -/
def pieceText : Piece → String
  | .own text | .given text => text

/-- The bytes of a text. -/
def utf8 (text : String) : List UInt8 := text.toByteArray.data.toList

/-- What the serializer writes for a list. -/
def serialized (controllers : List AllowedController) : Serialized where
  pieces := (pretty nofun 0 (encodeControllers stamps controllers)).map (utf8 ∘ pieceText)
  error := none

/-- The bytes that pieces take. -/
def pieceBytes (pieces : List Piece) : Nat :=
  (pieces.map fun piece => (pieceText piece).utf8ByteSize).sum

/-- The bytes that an entry takes. -/
def entryBytes (entry : AllowedController) : Nat :=
  pieceBytes (pretty nofun 1 (AllowedController.encode stamps entry))

/-- The bytes that a list takes in the file. -/
def fileBytes (controllers : List AllowedController) : Nat :=
  3 + (controllers.map fun entry => 4 + entryBytes stamps entry).sum

/-! ### A list is read back -/

section Decode

variable {stamps}

/-- Every timestamp of the list is read as it was written. -/
def KeepsStamps (stamps : Stamps) (controllers : List AllowedController) : Prop :=
  ∀ entry ∈ controllers, stamps.read (stamps.write entry.addedAt) = some entry.addedAt

theorem AllowedController.decode_encode {entry : AllowedController}
    (kept : stamps.read (stamps.write entry.addedAt) = some entry.addedAt) :
    AllowedController.decode stamps (AllowedController.encode stamps entry) = some entry := by
  have capabilities : asList ControlCapability.decode
      (.array (entry.capabilities.map fun capability => .string capability.asStr)) =
        some entry.capabilities := by
    refine asList_map fun capability _ => ?_
    cases capability <;> decide
  have label : ∀ fields : List (String × Document),
      field "label" fields = some (some (encodeLabel entry.label)) →
        optionalField "label" asString fields = some entry.label := by
    intro fields found
    unfold optionalField
    rw [found]
    cases entry.label <;> rfl
  let fields : List (String × Document) := [("tailnet_node_id", .string entry.tailnetNodeId),
    ("label", encodeLabel entry.label), ("added_at", stamps.write entry.addedAt),
    ("capabilities", .array (entry.capabilities.map fun capability => .string capability.asStr))]
  have node : field "tailnet_node_id" fields = some (some (.string entry.tailnetNodeId)) := by
    simp [fields, field]
  have added : field "added_at" fields = some (some (stamps.write entry.addedAt)) := by
    simp [fields, field]
  have listed : field "capabilities" fields = some (some (.array
      (entry.capabilities.map fun capability => .string capability.asStr))) := by
    simp [fields, field]
  change (members _ (.object fields) >>= _) = _
  rw [members, Option.bind_eq_bind, Option.bind_some, requiredField_eq node,
    label fields (by simp [fields, field]), requiredField_eq added, kept, defaultedField, listed]
  simp [asString, capabilities]

/-- **A list is read back from its document.** -/
theorem decodeControllers_encode {controllers : List AllowedController}
    (kept : KeepsStamps stamps controllers) :
    decodeControllers stamps (encodeControllers stamps controllers) = some controllers :=
  asList_map fun entry member => AllowedController.decode_encode (kept entry member)

end Decode

/-! ### The bytes of the file -/

section Bytes

variable {stamps}

theorem pieceBytes_cons (piece : Piece) (pieces : List Piece) :
    pieceBytes (piece :: pieces) = (pieceText piece).utf8ByteSize + pieceBytes pieces := by
  simp [pieceBytes]

theorem pieceBytes_append (first second : List Piece) :
    pieceBytes (first ++ second) = pieceBytes first + pieceBytes second := by
  simp [pieceBytes]

theorem length_flatten_pieces (pieces : List Piece) :
    ((pieces.map (utf8 ∘ pieceText)).flatten).length = pieceBytes pieces := by
  induction pieces with
  | nil => rfl
  | cons piece pieces ih =>
      rw [List.map_cons, List.flatten_cons, List.length_append, ih, pieceBytes_cons]
      rfl

/-- The further entries of a list. -/
theorem pieceBytes_prettyItems (entries : List AllowedController) :
    pieceBytes (prettyItems nofun 1 (entries.map (AllowedController.encode stamps))) =
      (entries.map fun entry => 4 + entryBytes stamps entry).sum := by
  have comma : (pieceText (.own ",")).utf8ByteSize = 1 := rfl
  have line : (pieceText (.own (indent 1))).utf8ByteSize = 3 := rfl
  induction entries with
  | nil => rfl
  | cons entry entries ih =>
      simp only [List.map_cons, prettyItems, List.cons_append, pieceBytes_cons, pieceBytes_append, ih,
        comma, line, List.sum_cons, entryBytes]
      omega

/-- **The bytes of the file**, entry by entry. -/
theorem length_content (controllers : List AllowedController) :
    (serialized stamps controllers).content.length = fileBytes stamps controllers := by
  rw [Serialized.content, List.length_append, serialized, length_flatten_pieces, encodeControllers,
    fileBytes]
  cases controllers with
  | nil => rfl
  | cons entry entries =>
      have opening : (pieceText (.own "[")).utf8ByteSize = 1 := rfl
      have line : (pieceText (.own (indent 1))).utf8ByteSize = 3 := rfl
      have last : (pieceText (.own (indent 0))).utf8ByteSize = 1 := rfl
      have closing : (pieceText (.own "]")).utf8ByteSize = 1 := rfl
      have feed : newline.length = 1 := rfl
      have none : pieceBytes [] = 0 := rfl
      simp only [List.map_cons, pretty, List.cons_append, pieceBytes_cons, pieceBytes_append,
        pieceBytes_prettyItems, opening, line, last, closing, feed, none, List.sum_cons, entryBytes,
        Nat.zero_add]
      omega

/-- Escaping does not shorten a text. -/
theorem length_le_escape (text : String) : text.toList.length ≤ (escape text).utf8ByteSize := by
  have longer (c : Char) : 1 ≤ (escapeChar c).length := by
    unfold escapeChar
    split_ifs <;> simp
  have escaped : text.toList.length ≤ (text.toList.flatMap escapeChar).length := by
    induction text.toList with
    | nil => exact Nat.le_refl _
    | cons c rest ih =>
        rw [List.flatMap_cons, List.length_append, List.length_cons]
        have first := longer c
        omega
  have bytes := length_le_utf8ByteSize (escape text)
  rw [escape, String.toList_ofList] at bytes
  exact escaped.trans bytes

/-- An entry takes the bytes of its label at least. -/
theorem length_le_entryBytes {entry : AllowedController} {label : String}
    (labelled : entry.label = some label) : label.toList.length ≤ entryBytes stamps entry := by
  have longer := length_le_escape label
  simp only [entryBytes, AllowedController.encode, labelled, encodeLabel, pretty, prettyField,
    prettyFields, pieceBytes_cons, pieceBytes_append, List.cons_append, pieceText]
  omega

end Bytes

end Omdesky
