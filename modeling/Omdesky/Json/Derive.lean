/-
**Documents as derived formats read and write them.**

A structure is an object with a field for each member; a reader takes the fields in any order, ignores
the ones it does not know and refuses a repeated one, and it takes a list of the members in their order
as well. An enumeration is written with its tag outside, or with its tag among the fields of its
variant.

* `field`, `requiredField`, `optionalField`, `members`: the fields of a structure.
* `unitVariant`, `variant`: an enumeration with its tag outside.
* `taggedVariant`: an enumeration with its tag among the fields.
* `requiredField_eq`, `optionalField_some`, `asList_map`: what is read of a field and of a list.
-/

import Omdesky.Json.Value

namespace Json

variable {Number α : Type}

/-! ### Reading a structure -/

/-- The value of a field, if there is one. A repeated field is an error. -/
def field (name : String) (fields : List (String × Value Number)) : Option (Option (Value Number)) :=
  match fields.filter fun field => field.1 == name with
  | [] => some none
  | [(_, value)] => some (some value)
  | _ => none

/-- A field that has to be there. -/
def requiredField (name : String) (decode : Value Number → Option α)
    (fields : List (String × Value Number)) : Option α := do
  decode (← ← field name fields)

/-- A field that may be missing or null. -/
def optionalField (name : String) (decode : Value Number → Option α)
    (fields : List (String × Value Number)) : Option (Option α) := do
  match ← field name fields with
  | none | some .null => return none
  | some value => return some (← decode value)

/-- The members of a structure, from an object or from a list in the order of the members. -/
def members (names : List String) : Value Number → Option (List (String × Value Number))
  | .object fields => some fields
  | .array items => if items.length ≤ names.length then some (names.zip items) else none
  | _ => none

/-- A field that is left out when it has no value. -/
def skipNone (name : String) (value : Option (Value Number)) : List (String × Value Number) :=
  (value.map (name, ·)).toList

/-! ### Reading single values -/

/-- A text. -/
def asString : Value Number → Option String
  | .string text => some text
  | _ => none

/-- A natural number below a bound. -/
def asNatural (bound : Nat) : Value Number → Option Nat
  | .integer value => if 0 ≤ value ∧ value < bound then some value.toNat else none
  | _ => none

/-- A list. -/
def asList (decode : Value Number → Option α) : Value Number → Option (List α)
  | .array items => items.mapM decode
  | _ => none

/-! ### Reading an enumeration -/

/-- A variant with its tag outside, and its content. -/
def variant : Value Number → Option (String × Option (Value Number))
  | .string name => some (name, none)
  | .object [(name, content)] => some (name, some content)
  | _ => none

/-- There is no content, or it is null. -/
def isUnit : Option (Value Number) → Bool
  | none | some .null => true
  | _ => false

/-- A variant without content. -/
def unitVariant (value : Value Number) : Option String := do
  let (name, content) ← variant value
  if isUnit content then some name else none

/-- A variant with its tag among its fields, and what is left of the fields. -/
def taggedVariant (tag : String) : Value Number → Option (String × Value Number)
  | .object fields => do
      let name ← requiredField tag asString fields
      return (name, .object (fields.filter fun field => field.1 != tag))
  | .array (.string name :: items) => some (name, .array items)
  | _ => none

/-! ### Laws -/

theorem field_single (name : String) (value : Value Number) :
    field name [(name, value)] = some (some value) := by
  simp [field]

/-- The first of two fields. -/
theorem field_left {name other : String} (differs : other ≠ name) (value rest : Value Number) :
    field name [(name, value), (other, rest)] = some (some value) := by
  simp [field, differs]

/-- The second of two fields. -/
theorem field_right {name other : String} (differs : other ≠ name) (rest value : Value Number) :
    field name [(other, rest), (name, value)] = some (some value) := by
  simp [field, differs]

theorem requiredField_eq {name : String} {decode : Value Number → Option α}
    {fields : List (String × Value Number)} {value : Value Number}
    (found : field name fields = some (some value)) :
    requiredField name decode fields = decode value := by
  rw [requiredField, found]
  rfl

theorem optionalField_none {name : String} {decode : Value Number → Option α}
    {fields : List (String × Value Number)} (absent : field name fields = some none) :
    optionalField name decode fields = some none := by
  rw [optionalField, absent]
  rfl

theorem optionalField_some {name : String} {decode : Value Number → Option α}
    {fields : List (String × Value Number)} {value : Value Number} {result : α}
    (found : field name fields = some (some value)) (present : value ≠ .null)
    (read : decode value = some result) :
    optionalField name decode fields = some (some result) := by
  rw [optionalField, found]
  cases value with
  | null => exact absurd rfl present
  | _ =>
      dsimp only [Option.bind_eq_bind, Option.bind_some]
      rw [read]
      rfl

theorem asNatural_integer {bound value : Nat} (small : value < bound) :
    asNatural bound (.integer value : Value Number) = some value := by
  simp [asNatural, small]

/-- **A list is read back** when its elements are. -/
theorem asList_map {encode : α → Value Number} {decode : Value Number → Option α} {items : List α}
    (each : ∀ item ∈ items, decode (encode item) = some item) :
    asList decode (.array (items.map encode)) = some items := by
  rw [asList]
  induction items with
  | nil => rfl
  | cons item items ih =>
      obtain ⟨here, rest⟩ := List.forall_mem_cons.mp each
      rw [List.map_cons, List.mapM_cons, here, Option.bind_eq_bind, Option.bind_some, ih rest]
      rfl

end Json
