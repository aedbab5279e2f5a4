/-
**Text, as the standard library and `omdesky-core/src/text.rs` treat it.**

* `trim`, `trimEndMatches`, `eqIgnoreAsciiCase`: the functions of `str`.
* `IpAddr.parse`: the parser of `std::net`. A dotted address has four decimal numbers without
  leading zeros; a colon address has eight groups, or fewer around one `::`, the last two of which
  may be a dotted address.
* `IpAddr.isAddressChar_display`: an address is written with letters, digits, dots and colons.
* `sanitizeForDisplay`: control, bidirectional and invisible characters replaced, and the length
  bounded.
-/

import Mathlib.Data.List.DropRight
import Omdesky.Core

namespace Omdesky

/-! ### Strings -/

/-- `str::trim`. -/
def trim (text : String) : String :=
  String.ofList ((text.toList.dropWhile isWhitespace).rdropWhile isWhitespace)

/-- `str::trim_end_matches` for one character. -/
def trimEndMatches (text : String) (last : Char) : String :=
  String.ofList (text.toList.rdropWhile (· == last))

/-- `text.split(separator).next()`. -/
def firstSegment (text : String) (separator : Char) : String :=
  String.ofList (text.toList.takeWhile (· != separator))

/-- `str::eq_ignore_ascii_case`. -/
def eqIgnoreAsciiCase (first second : String) : Bool :=
  first.toList.map Char.toLower == second.toList.map Char.toLower

/-- A character after another. -/
theorem utf8ByteSize_ofList_cons (c : Char) (rest : List Char) :
    (String.ofList (c :: rest)).utf8ByteSize = c.utf8Size + (String.ofList rest).utf8ByteSize := by
  rw [← List.singleton_append, String.ofList_append, String.utf8ByteSize_append,
    ← String.singleton_eq_ofList, String.utf8ByteSize_singleton]

/-- Every character takes a byte at least. -/
theorem length_le_utf8ByteSize (text : String) : text.toList.length ≤ text.utf8ByteSize := by
  have counted (characters : List Char) :
      characters.length ≤ (String.ofList characters).utf8ByteSize := by
    induction characters with
    | nil => exact Nat.zero_le _
    | cons c rest ih =>
        have split : String.ofList (c :: rest) = String.singleton c ++ String.ofList rest := by
          apply String.toList_inj.mp
          simp
        have one := c.utf8Size_pos
        rw [split, String.utf8ByteSize_append, String.utf8ByteSize_singleton, List.length_cons]
        omega
  simpa using counted text.toList

/-! ### The parser of addresses -/

namespace AddressParser

/-- A parser reads a beginning of its input, or fails and reads nothing. -/
abbrev Parser (α : Type) := List Char → Option (α × List Char)

/-- `char::to_digit`. -/
def toDigit (radix : Nat) (c : Char) : Option Nat :=
  let value :=
    if c.isDigit then some (c.toNat - '0'.toNat)
    else if 'a' ≤ c ∧ c ≤ 'z' then some (c.toNat - 'a'.toNat + 10)
    else if 'A' ≤ c ∧ c ≤ 'Z' then some (c.toNat - 'A'.toNat + 10)
    else none
  value.filter (· < radix)

/-- The digits at the beginning of the input, and what follows them. -/
def digits (radix : Nat) : List Char → List Nat × List Char
  | [] => ([], [])
  | c :: rest =>
      match toDigit radix c with
      | some digit => let (more, rest) := digits radix rest; (digit :: more, rest)
      | none => ([], c :: rest)

/-- `Parser::read_number`, below the limit of its type. -/
def readNumber (radix maxDigits : Nat) (allowZeroPrefix : Bool) (limit : Nat) : Parser Nat :=
  fun input =>
    let (read, rest) := digits radix input
    let value := read.foldl (fun value digit => value * radix + digit) 0
    if maxDigits < read.length || read.isEmpty then none
    else if !allowZeroPrefix && input.head? == some '0' && 1 < read.length then none
    else if value < limit then some (value, rest)
    else none

/-- `Parser::read_given_char`. -/
def readGivenChar (expected : Char) : Parser Unit
  | [] => none
  | c :: rest => if c = expected then some ((), rest) else none

/-- `Parser::read_separator`: a separator first, but at the first index. -/
def readSeparator {α : Type} (separator : Char) (index : Nat) (inner : Parser α) : Parser α :=
  fun input =>
    if 0 < index then (readGivenChar separator input).bind fun (_, rest) => inner rest
    else inner input

/-- An octet of a dotted address, after its separator. -/
def readOctet (index : Nat) : Parser UInt8 := fun input =>
  (readSeparator '.' index (readNumber 10 3 false 256) input).map fun (value, rest) =>
    (UInt8.ofNat value, rest)

/-- `Parser::read_ipv4_addr`. -/
def readIpv4Addr : Parser (UInt8 × UInt8 × UInt8 × UInt8) := fun input => do
  let (a, input) ← readOctet 0 input
  let (b, input) ← readOctet 1 input
  let (c, input) ← readOctet 2 input
  let (d, input) ← readOctet 3 input
  return ((a, b, c, d), input)

/-- Two octets as a group. -/
def groupOf (high low : UInt8) : UInt16 := UInt16.ofNat (high.toNat * 256 + low.toNat)

/-- `read_groups`: at most `limit` groups from this index on, and whether a dotted address ended
them. -/
def readGroups (limit index : Nat) : (left : Nat) → List Char → (List UInt16 × Bool) × List Char
  | 0, input => (([], false), input)
  | left + 1, input =>
      let embedded :=
        if index + 1 < limit then readSeparator ':' index readIpv4Addr input else none
      match embedded with
      | some ((a, b, c, d), rest) => (([groupOf a b, groupOf c d], true), rest)
      | none =>
          match readSeparator ':' index (readNumber 16 4 true 65536) input with
          | some (group, rest) =>
              let ((groups, dotted), rest) := readGroups limit (index + 1) left rest
              ((UInt16.ofNat group :: groups, dotted), rest)
          | none => (([], false), input)

/-- Eight groups as an address. -/
def ofGroups : List UInt16 → Option IpAddr
  | [a, b, c, d, e, f, g, h] => some (.v6 a b c d e f g h)
  | _ => none

/-- `Parser::read_ipv6_addr`. -/
def readIpv6Addr : Parser IpAddr := fun input => do
  let ((head, dotted), input) := readGroups 8 0 8 input
  if head.length = 8 then
    return (← ofGroups head, input)
  if dotted then
    none
  let (_, input) ← readGivenChar ':' input
  let (_, input) ← readGivenChar ':' input
  let limit := 8 - (head.length + 1)
  let ((tail, _), input) := readGroups limit 0 limit input
  let zeros := List.replicate (8 - head.length - tail.length) 0
  return (← ofGroups (head ++ zeros ++ tail), input)

end AddressParser

/-- `str::parse::<IpAddr>`: the whole text is one address. -/
def IpAddr.parse (text : String) : Option IpAddr :=
  let dotted := (AddressParser.readIpv4Addr text.toList).map fun ((a, b, c, d), rest) =>
    (IpAddr.v4 a b c d, rest)
  match dotted.or (AddressParser.readIpv6Addr text.toList) with
  | some (address, []) => some address
  | _ => none

/-! ### The text of an address -/

theorem isAlphanum_of_mem_toDigits {radix : Nat} (two : 1 < radix) (sixteen : radix ≤ 16)
    (value : Nat) : ∀ c ∈ Nat.toDigits radix value, c.isAlphanum = true := by
  have digit : ∀ value < 16, (Nat.digitChar value).isAlphanum = true := by decide
  induction value using Nat.strongRecOn with
  | ind value ih =>
      intro c member
      rw [Nat.toDigits_eq_if two] at member
      split at member
      · next small =>
          obtain rfl := List.mem_singleton.mp member
          exact digit _ (Nat.lt_of_lt_of_le small sixteen)
      · next large =>
          rcases List.mem_append.mp member with front | last
          · exact ih _ (Nat.div_lt_self (by omega) two) c front
          · obtain rfl := List.mem_singleton.mp last
            exact digit _ (Nat.lt_of_lt_of_le (Nat.mod_lt _ (by omega)) sixteen)

theorem isAlphanum_of_mem_toString (value : Nat) :
    ∀ c ∈ (toString value).toList, c.isAlphanum = true := by
  rw [Nat.toString_eq_ofList_toDigits, String.toList_ofList]
  exact isAlphanum_of_mem_toDigits (by decide) (by decide) value

/-- A character of an intercalation is one of the separator or of a part. -/
theorem forall_mem_intercalate {holds : Char → Prop} {separator : String} {parts : List String}
    (between : ∀ c ∈ separator.toList, holds c) (within : ∀ part ∈ parts, ∀ c ∈ part.toList, holds c) :
    ∀ c ∈ (separator.intercalate parts).toList, holds c := by
  induction parts with
  | nil => simp
  | cons part rest ih =>
      obtain ⟨first, others⟩ := List.forall_mem_cons.mp within
      cases rest with
      | nil => simpa using first
      | cons second rest =>
          rw [String.intercalate_cons_cons]
          simp only [String.toList_append, List.mem_append]
          rintro c ((member | member) | member)
          · exact first c member
          · exact between c member
          · exact ih others c member

/-- A character of the text of an address. -/
def isAddressChar (c : Char) : Bool := c.isAlphanum || c == '.' || c == ':'

theorem isAddressChar_segmentsText (segments : List UInt16) :
    ∀ c ∈ (segmentsText segments).toList, isAddressChar c = true := by
  refine forall_mem_intercalate (List.all_eq_true.mp (by decide)) fun part member c inside => ?_
  obtain ⟨segment, _, rfl⟩ := List.mem_map.mp member
  rw [String.toList_ofList] at inside
  simp [isAddressChar, isAlphanum_of_mem_toDigits (by decide) (by decide) _ c inside]

theorem isAddressChar_dotted {α : Type} (value : α → Nat) (octets : List α) :
    ∀ c ∈ (".".intercalate (octets.map fun octet => toString (value octet))).toList,
      isAddressChar c = true := by
  refine forall_mem_intercalate (List.all_eq_true.mp (by decide)) fun part member c inside => ?_
  obtain ⟨octet, _, rfl⟩ := List.mem_map.mp member
  simp [isAddressChar, isAlphanum_of_mem_toString _ c inside]

theorem IpAddr.isAddressChar_display (address : IpAddr) :
    ∀ c ∈ address.display.toList, isAddressChar c = true := by
  have joined {first second : String} (front : ∀ c ∈ first.toList, isAddressChar c = true)
      (back : ∀ c ∈ second.toList, isAddressChar c = true) :
      ∀ c ∈ (first ++ second).toList, isAddressChar c = true := by
    simpa only [String.toList_append, List.mem_append, or_imp, forall_and] using ⟨front, back⟩
  have colons : ∀ c ∈ "::".toList, isAddressChar c = true := List.all_eq_true.mp (by decide)
  unfold display
  split
  · exact isAddressChar_dotted UInt8.toNat _
  · exact joined (List.all_eq_true.mp (by decide)) (isAddressChar_dotted UInt16.toNat _)
  · dsimp only
    split
    · exact joined (joined (isAddressChar_segmentsText _) colons) (isAddressChar_segmentsText _)
    · exact isAddressChar_segmentsText _

theorem IpAddr.display_ne_nil (address : IpAddr) : address.display.toList ≠ [] := by
  unfold display
  split
  · simp [String.intercalate_cons_cons]
  · simp
  · dsimp only
    split
    · simp
    · simp [segmentsText, String.intercalate_cons_cons]

/-! ### `omdesky-core/src/text.rs` -/

/-- `REPLACEMENT`. -/
def replacement : Char := '\ufffd'

/-- `DISPLAY_NAME_LIMIT`. -/
def displayNameLimit : Nat := 96

/-- `char::is_control`. -/
def isControl (c : Char) : Bool := c.toNat < 0x20 || (0x7f ≤ c.toNat && c.toNat < 0xa0)

/-- `is_bidi_or_invisible`. -/
def isBidiOrInvisible (c : Char) : Bool :=
  let code := c.toNat
  code == 0xad || code == 0x61c || code == 0x180e || (0x200b ≤ code && code ≤ 0x200f) ||
    (0x202a ≤ code && code ≤ 0x202e) || (0x2060 ≤ code && code ≤ 0x2064) ||
    (0x2066 ≤ code && code ≤ 0x206f) || code == 0xfeff || (0xfff9 ≤ code && code ≤ 0xfffb) ||
    (0xe0000 ≤ code && code ≤ 0xe007f)

/-- `is_presentation_safe`. -/
def isPresentationSafe (c : Char) : Bool := !isControl c && !isBidiOrInvisible c

theorem safe_of_ascii (c : Char) (low : 32 ≤ c.toNat) (high : c.toNat < 127) :
    isPresentationSafe c = true := by
  simp [isPresentationSafe, isControl, isBidiOrInvisible]
  omega

/-- `sanitize_for_display`. -/
def sanitizeForDisplay (value : String) (limit : Nat) : String :=
  let shown := (value.toList.take limit).map fun c => if isPresentationSafe c then c else replacement
  String.ofList (if limit < value.toList.length then shown ++ ['…'] else shown)

/-- `sanitize_optional`. -/
def sanitizeOptional (value : Option String) (limit : Nat) : Option String :=
  value.map fun value => sanitizeForDisplay value limit

end Omdesky
