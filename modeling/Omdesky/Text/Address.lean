/-
**An address is read back from its text.**

* `digits_toDigits`: the digits of a number are read up to the first character that is none.
* `readNumber_toDigits`: a number below the limit is read from its shortest form.
* `readIpv4Addr_octets`: four octets between dots.
* `readGroups_text`: groups between colons, up to the end or to two colons.
* `longestZeros_spec`: the run of zeros that is left out lies inside the address and is zero.
* `IpAddr.parse_display`: **the text of an address means that address**.
-/

import Mathlib.Algebra.Group.Nat.Defs
import Omdesky.Text

namespace Omdesky

namespace AddressParser

/-! ### Numbers -/

/-- The input does not go on with a digit. -/
def Stops (radix : Nat) (rest : List Char) : Prop := ∀ c ∈ rest.head?, toDigit radix c = none

theorem digits_of_stops {radix : Nat} {rest : List Char} (stops : Stops radix rest) :
    digits radix rest = ([], rest) := by
  cases rest with
  | nil => rfl
  | cons c rest => simp [digits, stops c rfl]

/-- Every value has its digit. -/
theorem toDigit_digitChar {radix value : Nat} (sixteen : radix ≤ 16) (small : value < radix) :
    toDigit radix (Nat.digitChar value) = some value := by
  have each : ∀ radix ≤ 16, ∀ value < radix, toDigit radix (Nat.digitChar value) = some value := by
    decide
  exact each radix sixteen value small

/-- The digits in front of a rest are read one after the other. -/
theorem digits_append {radix : Nat} {written : List Char} {values : List Nat} {rest : List Char}
    (each : written.map (toDigit radix) = values.map some) (stops : Stops radix rest) :
    digits radix (written ++ rest) = (values, rest) := by
  induction written generalizing values with
  | nil =>
      obtain rfl : values = [] := by simpa using each.symm
      exact digits_of_stops stops
  | cons c written ih =>
      cases values with
      | nil => simp at each
      | cons value values =>
          obtain ⟨here, later⟩ := List.cons.inj each
          rw [List.cons_append, digits, here, ih later]

/-- The values of the digits of a number, from the first on. -/
theorem toDigits_values {radix : Nat} (two : 1 < radix) (sixteen : radix ≤ 16) (number : Nat) :
    ∃ values : List Nat, (Nat.toDigits radix number).map (toDigit radix) = values.map some ∧
      values.foldl (fun value digit => value * radix + digit) 0 = number := by
  induction number using Nat.strongRecOn with
  | ind number ih =>
      rw [Nat.toDigits_eq_if two]
      split
      · next small =>
          exact ⟨[number], by simp [toDigit_digitChar sixteen small], by simp⟩
      · next large =>
          obtain ⟨values, read, value⟩ := ih (number / radix) (Nat.div_lt_self (by omega) two)
          have last : number % radix < radix := Nat.mod_lt _ (by omega)
          refine ⟨values ++ [number % radix], ?_, ?_⟩
          · simp [read, toDigit_digitChar sixteen last]
          · rw [List.foldl_append, value, List.foldl_cons, List.foldl_nil, Nat.mul_comm]
            exact Nat.div_add_mod number radix

/-- Only zero begins with a zero. -/
theorem head_toDigits {radix : Nat} (two : 1 < radix) (number : Nat)
    (long : 1 < (Nat.toDigits radix number).length) : (Nat.toDigits radix number).head? ≠ some '0' := by
  induction number using Nat.strongRecOn with
  | ind number ih =>
      rw [Nat.toDigits_eq_if two] at long ⊢
      split at long
      · simp at long
      · next large =>
          rw [if_neg large]
          have positive : 0 < number / radix := Nat.div_pos (Nat.not_lt.mp large) (by omega)
          have smaller : number / radix < number := Nat.div_lt_self (by omega) two
          rw [List.head?_append_of_ne_nil _ Nat.toDigits_ne_nil]
          by_cases single : (Nat.toDigits radix (number / radix)).length ≤ 1
          · have below : number / radix < radix := by
              simpa using (Nat.length_toDigits_le_iff two (by decide : 0 < 1)).mp single
            rw [Nat.toDigits_of_lt_base below]
            intro zero
            have none : (number / radix).digitChar = '0' := by simpa using zero
            rw [Nat.digitChar_eq_zero] at none
            omega
          · exact ih _ smaller (Nat.not_le.mp single)

/-- **A number is read from its digits**, in front of what is no digit. -/
theorem readNumber_toDigits {radix maxDigits limit number : Nat} {allowZeroPrefix : Bool}
    {rest : List Char} (two : 1 < radix) (sixteen : radix ≤ 16) (some : 0 < maxDigits)
    (fits : number < radix ^ maxDigits) (below : number < limit) (stops : Stops radix rest) :
    readNumber radix maxDigits allowZeroPrefix limit (Nat.toDigits radix number ++ rest) =
      .some (number, rest) := by
  obtain ⟨values, read, value⟩ := toDigits_values two sixteen number
  have count : values.length = (Nat.toDigits radix number).length := by
    simpa using (congrArg List.length read).symm
  have short : values.length ≤ maxDigits := by
    rw [count]
    exact (Nat.length_toDigits_le_iff two some).mpr fits
  have positive : 0 < values.length := count ▸ Nat.length_toDigits_pos
  have nonempty : values.isEmpty = false := by
    cases values with
    | nil => simp at positive
    | cons value values => rfl
  have canonical : (!allowZeroPrefix && (Nat.toDigits radix number ++ rest).head? == Option.some '0' &&
      decide (1 < values.length)) = false := by
    by_cases long : 1 < values.length
    · have head := head_toDigits two number (count ▸ long)
      rw [List.head?_append_of_ne_nil _ Nat.toDigits_ne_nil]
      simp [head]
    · simp [long]
  unfold readNumber
  rw [digits_append read stops]
  dsimp only
  rw [nonempty, decide_eq_false (Nat.not_lt.mpr short), canonical, value]
  simp [below]

/-! ### Octets -/

/-- An octet in decimal. -/
def octetText (octet : UInt8) : List Char := Nat.toDigits 10 octet.toNat

theorem stops_cons {radix : Nat} {c : Char} {rest : List Char} (none : toDigit radix c = none) :
    Stops radix (c :: rest) := by
  intro first head
  obtain rfl := Option.some.inj head
  exact none

theorem readNumber_octet (octet : UInt8) {rest : List Char} (stops : Stops 10 rest) :
    readNumber 10 3 false 256 (octetText octet ++ rest) = some (octet.toNat, rest) :=
  readNumber_toDigits (by decide) (by decide) (by decide)
    (Nat.lt_trans octet.toNat_lt (by decide)) octet.toNat_lt stops

/-- **Four octets between dots.** -/
theorem readIpv4Addr_octets (a b c d : UInt8) {rest : List Char} (stops : Stops 10 rest) :
    readIpv4Addr (octetText a ++ '.' :: (octetText b ++ '.' :: (octetText c ++ '.' ::
      (octetText d ++ rest)))) = some ((a, b, c, d), rest) := by
  have dot (input : List Char) : Stops 10 ('.' :: input) := stops_cons (by decide)
  have first (octet : UInt8) {input : List Char} (stops : Stops 10 input) :
      readOctet 0 (octetText octet ++ input) = some (octet, input) := by
    simp [readOctet, readSeparator, readNumber_octet octet stops]
  have next (index : Nat) (later : 0 < index) (octet : UInt8) {input : List Char}
      (stops : Stops 10 input) :
      readOctet index ('.' :: (octetText octet ++ input)) = some (octet, input) := by
    simp [readOctet, readSeparator, readGivenChar, later, readNumber_octet octet stops]
  unfold readIpv4Addr
  rw [first a (dot _)]
  simp only [Option.bind_eq_bind, Option.bind_some]
  rw [next 1 (by decide) b (dot _), Option.bind_some, next 2 (by decide) c (dot _), Option.bind_some,
    next 3 (by decide) d stops, Option.bind_some]
  rfl

/-- Without a dot there is no dotted address. -/
theorem readIpv4Addr_of_no_dot {input : List Char} (plain : '.' ∉ input) :
    readIpv4Addr input = none := by
  have consumed : ∀ radix (input : List Char), '.' ∉ input → '.' ∉ (digits radix input).2 := by
    intro radix input plain
    induction input with
    | nil => exact plain
    | cons c input ih =>
        rw [digits]
        split
        · exact ih fun member => plain (List.mem_cons_of_mem _ member)
        · exact plain
  have second (input : List Char) (plain : '.' ∉ input) : readOctet 1 input = none := by
    cases input with
    | nil => rfl
    | cons c input =>
        have other : c ≠ '.' := fun same => plain (same ▸ List.mem_cons_self)
        simp [readOctet, readSeparator, readGivenChar, other]
  unfold readIpv4Addr
  cases read : readOctet 0 input with
  | none => rfl
  | some octet =>
      obtain ⟨value, rest⟩ := octet
      have kept : '.' ∉ rest := by
        simp only [readOctet, readSeparator, readNumber, Nat.lt_irrefl, if_false, Option.map_eq_some_iff,
          Prod.mk.injEq] at read
        obtain ⟨⟨number, left⟩, numbered, rfl, rfl⟩ := read
        split at numbered
        · cases numbered
        · split at numbered
          · cases numbered
          · split at numbered
            · obtain ⟨_, rfl⟩ := Prod.mk.inj (Option.some.inj numbered)
              exact consumed 10 input plain
            · cases numbered
      simp [second rest kept]

/-! ### Groups -/

/-- A group in hexadecimal. -/
def groupText (group : UInt16) : List Char := Nat.toDigits 16 group.toNat

/-- Groups, each after a colon. -/
def furtherText (groups : List UInt16) : List Char :=
  groups.flatMap fun group => ':' :: groupText group

/-- Groups between colons. -/
def groupsText : List UInt16 → List Char
  | [] => []
  | group :: groups => groupText group ++ furtherText groups

theorem readNumber_group (group : UInt16) {rest : List Char} (stops : Stops 16 rest) :
    readNumber 16 4 true 65536 (groupText group ++ rest) = some (group.toNat, rest) :=
  readNumber_toDigits (by decide) (by decide) (by decide) group.toNat_lt group.toNat_lt stops

theorem no_dot_groupText (group : UInt16) : '.' ∉ groupText group := fun member => by
  have alphanumeric := isAlphanum_of_mem_toDigits (by decide) (by decide) _ _ member
  exact absurd alphanumeric (by decide)

theorem no_dot_furtherText (groups : List UInt16) : '.' ∉ furtherText groups := fun member => by
  obtain ⟨group, _, inside⟩ := List.mem_flatMap.mp member
  rcases List.mem_cons.mp inside with colon | inside
  · cases colon
  · exact no_dot_groupText group inside

theorem no_dot_groupsText (groups : List UInt16) : '.' ∉ groupsText groups := by
  cases groups with
  | nil => simp [groupsText]
  | cons group groups =>
      simp [groupsText, no_dot_groupText group, no_dot_furtherText groups]

/-- The text of the groups ends, or goes on with two colons. -/
inductive Closes : List Char → Prop
  | ended : Closes []
  | colons (rest : List Char) : Closes (':' :: ':' :: rest)

theorem Closes.stops {rest : List Char} (closes : Closes rest) : Stops 16 rest := by
  cases closes with
  | ended => exact fun c head => by cases head
  | colons rest => exact stops_cons (by decide)

/-- After the groups there is no further one. -/
theorem Closes.read {rest : List Char} (closes : Closes rest) (index : Nat) :
    readSeparator ':' index (readNumber 16 4 true 65536) rest = none := by
  have none_colon (input : List Char) : readNumber 16 4 true 65536 (':' :: input) = none := rfl
  cases closes with
  | ended => cases index <;> rfl
  | colons rest =>
      cases index with
      | zero => exact none_colon (':' :: rest)
      | succ index => simp [readSeparator, readGivenChar, none_colon]

/-- Without a dot, no dotted address ends the groups. -/
theorem embedded_of_no_dot {input : List Char} (plain : '.' ∉ input) (limit index : Nat) :
    (if index + 1 < limit then readSeparator ':' index readIpv4Addr input else none) = none := by
  split
  · unfold readSeparator
    split
    · cases input with
      | nil => rfl
      | cons c input =>
          have rest := readIpv4Addr_of_no_dot fun member => plain (List.mem_cons_of_mem c member)
          by_cases colon : c = ':'
          · simp [readGivenChar, colon, rest]
          · simp [readGivenChar, colon]
    · exact readIpv4Addr_of_no_dot plain
  · rfl

theorem stops_furtherText (groups : List UInt16) {rest : List Char} (closes : Closes rest) :
    Stops 16 (furtherText groups ++ rest) := by
  cases groups with
  | nil => exact closes.stops
  | cons group groups => exact stops_cons (by decide)

/-- Groups after the first one. -/
theorem readGroups_further {limit left : Nat} {groups : List UInt16} {rest : List Char}
    (closes : Closes rest) (plain : '.' ∉ rest) (fits : groups.length ≤ left) :
    ∀ index, 0 < index →
      readGroups limit index left (furtherText groups ++ rest) = ((groups, false), rest) := by
  induction groups generalizing left with
  | nil =>
      intro index _
      cases left with
      | zero => rfl
      | succ left =>
          rw [furtherText, List.flatMap_nil, List.nil_append, readGroups]
          simp only [embedded_of_no_dot plain, closes.read]
  | cons group groups ih =>
      intro index later
      cases left with
      | zero => simp at fits
      | succ left =>
          have whole : '.' ∉ furtherText (group :: groups) ++ rest := by
            simp [no_dot_furtherText, plain]
          have read : readSeparator ':' index (readNumber 16 4 true 65536)
              (furtherText (group :: groups) ++ rest) =
                some (group.toNat, furtherText groups ++ rest) := by
            have stops := stops_furtherText groups closes
            simp only [readSeparator, furtherText, List.flatMap_cons, List.cons_append,
              List.append_assoc, readGivenChar, later, if_true, Option.bind_some]
            exact readNumber_group group stops
          rw [readGroups]
          simp only [embedded_of_no_dot whole, read,
            ih (Nat.le_of_succ_le_succ fits) (index + 1) (Nat.succ_pos index)]
          simp

/-- **Groups between colons**, from the beginning of an address or of its second part. -/
theorem readGroups_text {limit left : Nat} {groups : List UInt16} {rest : List Char}
    (closes : Closes rest) (plain : '.' ∉ rest) (fits : groups.length ≤ left) :
    readGroups limit 0 left (groupsText groups ++ rest) = ((groups, false), rest) := by
  have whole : '.' ∉ groupsText groups ++ rest := by simp [no_dot_groupsText, plain]
  cases left with
  | zero =>
      obtain rfl := List.length_eq_zero_iff.mp (Nat.le_zero.mp fits)
      rfl
  | succ left =>
      cases groups with
      | nil =>
          rw [readGroups]
          simp only [groupsText, List.nil_append, embedded_of_no_dot plain, closes.read]
      | cons group groups =>
          have read : readSeparator ':' 0 (readNumber 16 4 true 65536)
              (groupsText (group :: groups) ++ rest) =
                some (group.toNat, furtherText groups ++ rest) := by
            rw [groupsText, List.append_assoc]
            exact readNumber_group group (stops_furtherText groups closes)
          rw [readGroups]
          simp only [embedded_of_no_dot whole, read,
            readGroups_further closes plain (Nat.le_of_succ_le_succ fits) 1 (by decide)]
          simp

end AddressParser

/-! ### The zeros that are left out -/

/-- The run, a start and a length, has zeros only. -/
def ZeroRun (segments : List UInt16) (run : Nat × Nat) : Prop :=
  ∀ index, run.1 ≤ index → index < run.1 + run.2 → segments[index]? = some 0

/-- One turn of the loop of `longestZeros`: the longest run and the current one. -/
def scanZeros (runs : (Nat × Nat) × (Nat × Nat)) (entry : UInt16 × Nat) :
    (Nat × Nat) × (Nat × Nat) :=
  if entry.1 = 0 then
    let current := if runs.2.2 = 0 then (entry.2, 1) else (runs.2.1, runs.2.2 + 1)
    (if runs.1.2 < current.2 then current else runs.1, current)
  else (runs.1, (0, 0))

/-- The runs before this segment. The current one ends there, unless it is empty. -/
structure Scanned (segments : List UInt16) (index : Nat) (runs : (Nat × Nat) × (Nat × Nat)) :
    Prop where
  longest : ZeroRun segments runs.1
  current : ZeroRun segments runs.2
  reaches : runs.2.2 = 0 ∨ runs.2.1 + runs.2.2 = index

section Zeros

variable {segments : List UInt16} {index : Nat}

theorem zeroRun_empty (start : Nat) : ZeroRun segments (start, 0) := by
  intro index above below
  dsimp only at above below
  omega

/-- A run grows by a zero at its end, and an empty one starts there. -/
theorem ZeroRun.grow {run : Nat × Nat} (zeros : ZeroRun segments run)
    (reaches : run.2 = 0 ∨ run.1 + run.2 = index) (here : segments[index]? = some 0) :
    ZeroRun segments (if run.2 = 0 then (index, 1) else (run.1, run.2 + 1)) := by
  intro other above below
  by_cases last : other = index
  · rw [last, here]
  · split at above
    · next none =>
        rw [if_pos none] at below
        dsimp only at above below
        omega
    · next some =>
        rw [if_neg some] at below
        dsimp only at above below
        exact zeros other above (by omega)

theorem Scanned.step {runs : (Nat × Nat) × (Nat × Nat)} (scanned : Scanned segments index runs)
    {segment : UInt16} (here : segments[index]? = some segment) :
    Scanned segments (index + 1) (scanZeros runs (segment, index)) := by
  obtain ⟨longest, current, reaches⟩ := scanned
  unfold scanZeros
  by_cases zero : segment = 0
  · rw [if_pos zero]
    have grown := current.grow reaches (zero ▸ here)
    refine ⟨iteInduction (fun _ => grown) fun _ => longest, grown, Or.inr ?_⟩
    dsimp only
    split
    · rfl
    · dsimp only
      omega
  · rw [if_neg zero]
    exact ⟨longest, zeroRun_empty 0, Or.inl rfl⟩

theorem Scanned.foldl {rest : List UInt16} {runs : (Nat × Nat) × (Nat × Nat)}
    (scanned : Scanned segments index runs) (left : segments.drop index = rest) :
    Scanned segments (index + rest.length) ((rest.zipIdx index).foldl scanZeros runs) := by
  induction rest generalizing index runs with
  | nil => exact scanned
  | cons segment rest ih =>
      have here : segments[index]? = some segment := by
        have head := congrArg List.head? left
        rwa [List.head?_drop] at head
      have later : segments.drop (index + 1) = rest := by
        rw [← List.drop_drop, left]
        rfl
      rw [List.zipIdx_cons, List.foldl_cons, List.length_cons, ← Nat.add_assoc, Nat.add_right_comm]
      exact ih (scanned.step here) later

/-- **The longest run has zeros only.** -/
theorem longestZeros_spec (segments : List UInt16) : ZeroRun segments (longestZeros segments) :=
  have start : Scanned segments 0 ((0, 0), (0, 0)) := ⟨zeroRun_empty 0, zeroRun_empty 0, Or.inl rfl⟩
  (start.foldl rfl).longest

end Zeros

/-- The segments around a run of zeros. -/
theorem ZeroRun.split {segments : List UInt16} {start length : Nat}
    (zeros : ZeroRun segments (start, length)) :
    segments = segments.take start ++ List.replicate length 0 ++ segments.drop (start + length) := by
  have middle : (segments.drop start).take length = List.replicate length 0 := by
    refine List.ext_getElem? fun index => ?_
    rw [List.getElem?_take, List.getElem?_replicate, List.getElem?_drop]
    split
    · next inside => exact zeros (start + index) (by dsimp only; omega) (by dsimp only; omega)
    · rfl
  rw [← middle, List.append_assoc, ← List.drop_drop, List.take_append_drop, List.take_append_drop]

/-! ### Whole addresses -/

open AddressParser

theorem toList_segmentsText (segments : List UInt16) :
    (segmentsText segments).toList = groupsText segments := by
  have further (segment : UInt16) (segments : List UInt16) :
      (segmentsText (segment :: segments)).toList = groupText segment ++ furtherText segments := by
    induction segments generalizing segment with
    | nil => simp [segmentsText, groupText, furtherText]
    | cons second segments ih =>
        have rest := ih second
        simp only [segmentsText, List.map_cons] at rest ⊢
        rw [String.intercalate_cons_cons, String.toList_append, String.toList_append, rest]
        simp [groupText, furtherText]
  cases segments with
  | nil => rfl
  | cons segment segments => exact further segment segments

/-- Eight groups. -/
theorem readIpv6Addr_full {groups : List UInt16} {address : IpAddr} (eight : groups.length = 8)
    (whole : ofGroups groups = some address) :
    readIpv6Addr (groupsText groups) = some (address, []) := by
  have read : readGroups 8 0 8 (groupsText groups ++ []) = ((groups, false), []) :=
    readGroups_text .ended (by simp) (Nat.le_of_eq eight)
  rw [List.append_nil] at read
  unfold readIpv6Addr
  simp [read, eight, whole]

/-- Two colons in the place of zeros. -/
theorem readIpv6Addr_short {front back : List UInt16} {address : IpAddr}
    (fits : front.length + back.length < 8)
    (whole : ofGroups (front ++ List.replicate (8 - front.length - back.length) 0 ++ back) =
      some address) :
    readIpv6Addr (groupsText front ++ ':' :: ':' :: groupsText back) = some (address, []) := by
  have first : readGroups 8 0 8 (groupsText front ++ ':' :: ':' :: groupsText back) =
      ((front, false), ':' :: ':' :: groupsText back) :=
    readGroups_text (.colons (groupsText back)) (by simp [no_dot_groupsText]) (by omega)
  have second : readGroups (8 - (front.length + 1)) 0 (8 - (front.length + 1))
      (groupsText back ++ []) = ((back, false), []) :=
    readGroups_text .ended (by simp) (by omega)
  rw [List.append_nil] at second
  have short : front.length ≠ 8 := by omega
  unfold readIpv6Addr
  simp only [first, short, if_false, Bool.false_eq_true, readGivenChar, if_true, Option.pure_def,
    Option.bind_eq_bind, Option.bind_some, second, whole]

/-- The upper and the lower octet of a group. -/
def octetsOf (group : UInt16) : UInt8 × UInt8 :=
  (UInt8.ofNat (group / 256).toNat, UInt8.ofNat (group % 256).toNat)

theorem toNat_octetsOf (group : UInt16) : (octetsOf group).1.toNat = (group / 256).toNat ∧
    (octetsOf group).2.toNat = (group % 256).toNat := by
  have bound := group.toNat_lt
  have upper : (group / 256).toNat = group.toNat / 256 := UInt16.toNat_div group 256
  have lower : (group % 256).toNat = group.toNat % 256 := UInt16.toNat_mod group 256
  simp only [octetsOf, UInt8.toNat_ofNat']
  omega

theorem groupOf_octetsOf (group : UInt16) : groupOf (octetsOf group).1 (octetsOf group).2 = group := by
  have upper : (group / 256).toNat = group.toNat / 256 := UInt16.toNat_div group 256
  have lower : (group % 256).toNat = group.toNat % 256 := UInt16.toNat_mod group 256
  have value : (group / 256).toNat * 256 + (group % 256).toNat = group.toNat := by omega
  rw [groupOf, (toNat_octetsOf group).1, (toNat_octetsOf group).2, value, UInt16.ofNat_toNat]

/-- Four octets between dots, as the text of two groups. -/
def dottedText (high low : UInt16) : List Char :=
  octetText (octetsOf high).1 ++ '.' :: (octetText (octetsOf high).2 ++ '.' ::
    (octetText (octetsOf low).1 ++ '.' :: octetText (octetsOf low).2))

/-- Two colons, a group of ones and a dotted address. -/
def mappedText (high low : UInt16) : List Char :=
  ':' :: ':' :: 'f' :: 'f' :: 'f' :: 'f' :: ':' :: dottedText high low

theorem readIpv6Addr_mapped (high low : UInt16) :
    readIpv6Addr (mappedText high low) = some (.v6 0 0 0 0 0 0xffff high low, []) := by
  have dotted : readIpv4Addr (dottedText high low) =
      some (((octetsOf high).1, (octetsOf high).2, (octetsOf low).1, (octetsOf low).2), []) := by
    have read := readIpv4Addr_octets (octetsOf high).1 (octetsOf high).2 (octetsOf low).1
      (octetsOf low).2 fun c (head : ([] : List Char).head? = some c) => by cases head
    rwa [List.append_nil] at read
  have front (rest : List Char) : readGroups 8 0 8 (':' :: ':' :: rest) =
      (([], false), ':' :: ':' :: rest) := rfl
  have last : readGroups 7 1 6 (':' :: dottedText high low) = (([high, low], true), []) := by
    have embedded : readSeparator ':' 1 readIpv4Addr (':' :: dottedText high low) =
        some (((octetsOf high).1, (octetsOf high).2, (octetsOf low).1, (octetsOf low).2), []) := dotted
    rw [readGroups]
    simp only [embedded, groupOf_octetsOf, Nat.reduceAdd, Nat.reduceLT, if_true]
  have back : readGroups 7 0 7 ('f' :: 'f' :: 'f' :: 'f' :: ':' :: dottedText high low) =
      (([0xffff, high, low], true), []) := by
    have ones : readSeparator ':' 0 (readNumber 16 4 true 65536)
        ('f' :: 'f' :: 'f' :: 'f' :: ':' :: dottedText high low) =
          some (0xffff, ':' :: dottedText high low) := rfl
    have noOctet : readSeparator ':' 0 readIpv4Addr
        ('f' :: 'f' :: 'f' :: 'f' :: ':' :: dottedText high low) = none := rfl
    rw [readGroups]
    simp only [noOctet, ones, last, Nat.reduceAdd, Nat.reduceLT, if_true]
    rfl
  unfold readIpv6Addr mappedText
  simp only [front, List.length_nil, if_false, Bool.false_eq_true, readGivenChar, if_true,
    Option.pure_def, Option.bind_eq_bind, Option.bind_some, Nat.reduceAdd, Nat.reduceSub, back]
  rfl

/-- An address of eight groups, the longest run of zeros left out. -/
theorem parse_segments {segments : List UInt16} {address : IpAddr} (eight : segments.length = 8)
    (whole : ofGroups segments = some address) :
    ((readIpv4Addr (let (start, length) := longestZeros segments
        if 1 < length then
          segmentsText (segments.take start) ++ "::" ++ segmentsText (segments.drop (start + length))
        else segmentsText segments).toList).map fun ((a, b, c, d), rest) =>
      (IpAddr.v4 a b c d, rest)).or
      (readIpv6Addr (let (start, length) := longestZeros segments
        if 1 < length then
          segmentsText (segments.take start) ++ "::" ++ segmentsText (segments.drop (start + length))
        else segmentsText segments).toList) = some (address, []) := by
  have zeros := longestZeros_spec segments
  generalize longestZeros segments = run at zeros ⊢
  obtain ⟨start, length⟩ := run
  dsimp only
  split
  · next long =>
      have inside : start + length ≤ 8 := by
        have last := zeros (start + length - 1) (by dsimp only; omega) (by dsimp only; omega)
        have bound := (List.getElem?_eq_some_iff.mp last).1
        omega
      have text : (segmentsText (segments.take start) ++ "::" ++
          segmentsText (segments.drop (start + length))).toList =
            groupsText (segments.take start) ++ ':' :: ':' ::
              groupsText (segments.drop (start + length)) := by
        simp [toList_segmentsText]
      have front : (segments.take start).length = start := by simp [eight]; omega
      have back : (segments.drop (start + length)).length = 8 - (start + length) := by simp [eight]
      have plain : '.' ∉ groupsText (segments.take start) ++ ':' :: ':' ::
          groupsText (segments.drop (start + length)) := by simp [no_dot_groupsText]
      have left : 8 - start - (8 - (start + length)) = length := by omega
      rw [text, readIpv4Addr_of_no_dot plain]
      refine readIpv6Addr_short (by omega) ?_
      rw [front, back, left, ← zeros.split]
      exact whole
  · rw [toList_segmentsText, readIpv4Addr_of_no_dot (no_dot_groupsText segments)]
    exact readIpv6Addr_full eight whole

/-- **An address is read back from its text.** -/
theorem IpAddr.parse_display (address : IpAddr) : IpAddr.parse address.display = some address := by
  unfold IpAddr.parse
  suffices read : ((readIpv4Addr address.display.toList).map fun ((a, b, c, d), rest) =>
      (IpAddr.v4 a b c d, rest)).or (readIpv6Addr address.display.toList) = some (address, []) by
    dsimp only
    rw [read]
  unfold IpAddr.display
  split
  · next a b c d =>
      have text : (".".intercalate ([a, b, c, d].map fun octet => toString octet.toNat)).toList =
          octetText a ++ '.' :: (octetText b ++ '.' :: (octetText c ++ '.' :: (octetText d ++ []))) := by
        simp [String.intercalate_cons_cons, octetText]
      rw [text, readIpv4Addr_octets a b c d fun c head => by cases head]
      rfl
  · next high low =>
      have text : ("::ffff:" ++ ".".intercalate ([high / 256, high % 256, low / 256, low % 256].map
          fun octet => toString octet.toNat)).toList = mappedText high low := by
        simp [String.intercalate_cons_cons, mappedText, dottedText, octetText, toNat_octetsOf]
      rw [text, readIpv6Addr_mapped]
      rfl
  · next s0 s1 s2 s3 s4 s5 s6 s7 _ =>
      exact parse_segments rfl rfl

end Omdesky
