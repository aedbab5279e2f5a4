/-
**The parser of addresses reads only their characters.**

* `Spans`: from one place of the input to a later one there are characters of an address only.
* `Reads`: a parser spans what it reads; every parser of an address does.
* `isAddressChar_of_parse`: **what is parsed as an address is spelled with letters, digits, dots and
  colons.**
-/

import Omdesky.Text

namespace Omdesky

namespace AddressParser

/-! ### Spans -/

/-- What is read of the input until this rest are characters of an address. -/
def Spans (input rest : List Char) : Prop :=
  ∃ used, input = used ++ rest ∧ ∀ c ∈ used, isAddressChar c = true

theorem Spans.refl (input : List Char) : Spans input input :=
  ⟨[], rfl, List.forall_mem_nil _⟩

theorem Spans.trans {input middle rest : List Char} (first : Spans input middle)
    (second : Spans middle rest) : Spans input rest := by
  obtain ⟨front, rfl, plain⟩ := first
  obtain ⟨back, rfl, plain'⟩ := second
  exact ⟨front ++ back, (List.append_assoc _ _ _).symm, List.forall_mem_append.mpr ⟨plain, plain'⟩⟩

theorem Spans.cons {c : Char} (plain : isAddressChar c = true) (rest : List Char) :
    Spans (c :: rest) rest :=
  ⟨[c], rfl, List.forall_mem_singleton.mpr plain⟩

/-- A parser reads characters of an address. -/
def Reads {α : Type} (parser : Parser α) : Prop :=
  ∀ input value rest, parser input = some (value, rest) → Spans input rest

/-! ### The parsers -/

theorem isAddressChar_of_toDigit {radix value : Nat} {c : Char} (read : toDigit radix c = some value) :
    isAddressChar c = true := by
  obtain ⟨found, _⟩ := Option.filter_eq_some_iff.mp read
  have alphanumeric : c.isAlphanum = true := by
    split at found
    · next digit => simp [Char.isAlphanum, digit]
    · split at found
      · next lower =>
          exact isAlphanum_iff.mpr (Or.inr (Or.inl lower))
      · split at found
        · next upper =>
            exact isAlphanum_iff.mpr (Or.inl upper)
        · cases found
  simp [isAddressChar, alphanumeric]

theorem spans_digits (radix : Nat) (input : List Char) : Spans input (digits radix input).2 := by
  induction input with
  | nil => exact Spans.refl []
  | cons c rest ih =>
      cases read : toDigit radix c with
      | none =>
          have stopped : (digits radix (c :: rest)).2 = c :: rest := by simp [digits, read]
          rw [stopped]
          exact Spans.refl _
      | some digit =>
          have further : (digits radix (c :: rest)).2 = (digits radix rest).2 := by
            simp [digits, read]
          rw [further]
          exact (Spans.cons (isAddressChar_of_toDigit read) rest).trans ih

theorem reads_readNumber (radix maxDigits : Nat) (allowZeroPrefix : Bool) (limit : Nat) :
    Reads (readNumber radix maxDigits allowZeroPrefix limit) := by
  intro input value rest run
  unfold readNumber at run
  dsimp only at run
  split at run
  · cases run
  · split at run
    · cases run
    · split at run
      · obtain ⟨_, rfl⟩ := Prod.mk.inj (Option.some.inj run)
        exact spans_digits radix input
      · cases run

theorem reads_readGivenChar {expected : Char} (plain : isAddressChar expected = true) :
    Reads (readGivenChar expected) := by
  intro input value rest run
  cases input with
  | nil => cases run
  | cons c input =>
      rw [readGivenChar] at run
      split at run
      · next same =>
          obtain ⟨_, rfl⟩ := Prod.mk.inj (Option.some.inj run)
          exact Spans.cons (same ▸ plain) _
      · cases run

theorem reads_readSeparator {α : Type} {separator : Char} (plain : isAddressChar separator = true)
    (index : Nat) {inner : Parser α} (reads : Reads inner) :
    Reads (readSeparator separator index inner) := by
  intro input value rest run
  unfold readSeparator at run
  split at run
  · obtain ⟨⟨_, middle⟩, first, run⟩ := Option.bind_eq_some_iff.mp run
    exact (reads_readGivenChar plain _ _ _ first).trans (reads _ _ _ run)
  · exact reads _ _ _ run

theorem reads_readOctet (index : Nat) : Reads (readOctet index) := by
  intro input value rest run
  obtain ⟨⟨_, middle⟩, read, same⟩ := Option.map_eq_some_iff.mp run
  obtain ⟨_, rfl⟩ := Prod.mk.inj same
  exact reads_readSeparator rfl index (reads_readNumber 10 3 false 256) _ _ _ read

theorem reads_readIpv4Addr : Reads readIpv4Addr := by
  intro input value rest run
  obtain ⟨⟨_, _⟩, first, run⟩ := Option.bind_eq_some_iff.mp run
  obtain ⟨⟨_, _⟩, second, run⟩ := Option.bind_eq_some_iff.mp run
  obtain ⟨⟨_, _⟩, third, run⟩ := Option.bind_eq_some_iff.mp run
  obtain ⟨⟨_, _⟩, fourth, run⟩ := Option.bind_eq_some_iff.mp run
  obtain ⟨_, rfl⟩ := Prod.mk.inj (Option.some.inj run)
  exact (reads_readOctet _ _ _ _ first).trans ((reads_readOctet _ _ _ _ second).trans
    ((reads_readOctet _ _ _ _ third).trans (reads_readOctet _ _ _ _ fourth)))

theorem spans_readGroups (limit index left : Nat) (input : List Char) :
    Spans input (readGroups limit index left input).2 := by
  induction left generalizing index input with
  | zero => exact Spans.refl input
  | succ left ih =>
      unfold readGroups
      dsimp only
      split
      · next embedded =>
          split at embedded
          · exact reads_readSeparator rfl index reads_readIpv4Addr _ _ _ embedded
          · cases embedded
      · split
        · next group rest read =>
            exact (reads_readSeparator rfl index (reads_readNumber 16 4 true 65536) _ _ _ read).trans
              (ih (index + 1) rest)
        · exact Spans.refl input

theorem reads_readIpv6Addr : Reads readIpv6Addr := by
  intro input value rest run
  have front := spans_readGroups 8 0 8 input
  unfold readIpv6Addr at run
  rcases groups : readGroups 8 0 8 input with ⟨⟨head, dotted⟩, middle⟩
  rw [groups] at run front
  dsimp only at run front
  split at run
  · obtain ⟨_, _, run⟩ := Option.bind_eq_some_iff.mp run
    obtain ⟨_, rfl⟩ := Prod.mk.inj (Option.some.inj run)
    exact front
  · split at run
    · cases run
    · obtain ⟨⟨_, second⟩, first, run⟩ := Option.bind_eq_some_iff.mp run
      obtain ⟨⟨_, third⟩, colon, run⟩ := Option.bind_eq_some_iff.mp run
      have colons := (reads_readGivenChar rfl _ _ _ first).trans (reads_readGivenChar rfl _ _ _ colon)
      have back := spans_readGroups (8 - (head.length + 1)) 0 (8 - (head.length + 1)) third
      obtain ⟨_, _, run⟩ := Option.bind_eq_some_iff.mp run
      obtain ⟨_, rfl⟩ := Prod.mk.inj (Option.some.inj run)
      exact front.trans (colons.trans back)

end AddressParser

/-- **What is parsed as an address has characters of an address only.** -/
theorem isAddressChar_of_parse {text : String} {address : IpAddr}
    (parsed : IpAddr.parse text = some address) : ∀ c ∈ text.toList, isAddressChar c = true := by
  have spans : AddressParser.Spans text.toList [] := by
    unfold IpAddr.parse at parsed
    dsimp only at parsed
    split at parsed
    · next whole =>
        rcases Option.or_eq_some_iff.mp whole with dotted | ⟨_, colons⟩
        · obtain ⟨⟨_, _⟩, read, same⟩ := Option.map_eq_some_iff.mp dotted
          obtain ⟨_, rfl⟩ := Prod.mk.inj same
          exact AddressParser.reads_readIpv4Addr _ _ _ read
        · exact AddressParser.reads_readIpv6Addr _ _ _ colons
    · cases parsed
  obtain ⟨used, spelled, plain⟩ := spans
  rw [spelled, List.append_nil]
  exact plain

end Omdesky
