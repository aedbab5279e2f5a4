/-
**Releases, as they are parsed and compared (`omdesky-protocol/src/release.rs`).**

* `parseComponent_eq_some_iff`: a component is the shortest form of a number that fits.
* `Release`: three numbers, and anything after a dash or a plus; `parse_eq_some_iff`.
* `accepts`: what a build of some release says of another one.
* `release_law`: **releases are parsed exactly as they are written, and the two computers of a pair
  agree** on whether they are compatible.
-/

import Omdesky.Protocol
import Omdesky.Text.Address
import Omdesky.Text.Split

namespace Omdesky

/-! ### Components -/

theorem digitChar_of_isDigit {c : Char} (digit : c.isDigit = true) :
    (c.toNat - 48).digitChar = c := by
  obtain ⟨low, high⟩ : 48 ≤ c.toNat ∧ c.toNat ≤ 57 := Char.isDigit_iff_toNat.mp digit
  apply Char.toNat_inj.mp
  rw [Nat.toNat_digitChar_of_lt_ten (by omega)]
  omega

/-- Digits after a number that is not zero are digits of the number they make. -/
theorem toDigits_ofDigitChars {rest : List Char} (digits : ∀ c ∈ rest, c.isDigit = true)
    {front : Nat} (positive : 0 < front) :
    Nat.toDigits 10 (Nat.ofDigitChars 10 rest front) = Nat.toDigits 10 front ++ rest := by
  induction rest generalizing front with
  | nil => rw [Nat.ofDigitChars_nil, List.append_nil]
  | cons c rest ih =>
      obtain ⟨first, others⟩ := List.forall_mem_cons.mp digits
      obtain ⟨low, high⟩ : 48 ≤ c.toNat ∧ c.toNat ≤ 57 := Char.isDigit_iff_toNat.mp first
      have small : c.toNat - 48 < 10 := by omega
      have last : Nat.toDigits 10 (10 * front + (c.toNat - 48)) = Nat.toDigits 10 front ++ [c] := by
        rw [← Nat.toDigits_append_toDigits (by decide) positive small, Nat.toDigits_of_lt_base small,
          digitChar_of_isDigit first]
      have grown : 0 < 10 * front + (c.toNat - '0'.toNat) := by omega
      rw [Nat.ofDigitChars_cons, ih others grown]
      exact (congrArg (· ++ rest) last).trans (List.append_assoc _ _ _)

/-- Digits without a leading zero are the digits of the number they make. -/
theorem toDigits_of_canonical {component : List Char} (nonempty : component ≠ [])
    (digits : ∀ c ∈ component, c.isDigit = true)
    (canonical : component = ['0'] ∨ component.head? ≠ some '0') :
    Nat.toDigits 10 (Nat.ofDigitChars 10 component 0) = component := by
  rcases canonical with rfl | leading
  · rfl
  · cases component with
    | nil => exact absurd rfl nonempty
    | cons c rest =>
        obtain ⟨first, others⟩ := List.forall_mem_cons.mp digits
        obtain ⟨low, high⟩ : 48 ≤ c.toNat ∧ c.toNat ≤ 57 := Char.isDigit_iff_toNat.mp first
        have other : c.toNat ≠ 48 := fun zero => leading (congrArg some (Char.toNat_inj.mp zero))
        have small : c.toNat - 48 < 10 := by omega
        have positive : 0 < 10 * 0 + (c.toNat - '0'.toNat) := by
          change 0 < 0 + (c.toNat - 48)
          omega
        have single : Nat.toDigits 10 (10 * 0 + (c.toNat - '0'.toNat)) = [c] := by
          rw [Nat.mul_zero, Nat.zero_add]
          exact (Nat.toDigits_of_lt_base small).trans
            (congrArg (fun c => [c]) (digitChar_of_isDigit first))
        rw [Nat.ofDigitChars_cons, toDigits_ofDigitChars others positive, single,
          List.singleton_append]

theorem isCanonical_toDigits (value : Nat) :
    Nat.toDigits 10 value = ['0'] ∨ (Nat.toDigits 10 value).head? ≠ some '0' := by
  rcases Nat.lt_or_ge 1 (Nat.toDigits 10 value).length with long | short
  · exact Or.inr (AddressParser.head_toDigits (by decide) value long)
  · have positive : 0 < (Nat.toDigits 10 value).length :=
      List.length_pos_of_ne_nil Nat.toDigits_ne_nil
    obtain ⟨c, single⟩ := List.length_eq_one_iff.mp (Nat.le_antisymm short positive)
    rw [single]
    by_cases zero : c = '0'
    · exact Or.inl (by rw [zero])
    · exact Or.inr fun first => zero (Option.some.inj first)

/-- **A component is the shortest form of a number that fits 64 bits.** -/
theorem parseComponent_eq_some_iff {component : List Char} {value : Nat} :
    parseComponent component = some value ↔ component = Nat.toDigits 10 value ∧ value < 2 ^ 64 := by
  have folded : component.foldl (fun value c => value * 10 + (c.toNat - '0'.toNat)) 0 =
      Nat.ofDigitChars 10 component 0 := by
    rw [Nat.ofDigitChars_eq_foldl]
    simp only [Nat.mul_comm]
  have condition : (!component.isEmpty && component.all Char.isDigit &&
      (component == ['0'] || component.head? != some '0')) = true ↔
      component ≠ [] ∧ (∀ c ∈ component, c.isDigit = true) ∧
        (component = ['0'] ∨ component.head? ≠ some '0') := by
    simp [and_assoc]
  unfold parseComponent
  rw [folded]
  constructor
  · intro parsed
    split at parsed
    · next canonical =>
        obtain ⟨nonempty, digits, shortest⟩ := condition.mp canonical
        dsimp only at parsed
        split at parsed
        · next small =>
            obtain rfl := Option.some.inj parsed
            exact ⟨(toDigits_of_canonical nonempty digits shortest).symm, small⟩
        · cases parsed
    · cases parsed
  · rintro ⟨rfl, small⟩
    have every : ∀ c ∈ Nat.toDigits 10 value, c.isDigit = true :=
      fun c member => Nat.isDigit_of_mem_toDigits (by decide) (by decide) member
    rw [if_pos (condition.mpr ⟨Nat.toDigits_ne_nil, every, isCanonical_toDigits value⟩),
      Nat.ofDigitChars_ten_toDigits]
    exact if_pos small

/-! ### Releases -/

/-- A release: three numbers, and anything after a dash or a plus. -/
def Release (version : String) (major minor : Nat) : Prop :=
  version.utf8ByteSize ≤ 64 ∧
    ∃ (patch : Nat) (suffix : String), major < 2 ^ 64 ∧ minor < 2 ^ 64 ∧ patch < 2 ^ 64 ∧
      (∀ c ∈ suffix.toList.head?, c = '-' ∨ c = '+') ∧
      version = toString major ++ "." ++ toString minor ++ "." ++ toString patch ++ suffix

/-- The numbers of a release, between dots. -/
def releaseCore (major minor patch : Nat) : List Char :=
  ['.'].intercalate [Nat.toDigits 10 major, Nat.toDigits 10 minor, Nat.toDigits 10 patch]

theorem toList_release (major minor patch : Nat) (suffix : String) :
    (toString major ++ "." ++ toString minor ++ "." ++ toString patch ++ suffix).toList =
      releaseCore major minor patch ++ suffix.toList := by
  simp [releaseCore, List.intercalate_cons_cons]

/-- A character that does not end the numbers of a release. -/
def inCore (c : Char) : Bool := c != '-' && c != '+'

theorem takeWhile_release {core suffix : List Char} (within : ∀ c ∈ core, inCore c = true)
    (ends : ∀ c ∈ suffix.head?, c = '-' ∨ c = '+') : (core ++ suffix).takeWhile inCore = core := by
  refine takeWhile_append_of_stop within fun c first => ?_
  rcases ends c first with rfl | rfl <;> rfl

theorem inCore_releaseCore (major minor patch : Nat) :
    ∀ c ∈ releaseCore major minor patch, inCore c = true := by
  have digits (value : Nat) : ∀ c ∈ Nat.toDigits 10 value, inCore c = true := by
    intro c member
    have digit := Nat.isDigit_of_mem_toDigits (by decide) (by decide) member
    unfold inCore
    rw [Bool.and_eq_true, bne_iff_ne, bne_iff_ne]
    constructor <;> rintro rfl <;> exact absurd digit (by decide)
  have dot : ∀ c ∈ ['.'], inCore c = true := List.forall_mem_singleton.mpr rfl
  simp only [releaseCore, List.intercalate_cons_cons, List.intercalate_singleton,
    List.forall_mem_append]
  exact ⟨⟨digits major, dot⟩, ⟨digits minor, dot⟩, digits patch⟩

theorem splitOn_releaseCore (major minor patch : Nat) :
    (releaseCore major minor patch).splitOn '.' =
      [Nat.toDigits 10 major, Nat.toDigits 10 minor, Nat.toDigits 10 patch] := by
  refine List.splitOn_intercalate '.' (fun digits member inside => ?_) (List.cons_ne_nil _ _)
  have digit : ('.' : Char).isDigit = true := by
    simp only [List.mem_cons, List.not_mem_nil, or_false] at member
    rcases member with rfl | rfl | rfl <;>
      exact Nat.isDigit_of_mem_toDigits (by decide) (by decide) inside
  exact absurd digit (by decide)

/-- The line of the numbers of a version. -/
def parseCore (core : List Char) : Option ReleaseLine :=
  match core.splitOn '.' with
  | [major, minor, patch] => do
      let major ← parseComponent major
      let minor ← parseComponent minor
      let _ ← parseComponent patch
      return { major, minor }
  | _ => none

theorem parse_eq (version : String) :
    ReleaseLine.parse version =
      if version.isEmpty || maxReleaseBytes < version.utf8ByteSize then none
      else parseCore (version.toList.takeWhile inCore) := rfl

/-- Three numbers with dots between them are parsed, and nothing else. -/
theorem parseCore_eq_some_iff {core : List Char} {major minor : Nat} :
    parseCore core = some ⟨major, minor⟩ ↔
      ∃ patch, major < 2 ^ 64 ∧ minor < 2 ^ 64 ∧ patch < 2 ^ 64 ∧
        core = releaseCore major minor patch := by
  constructor
  · intro parsed
    unfold parseCore at parsed
    split at parsed
    · next first second third split =>
        obtain ⟨majorValue, first, parsed⟩ := Option.bind_eq_some_iff.mp parsed
        obtain ⟨minorValue, second, parsed⟩ := Option.bind_eq_some_iff.mp parsed
        obtain ⟨patch, third, parsed⟩ := Option.bind_eq_some_iff.mp parsed
        obtain ⟨rfl, rfl⟩ := ReleaseLine.mk.inj (Option.some.inj parsed)
        obtain ⟨rfl, majorSmall⟩ := parseComponent_eq_some_iff.mp first
        obtain ⟨rfl, minorSmall⟩ := parseComponent_eq_some_iff.mp second
        obtain ⟨rfl, patchSmall⟩ := parseComponent_eq_some_iff.mp third
        refine ⟨patch, majorSmall, minorSmall, patchSmall, ?_⟩
        rw [releaseCore, ← split]
        exact (List.intercalate_splitOn '.').symm
    · cases parsed
  · rintro ⟨patch, majorSmall, minorSmall, patchSmall, rfl⟩
    have component {value : Nat} (small : value < 2 ^ 64) :
        parseComponent (Nat.toDigits 10 value) = some value :=
      parseComponent_eq_some_iff.mpr ⟨rfl, small⟩
    rw [parseCore, splitOn_releaseCore]
    simp only [component majorSmall, component minorSmall, component patchSmall,
      Option.bind_eq_bind, Option.bind_some]
    rfl

/-- **A version is parsed exactly when it is a release.** -/
theorem parse_eq_some_iff {version : String} {major minor : Nat} :
    ReleaseLine.parse version = some ⟨major, minor⟩ ↔ Release version major minor := by
  rw [parse_eq]
  constructor
  · intro parsed
    split at parsed
    · cases parsed
    · next fits =>
        have short : version.utf8ByteSize ≤ 64 := Nat.not_lt.mp fun long =>
          fits (Bool.or_eq_true_iff.mpr (Or.inr (decide_eq_true long)))
        obtain ⟨patch, majorSmall, minorSmall, patchSmall, core⟩ := parseCore_eq_some_iff.mp parsed
        refine ⟨short, patch, String.ofList (version.toList.dropWhile inCore), majorSmall,
          minorSmall, patchSmall, fun c head => ?_, String.toList_inj.mp ?_⟩
        · rw [String.toList_ofList] at head
          have stops := List.head?_dropWhile_not inCore version.toList
          rw [Option.mem_def.mp head] at stops
          simpa [inCore, or_iff_not_imp_left] using stops
        · rw [toList_release, ← core, String.toList_ofList, List.takeWhile_append_dropWhile]
  · rintro ⟨short, patch, suffix, majorSmall, minorSmall, patchSmall, ends, rfl⟩
    have nonempty : (toString major ++ "." ++ toString minor ++ "." ++ toString patch ++
        suffix).isEmpty = false := by
      simp
    rw [nonempty, Bool.false_or, if_neg (by simpa [maxReleaseBytes] using short), toList_release,
      takeWhile_release (inCore_releaseCore major minor patch) ends]
    exact parseCore_eq_some_iff.mpr ⟨patch, majorSmall, minorSmall, patchSmall, rfl⟩

/-! ### Two computers -/

/-- `is_compatible_release` in a build of this release. -/
def accepts (release version : String) : Bool :=
  match ReleaseLine.parse release with
  | some current => ReleaseLine.parse version == some current
  | none => false

theorem isCompatibleRelease_eq_accepts : isCompatibleRelease = accepts release := rfl

theorem accepts_iff {release version : String} {current line : ReleaseLine}
    (first : ReleaseLine.parse release = some current)
    (second : ReleaseLine.parse version = some line) :
    accepts release version = true ↔ current = line := by
  rw [accepts, first, second]
  exact beq_iff_eq.trans (Option.some_inj.trans eq_comm)

/-- **Releases are parsed and compared as documented.** -/
theorem release_law :
    (∀ version major minor, ReleaseLine.parse version = some ⟨major, minor⟩ ↔
      Release version major minor) ∧
    isCompatibleRelease = accepts release ∧
    ∀ here there major minor major' minor', Release here major minor → Release there major' minor' →
      (accepts here there = true ↔ major = major' ∧ minor = minor') ∧
        (accepts there here = true ↔ major = major' ∧ minor = minor') := by
  refine ⟨fun _ _ _ => parse_eq_some_iff, isCompatibleRelease_eq_accepts, ?_⟩
  intro here there major minor major' minor' first second
  have same : (⟨major, minor⟩ : ReleaseLine) = ⟨major', minor'⟩ ↔ major = major' ∧ minor = minor' :=
    ReleaseLine.mk.injEq _ _ _ _ ▸ Iff.rfl
  have first := parse_eq_some_iff.mpr first
  have second := parse_eq_some_iff.mpr second
  exact ⟨(accepts_iff first second).trans same,
    (accepts_iff second first).trans (eq_comm.trans same)⟩

/-- A patch and a suffix change nothing. -/
theorem release_law_patch :
    accepts "0.2.0" "0.2.17-rc.1" = true ∧ accepts "0.2.17-rc.1" "0.2.0" = true := by
  have first : Release "0.2.0" 0 2 :=
    ⟨by decide, 0, "", by decide, by decide, by decide,
      fun c head => absurd (show none = some c from head) (Option.some_ne_none c).symm, by decide⟩
  have second : Release "0.2.17-rc.1" 0 2 :=
    ⟨by decide, 17, "-rc.1", by decide, by decide, by decide,
      fun _ dash => Or.inl (Option.some.inj dash).symm, by decide⟩
  have agreed := release_law.2.2 _ _ _ _ _ _ first second
  exact ⟨agreed.1.mpr ⟨rfl, rfl⟩, agreed.2.mpr ⟨rfl, rfl⟩⟩

end Omdesky
