/-
**The version of Omarchy (`omdesky-platform/src/omarchy.rs`).**

* `parsePackageVersion`: the version in what the package manager prints of the package.
* `parsePackageVersion_package`: **the version of a package is read back from its line**, and refused
  unless it is a version 4.
* `major_of_parsePackageVersion`: no other version is ever accepted.
-/

import Omdesky.Ports
import Omdesky.Text.Split

namespace Omdesky.Platform

/-- `OmarchyVersion`. -/
structure OmarchyVersion where
  major : Nat
  minor : Nat
  patch : Nat
  packageRelease : Option String
  deriving DecidableEq, Repr

/-- A part of a version. A part that is missing is zero. -/
def parseVersionPart (value : Option (List Char)) : PortResult Nat :=
  match parseUnsigned UInt32.size (value.getD ['0']) with
  | some number => .ok number
  | none =>
      .error { code := "OMARCHY_VERSION_UNKNOWN", message := "invalid version", retryable := false }

/-- The error of another version. -/
def unsupportedVersion (major : Nat) : PortError where
  code := "OMARCHY_UNSUPPORTED_VERSION"
  message := "Omarchy " ++ toString major ++ " is unsupported, version 4 is required"
  retryable := false

/-- What is in front of the release, and the release. -/
def splitRelease (version : List Char) : List Char × Option String :=
  match rsplitOnce '-' version with
  | some (upstream, release) => (upstream, some (String.ofList release))
  | none => (version, none)

/-- The version in front of the release. -/
def parseUpstream (upstream : List Char) (packageRelease : Option String) : PortResult OmarchyVersion := do
  let parts := upstream.splitOn '.'
  let major ← parseVersionPart parts[0]?
  let minor ← parseVersionPart parts[1]?
  let patch ← parseVersionPart parts[2]?
  if major = 4 then return { major, minor, patch, packageRelease }
  else throw (unsupportedVersion major)

/-- `parse_package_version`. -/
def parsePackageVersion (output : String) : PortResult OmarchyVersion :=
  match splitWhitespace output.toList with
  | _ :: version :: _ => parseUpstream (splitRelease version).1 (splitRelease version).2
  | _ =>
      .error
        { code := "OMARCHY_VERSION_UNKNOWN", message := "invalid package output", retryable := false }

/-! ### A package -/

/-- The version in front of the release, in digits. -/
def OmarchyVersion.upstream (version : OmarchyVersion) : List Char :=
  Nat.toDigits 10 version.major ++ '.' :: (Nat.toDigits 10 version.minor ++
    '.' :: Nat.toDigits 10 version.patch)

/-- The whole version of a package. -/
def OmarchyVersion.text (version : OmarchyVersion) : List Char :=
  version.upstream ++ (version.packageRelease.map fun release => '-' :: release.toList).getD []

/-- A version that a package can have. -/
structure OmarchyVersion.Plain (version : OmarchyVersion) : Prop where
  major : version.major < UInt32.size
  minor : version.minor < UInt32.size
  patch : version.patch < UInt32.size
  release : ∀ release ∈ version.packageRelease, '-' ∉ release.toList

section Package

variable {version : OmarchyVersion}

theorem isDigit_of_mem {number : Nat} {c : Char} (member : c ∈ Nat.toDigits 10 number) :
    c.isDigit = true :=
  Nat.isDigit_of_mem_toDigits (by decide) (by decide) member

theorem dash_not_mem_upstream : '-' ∉ version.upstream := by
  have digits : ∀ number : Nat, '-' ∉ Nat.toDigits 10 number := fun number member =>
    absurd (isDigit_of_mem member) (by decide)
  simp [OmarchyVersion.upstream, digits]

theorem splitOn_upstream : version.upstream.splitOn '.' =
    [Nat.toDigits 10 version.major, Nat.toDigits 10 version.minor, Nat.toDigits 10 version.patch] := by
  have plain : ∀ part ∈ [Nat.toDigits 10 version.major, Nat.toDigits 10 version.minor,
      Nat.toDigits 10 version.patch], '.' ∉ part := by
    intro part listed member
    simp only [List.mem_cons, List.not_mem_nil, or_false] at listed
    rcases listed with rfl | rfl | rfl <;> exact absurd (isDigit_of_mem member) (by decide)
  have joined := List.splitOn_intercalate '.' plain (List.cons_ne_nil _ _)
  unfold OmarchyVersion.upstream
  simpa only [List.intercalate, List.intersperse, List.flatten_cons, List.flatten_nil,
    List.append_nil, List.singleton_append] using joined

/-- The release is split off. -/
theorem splitRelease_text (plain : version.Plain) :
    splitRelease version.text = (version.upstream, version.packageRelease) := by
  unfold splitRelease OmarchyVersion.text
  cases written : version.packageRelease with
  | none =>
      rw [Option.map_none, Option.getD_none, List.append_nil, rsplitOnce_eq_none dash_not_mem_upstream]
  | some release =>
      rw [Option.map_some, Option.getD_some,
        rsplitOnce_append (plain.release release written) version.upstream]
      exact congrArg (fun text => (version.upstream, some text)) String.ofList_toList

/-- The parts are read back. -/
theorem parseUpstream_upstream (plain : version.Plain) :
    parseUpstream version.upstream version.packageRelease =
      if version.major = 4 then .ok version else .error (unsupportedVersion version.major) := by
  have part : ∀ number : Nat, number < UInt32.size →
      parseVersionPart (some (Nat.toDigits 10 number)) = .ok number := by
    intro number small
    rw [parseVersionPart, Option.getD_some, parseUnsigned_toDigits small]
  unfold parseUpstream
  rw [splitOn_upstream]
  simp only [List.getElem?_cons_zero, List.getElem?_cons_succ, part _ plain.major,
    part _ plain.minor, part _ plain.patch]
  rfl

theorem major_of_parseUpstream {upstream : List Char} {packageRelease : Option String}
    (read : parseUpstream upstream packageRelease = .ok version) : version.major = 4 := by
  unfold parseUpstream at read
  dsimp only at read
  cases major : parseVersionPart (upstream.splitOn '.')[0]? with
  | error error => rw [major] at read; cases read
  | ok major' =>
      cases minor : parseVersionPart (upstream.splitOn '.')[1]? with
      | error error => rw [major, minor] at read; cases read
      | ok minor' =>
          cases patch : parseVersionPart (upstream.splitOn '.')[2]? with
          | error error => rw [major, minor, patch] at read; cases read
          | ok patch' =>
              rw [major, minor, patch] at read
              change (if major' = 4 then _ else _) = _ at read
              split at read
              · next four =>
                  obtain rfl := Except.ok.inj read
                  exact four
              · cases read

/-- **No other version is ever accepted.** -/
theorem major_of_parsePackageVersion {output : String}
    (read : parsePackageVersion output = .ok version) : version.major = 4 := by
  unfold parsePackageVersion at read
  split at read
  · exact major_of_parseUpstream read
  · cases read

/-- **The version of a package is read back** from an output that begins with its name and version. -/
theorem parsePackageVersion_package {name : List Char} {others : List (List Char)} {output : String}
    (plain : version.Plain) (spelled : Words (name :: version.text :: others) output.toList) :
    parsePackageVersion output =
      if version.major = 4 then .ok version else .error (unsupportedVersion version.major) := by
  rw [parsePackageVersion, splitWhitespace_of_words spelled]
  dsimp only
  rw [splitRelease_text plain]
  exact parseUpstream_upstream plain

end Package

end Omdesky.Platform
