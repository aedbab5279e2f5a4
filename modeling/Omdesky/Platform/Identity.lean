/-
**The identity of a node (`omdesky-platform/src/identity.rs`).**

* `NodeIdentity.loadOrCreate`: the identity in the file, or a new one that is written there.
* `identityWorld`: the file system. Every call may fail, and a file is read as it is or not at all.
* `Held`: the invariant of all starts. What was ever returned is what the file says.
* `identity_law`: **a node has one identity**, however often the agent is started, wherever it is
  stopped, and whatever fails; and a file that was there is never touched.
-/

import Omdesky.Interaction.Restart
import Omdesky.Platform.Access.Limit

namespace Omdesky.Platform

open Interaction Interaction.Program Json

/-! ### The code -/

/-- `NodeIdentity`. -/
structure NodeIdentity where
  nodeId : Uuid
  deriving DecidableEq, Repr

variable (libraries : Libraries) (texts : Texts)

namespace NodeIdentity

/-- The document of an identity. -/
def encode (identity : NodeIdentity) : Document :=
  .object [("node_id", .string (texts.uuid identity.nodeId))]

/-- What is read of an identity. -/
def decode (value : Document) : Option NodeIdentity := do
  let fields ← members ["node_id"] value
  return ⟨← requiredField "node_id" (fun text => asString text >>= texts.readUuid) fields⟩

/-- What the serializer writes for an identity. -/
def serialized (identity : NodeIdentity) : Serialized where
  pieces := (pretty nofun 0 (encode texts identity)).map (utf8 ∘ pieceText)
  error := none

/-- `serde_json::from_slice`, for an identity. -/
def fromSlice (bytes : List UInt8) : Except StateError NodeIdentity :=
  match libraries.parse bytes with
  | .error error => .error (.json error)
  | .ok document =>
      match decode texts document with
      | some identity => .ok identity
      | none => .error (.json (libraries.mismatch document))

end NodeIdentity

/-- A call of `load_or_create`. -/
inductive IdentityCall
  | «exists»
  | newId
  | read (call : ReadCall)
  | file (call : FileCall)

/-- The answer to each call. -/
abbrev IdentityAnswer : IdentityCall → Type
  | .exists => Bool
  | .newId => Uuid
  | .read call => ReadAnswer call
  | .file call => FileAnswer call

/-- A program that loads or creates, in which `?` returns the first error. -/
abbrev IdentityA := ExceptT StateError (Program IdentityCall IdentityAnswer)

/-- `read_json`, for an identity. -/
def readIdentity : IdentityA NodeIdentity := do
  let bytes ← ExceptT.mk (within IdentityCall.read (readLimited maxStateBytes).run)
  ExceptT.mk (.done (NodeIdentity.fromSlice libraries texts bytes))

/-- `NodeIdentity::load_or_create`. -/
def NodeIdentity.loadOrCreate (path : StatePath) : IdentityA NodeIdentity := do
  if ← liftM (perform IdentityCall.exists : Program IdentityCall IdentityAnswer Bool) then
    readIdentity libraries texts
  else
    let nodeId ← liftM (perform IdentityCall.newId : Program IdentityCall IdentityAnswer Uuid)
    let identity : NodeIdentity := { nodeId }
    ExceptT.mk (within IdentityCall.file
      (atomicWriteJson path (identity.serialized texts) false).run)
    return identity

/-! ### The surroundings -/

/-- The file system, for a file that is read as it is or not at all. New identifiers are `drawn` from
those that the libraries can read back. -/
def identityWorld (path : StatePath) (drawn : Uuid → Prop) : World IdentityCall IdentityAnswer Files
  | .exists, files, answer, after => after = files ∧ answer = (files.read path).isSome
  | .newId, files, answer, after => after = files ∧ drawn answer
  | .read .openFile, files, answer, after => after = files ∧
      (answer = .ok () → (files.read path).isSome)
  | .read .metadata, files, _, after => after = files
  | .read (.readToEnd most), files, answer, after => after = files ∧
      ∀ bytes, answer = .ok bytes → bytes = ((files.read path).getD []).take most
  | .file call, files, answer, after => fileWorld call files answer after

/-- The libraries read back the identities they have written. -/
structure Keeps (drawn : Uuid → Prop) : Prop where
  parse : ∀ nodeId, drawn nodeId →
    libraries.parse (NodeIdentity.serialized texts ⟨nodeId⟩).content = .ok (NodeIdentity.encode texts ⟨nodeId⟩)
  uuid : ∀ nodeId, drawn nodeId → texts.readUuid (texts.uuid nodeId) = some nodeId

/-! ### One start -/

section Start

variable {libraries} {texts} {path : StatePath} {drawn : Uuid → Prop} {initial files : Files}

/-- An identity is read back from what was written. -/
theorem fromSlice_content (keeps : Keeps libraries texts drawn) {nodeId : Uuid}
    (here : drawn nodeId) :
    NodeIdentity.fromSlice libraries texts (NodeIdentity.serialized texts ⟨nodeId⟩).content =
      .ok ⟨nodeId⟩ := by
  have decoded : NodeIdentity.decode texts (NodeIdentity.encode texts ⟨nodeId⟩) = some ⟨nodeId⟩ := by
    rw [NodeIdentity.encode, NodeIdentity.decode, members, Option.bind_eq_bind, Option.bind_some]
    simp [requiredField, field, asString, keeps.uuid nodeId here]
  rw [NodeIdentity.fromSlice, keeps.parse nodeId here]
  dsimp only
  rw [decoded]

/-- **Reading** leaves the files alone, and what is read is what the file holds. -/
theorem secures_readLimited {limit : Nat} {past : List (Event IdentityCall IdentityAnswer)} :
    Secures (identityWorld path drawn) (fun after => after = files)
      (fun _ result after => after = files ∧
        ∀ bytes, result = .ok bytes → files.read path = some bytes) past
      (within IdentityCall.read (readLimited limit).run) files := by
  refine secures_ask rfl ?_
  rintro (error | _) after ⟨rfl, there⟩
  · exact secures_done rfl ⟨rfl, fun _ => nofun⟩
  obtain ⟨whole, holds⟩ := Option.isSome_iff_exists.mp (there rfl)
  refine secures_ask rfl ?_
  rintro (error | metadata) middle rfl
  · exact secures_done rfl ⟨rfl, fun _ => nofun⟩
  change Secures _ _ _ _ (@within ReadCall _ IdentityCall IdentityAnswer IdentityCall.read
    (ExceptT.bindCont _ (checkMetadata limit metadata))) _
  cases checkMetadata limit metadata with
  | error error => exact secures_done rfl ⟨rfl, fun _ => nofun⟩
  | ok passed =>
      refine secures_ask rfl ?_
      rintro (error | contents) last ⟨rfl, read⟩
      · exact secures_done rfl ⟨rfl, fun _ => nofun⟩
      refine secures_done rfl ⟨rfl, fun bytes within => ?_⟩
      change checkContents limit contents = .ok bytes at within
      have taken := read contents rfl
      rw [holds, Option.getD_some] at taken
      rw [checkContents] at within
      split at within
      · cases within
      · rename_i small
        obtain rfl := Except.ok.inj within
        have whole : whole.length ≤ limit := by
          rw [taken, List.length_take] at small
          omega
        rw [holds, taken, List.take_of_length_le (Nat.le_succ_of_le whole)]

end Start

/-- What the starts that ended have returned. -/
abbrev Returned := List (Unit × Except StateError NodeIdentity)

/-- What was ever returned is what the file holds, and a file that was there in the beginning is as it
was. -/
structure Held (path : StatePath) (initial : Files) (past : Returned) (files : Files) : Prop where
  untouched : ∀ bytes, initial.read path = some bytes → files.read path = some bytes
  told : ∀ identity, ((), .ok identity) ∈ past → ∃ bytes, files.read path = some bytes ∧
    NodeIdentity.fromSlice libraries texts bytes = .ok identity

section Law

variable {libraries} {texts} {path : StatePath} {drawn : Uuid → Prop} {initial files : Files}
  {past : Returned}

/-- A start that returned an error has returned no identity. -/
theorem Held.refused (held : Held libraries texts path initial past files) {after : Files}
    (kept : ∀ bytes, files.read path = some bytes → after.read path = some bytes)
    (error : StateError) :
    Held libraries texts path initial (past ++ [((), .error error)]) after where
  untouched := fun bytes there => kept bytes (held.untouched bytes there)
  told := by
    intro identity member
    rcases List.mem_append.mp member with member | member
    · obtain ⟨bytes, there, same⟩ := held.told identity member
      exact ⟨bytes, kept bytes there, same⟩
    · cases List.mem_singleton.mp member

/-- A start that returned what the file holds. -/
theorem Held.answered (held : Held libraries texts path initial past files) {after : Files}
    (kept : ∀ bytes, files.read path = some bytes → after.read path = some bytes)
    {bytes : List UInt8} {identity : NodeIdentity} (there : after.read path = some bytes)
    (reads : NodeIdentity.fromSlice libraries texts bytes = .ok identity) :
    Held libraries texts path initial (past ++ [((), .ok identity)]) after where
  untouched := fun bytes there => kept bytes (held.untouched bytes there)
  told := by
    intro other member
    rcases List.mem_append.mp member with member | member
    · obtain ⟨bytes, there, same⟩ := held.told other member
      exact ⟨bytes, kept bytes there, same⟩
    · cases List.mem_singleton.mp member
      exact ⟨bytes, there, reads⟩

/-- A start that finds the file. -/
theorem secures_readIdentity (held : Held libraries texts path initial past files)
    {events : List (Event IdentityCall IdentityAnswer)} :
    Secures (identityWorld path drawn) (Held libraries texts path initial past)
      (fun _ result after => Held libraries texts path initial (past ++ [((), result)]) after) events
      (readIdentity libraries texts).run files := by
  refine secures_run_bind (secures_readLimited.weaken
    (fun state (same : state = files) => same ▸ held) ?_)
  rintro trace (error | bytes) after ⟨rfl, read⟩
  · exact ⟨held, held.refused (fun _ => id) error⟩
  · refine secures_done held ?_
    cases reads : NodeIdentity.fromSlice libraries texts bytes with
    | error error => exact held.refused (fun _ => id) error
    | ok identity => exact held.answered (fun _ => id) (read bytes rfl) reads

/-- Without a file nothing was ever returned, and any file may come. -/
theorem Held.missing (held : Held libraries texts path initial past files)
    (missing : files.read path = none) (after : Files) :
    Held libraries texts path initial past after where
  untouched := fun bytes there => by cases missing.symm.trans (held.untouched bytes there)
  told := fun identity member => by
    obtain ⟨bytes, there, _⟩ := held.told identity member
    cases missing.symm.trans there

/-- A start that does not find the file writes it. -/
theorem secures_create (keeps : Keeps libraries texts drawn) {nodeId : Uuid} (here : drawn nodeId)
    (held : Held libraries texts path initial past files) (missing : files.read path = none)
    {events : List (Event IdentityCall IdentityAnswer)} :
    Secures (identityWorld path drawn) (Held libraries texts path initial past)
      (fun _ result after => Held libraries texts path initial
        (past ++ [((), result.map fun _ => ⟨nodeId⟩)]) after) events
      (within IdentityCall.file
        (atomicWriteJson path (NodeIdentity.serialized texts ⟨nodeId⟩) false).run) files := by
  have kept (after : Files) : ∀ bytes, files.read path = some bytes → after.read path = some bytes :=
    fun bytes present => by cases missing.symm.trans present
  have replaces : Secures fileWorld (Held libraries texts path initial past)
      (fun _ result after => Held libraries texts path initial
        (past ++ [((), result.map fun _ => ⟨nodeId⟩)]) after) []
      (atomicWriteJson path (NodeIdentity.serialized texts ⟨nodeId⟩) false).run files := by
    refine (AtomicWrite.secures (.json path (NodeIdentity.serialized texts ⟨nodeId⟩) false)
      files).weaken (fun state _ => held.missing missing state) ?_
    rintro trace (error | _) after replaced
    · exact held.refused (kept after) error
    · exact held.answered (kept after) (replaced.ok rfl).1 (fromSlice_content keeps here)
  exact secures_within (fun _ _ _ _ => id) replaces

/-- **One start**, wherever it is stopped. -/
theorem secures_loadOrCreate (keeps : Keeps libraries texts drawn)
    (held : Held libraries texts path initial past files) :
    Secures (identityWorld path drawn) (Held libraries texts path initial past)
      (fun _ result after => Held libraries texts path initial (past ++ [((), result)]) after) []
      (NodeIdentity.loadOrCreate libraries texts path).run files := by
  refine secures_ask held ?_
  rintro found after ⟨rfl, same⟩
  cases there : after.read path with
  | some bytes =>
      rw [there] at same
      subst same
      exact secures_readIdentity held
  | none =>
      rw [there] at same
      subst same
      refine secures_ask held ?_
      rintro nodeId middle ⟨rfl, here⟩
      refine secures_run_bind ((secures_create keeps here held there).weaken (fun _ => id) ?_)
      rintro trace (error | _) final done
      · exact ⟨held.missing there final, done⟩
      · exact secures_done (held.missing there final) done

/-- **A node has one identity.** -/
theorem identity_law (keeps : Keeps libraries texts drawn)
    (lives : Lives (identityWorld path drawn)
      (fun _ : Unit => (NodeIdentity.loadOrCreate libraries texts path).run) initial past files) :
    Held libraries texts path initial past files ∧
      ∀ first second, ((), .ok first) ∈ past → ((), .ok second) ∈ past → first = second := by
  have held : Held libraries texts path initial past files :=
    lives.keeps ⟨fun _ => id, fun _ => by simp⟩ fun _ _ _ held => secures_loadOrCreate keeps held
  refine ⟨held, fun first second one two => ?_⟩
  obtain ⟨bytes, there, reads⟩ := held.told first one
  obtain ⟨others, same, also⟩ := held.told second two
  obtain rfl := Option.some.inj (there.symm.trans same)
  exact Except.ok.inj (reads.symm.trans also)

end Law

/-! ### Two starts -/

/-- The path of the identity. -/
def identityPath : StatePath where
  parent := some "/identity".toByteArray.data.toList
  fileName := some (.text "node.json")

/-- The texts of one identifier. -/
private def oneText : Texts where
  uuid _ := "00000000-0000-4000-8000-000000000007"
  readUuid _ := some 7
  timestamp _ := none
  readTimestamp _ := none

/-- The libraries, for the file of that identity. -/
private def oneLibrary : Libraries where
  stamps := epochStamps
  parse bytes :=
    if bytes = (NodeIdentity.serialized oneText ⟨7⟩).content then .ok (NodeIdentity.encode oneText ⟨7⟩)
    else .error "expected value at line 1 column 1"
  mismatch _ := "invalid type"

private theorem parse_one : oneLibrary.parse (NodeIdentity.serialized oneText ⟨7⟩).content =
    .ok (NodeIdentity.encode oneText ⟨7⟩) := by simp only [oneLibrary, if_true]

private theorem keeps_one : Keeps oneLibrary oneText (· = 7) where
  parse := by
    rintro _ rfl
    exact parse_one
  uuid := by
    rintro _ rfl
    rfl

/-- The first start writes the identity, and the second one reads it. -/
theorem identity_law_twice : ∃ files, files.read identityPath ≠ none ∧
    let past : Returned := [((), .ok ⟨7⟩), ((), .ok ⟨7⟩)]
    Held oneLibrary oneText identityPath (fun _ => none) past files ∧
      ∀ first second, ((), .ok first) ∈ past → ((), .ok second) ∈ past → first = second := by
  obtain ⟨middle, written⟩ := @exists_atomicWriteJson identityPath (fun _ => none)
    ⟨_, .text "node.json"⟩ rfl (NodeIdentity.serialized oneText ⟨7⟩) rfl false 0 fun _ _ => rfl
  obtain ⟨content, _⟩ := read_of_atomicWriteJson written
  obtain ⟨trace, steady⟩ := written
  have plain := steady.simulates id fun _ _ _ _ answered => answered.2
  have small : (NodeIdentity.serialized oneText ⟨7⟩).content.length ≤ maxStateBytes := by
    decide +kernel
  have created : Ends (identityWorld identityPath (· = 7))
      (NodeIdentity.loadOrCreate oneLibrary oneText identityPath).run (fun _ => none) (.ok ⟨7⟩)
      middle :=
    ends_ask.mpr ⟨false, _, ⟨rfl, rfl⟩, ends_ask.mpr ⟨(7 : Uuid), _, ⟨rfl, rfl⟩,
      ends_run_bind.mpr (.inr ⟨(), middle, ends_within.mpr ⟨trace, plain⟩, ends_done.mpr ⟨rfl, rfl⟩⟩)⟩⟩
  have found : Ends (identityWorld identityPath (· = 7))
      (NodeIdentity.loadOrCreate oneLibrary oneText identityPath).run middle (.ok ⟨7⟩) middle := by
    refine ends_ask.mpr ⟨true, _, ⟨rfl, by rw [content]; rfl⟩, ends_run_bind.mpr (.inr
      ⟨(NodeIdentity.serialized oneText ⟨7⟩).content, middle, ends_within.mpr ?_,
        ends_done.mpr ⟨(fromSlice_content keeps_one rfl).symm, rfl⟩⟩)⟩
    refine ends_ask.mpr ⟨.ok (), _, ⟨rfl, fun _ => by rw [content]; rfl⟩, ?_⟩
    refine ends_ask.mpr ⟨.ok ⟨true, 0⟩, _, rfl, ?_⟩
    refine ends_ask.mpr ⟨.ok (NodeIdentity.serialized oneText ⟨7⟩).content, _, ⟨rfl, ?_⟩, ?_⟩
    · rintro _ ⟨⟩
      rw [content, Option.getD_some, List.take_of_length_le (Nat.le_succ_of_le small)]
    · refine ends_done.mpr ⟨?_, rfl⟩
      exact (if_neg (Nat.not_lt_of_le small)).symm
  obtain ⟨_, first⟩ := created
  obtain ⟨_, second⟩ := found
  exact ⟨middle, by rw [content]; exact Option.some_ne_none _,
    identity_law keeps_one (.ended () (.ended () .begun first) second)⟩

end Omdesky.Platform
