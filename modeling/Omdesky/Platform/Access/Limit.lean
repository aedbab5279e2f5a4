/-
**The limit on what the allowlist store reads (`omdesky-platform/src/state.rs`).**

A state file is read up to a limit, but it is written without one.

* `readLimited`, `readJson`: the readers, over the calls they make of the file system.
* `steadyWorld`: the store when every call of the file system succeeds.
* `ok_of_steady`, `steady_write`: then the writer succeeds, and the file holds what it wrote.
* `readable_after_allow_iff`: after an allow that succeeded, the list can be read and changed again
  exactly when the file is within the limit.
-/

import Omdesky.Platform.Access.Document

namespace Omdesky.Platform

open Interaction Interaction.Program

/-! ### The readers -/

/-- `MAX_STATE_BYTES`. -/
def maxStateBytes : Nat := 1024 * 1024

/-- `std::fs::Metadata`, as far as it is looked at. -/
structure Metadata where
  isFile : Bool
  length : Nat
  deriving DecidableEq, Repr

/-- A call for the file of a path. `readToEnd` returns so many bytes at most. -/
inductive ReadCall
  | openFile
  | metadata
  | readToEnd (most : Nat)

/-- The answer to each call. -/
abbrev ReadAnswer : ReadCall → Type
  | .openFile => Except StateError Unit
  | .metadata => Except StateError Metadata
  | .readToEnd _ => Except StateError (List UInt8)

/-- A program that reads and in which `?` returns the first error. -/
abbrev ReadA := ExceptT StateError (Program ReadCall ReadAnswer)

/-- The checks of `read_limited` before it reads. -/
def checkMetadata (limit : Nat) (metadata : Metadata) : Except StateError Unit :=
  if !metadata.isFile then .error .notARegularFile
  else if limit < metadata.length then .error (.tooLarge limit)
  else .ok ()

/-- The check of `read_limited` after it has read. -/
def checkContents (limit : Nat) (contents : List UInt8) : Except StateError (List UInt8) :=
  if limit < contents.length then .error (.tooLarge limit) else .ok contents

/-- `read_limited`. -/
def readLimited (limit : Nat) : ReadA (List UInt8) := do
  let () ← ExceptT.mk (perform ReadCall.openFile)
  let metadata ← ExceptT.mk (perform ReadCall.metadata)
  let () ← ExceptT.mk (.done (checkMetadata limit metadata))
  let contents ← ExceptT.mk (perform (ReadCall.readToEnd (limit + 1)))
  ExceptT.mk (.done (checkContents limit contents))

/-- What the libraries read: a document from bytes, and a timestamp from a document. A document that
is no list of entries has an error of its own. -/
structure Libraries where
  stamps : Stamps
  parse : List UInt8 → Except String Document
  mismatch : Document → String

variable (libraries : Libraries)

/-- `serde_json::from_slice`, for a list of entries. -/
def fromSlice (bytes : List UInt8) : Except StateError (List AllowedController) :=
  match libraries.parse bytes with
  | .error error => .error (.json error)
  | .ok document =>
      match decodeControllers libraries.stamps document with
      | some controllers => .ok controllers
      | none => .error (.json (libraries.mismatch document))

/-- `read_json`. -/
def readJson : ReadA (List AllowedController) := do
  let bytes ← readLimited maxStateBytes
  ExceptT.mk (.done (fromSlice libraries bytes))

/-! ### A file system without failures -/

/-- The reads of a file that is there or is missing. -/
def readWorld : World ReadCall ReadAnswer (Option (List UInt8))
  | .openFile, file, answer, after => after = file ∧
      match file with
      | some _ => answer = .ok ()
      | none => ∃ text, answer = .error (.io .notFound text)
  | .metadata, file, answer, after => after = file ∧
      answer = .ok { isFile := true, length := (file.getD []).length }
  | .readToEnd most, file, answer, after => after = file ∧ answer = .ok ((file.getD []).take most)

/-- The call has succeeded. -/
def Succeeded : (call : FileCall) → FileAnswer call → Prop
  | .newUuid, _ => True
  | .createDir _ _, answer => answer = .ok ()
  | .openNew _ _, answer => answer = .ok ()
  | .write _ _, answer => answer = .ok ()
  | .sync _, answer => answer = .ok ()
  | .rename _ _, answer => answer = .ok ()
  | .syncDirectory _, answer => answer = .ok ()
  | .remove _, answer => answer = .ok ()

/-- The file system as long as every call succeeds. -/
def steadyFiles : World FileCall FileAnswer Files := fun call files answer after =>
  Succeeded call answer ∧ fileWorld call files answer after

/-- The store on a path, as long as every call of the file system succeeds. -/
def steadyWorld (path : StatePath) : World StoreCall StoreAnswer Files
  | .lock, files, (), after => after = files
  | .readJson, files, answer, after => after = files ∧
      ∃ result, answer = some result ∧
        Ends readWorld (readJson libraries).run (files.read path) result (files.read path)
  | .atomicWriteJson controllers, files, answer, after =>
      ∃ result, answer = some result ∧ Ends steadyFiles
        (atomicWriteJson path (serialized libraries.stamps controllers) true).run files result after

/-! ### Reading -/

section Reading

variable {libraries} {path : StatePath} {files after : Files}

/-- What the reader makes of a file that is there. -/
theorem ends_readLimited {limit : Nat} {bytes : List UInt8} {outcome : Except StateError (List UInt8)}
    {reached : Option (List UInt8)} :
    Ends readWorld (readLimited limit).run (some bytes) outcome reached ↔
      outcome = checkContents limit bytes ∧ reached = some bytes := by
  have opened : ∀ answer after, Ends readWorld
      (ExceptT.mk (perform ReadCall.openFile) : ReadA Unit).run (some bytes) answer after ↔
        answer = .ok () ∧ after = some bytes := fun _ _ => ends_perform.trans and_comm
  have looked : ∀ answer after, Ends readWorld
      (ExceptT.mk (perform ReadCall.metadata) : ReadA Metadata).run (some bytes) answer after ↔
        answer = .ok ⟨true, bytes.length⟩ ∧ after = some bytes := fun _ _ => ends_perform.trans and_comm
  have read : ∀ answer after, Ends readWorld
      (ExceptT.mk (perform (ReadCall.readToEnd (limit + 1))) : ReadA (List UInt8)).run (some bytes)
        answer after ↔ answer = .ok (bytes.take (limit + 1)) ∧ after = some bytes :=
    fun _ _ => ends_perform.trans and_comm
  rw [readLimited, ends_run_ok opened, ends_run_ok looked]
  by_cases large : limit < bytes.length
  · have refused : checkMetadata limit ⟨true, bytes.length⟩ = .error (.tooLarge limit) := by
      simp [checkMetadata, large]
    rw [refused, checkContents, if_pos large]
    exact ends_run_error fun _ _ => ends_done
  · have accepted : checkMetadata limit ⟨true, bytes.length⟩ = .ok () := by
      simp [checkMetadata, large]
    have passed : ∀ answer after, Ends readWorld
        (ExceptT.mk (.done (checkMetadata limit ⟨true, bytes.length⟩)) : ReadA Unit).run (some bytes)
          answer after ↔ answer = .ok () ∧ after = some bytes := fun _ _ => accepted ▸ ends_done
    have whole : bytes.take (limit + 1) = bytes := List.take_of_length_le (by omega)
    rw [ends_run_ok passed, ends_run_ok read, whole]
    exact ends_done

/-- A missing file. -/
theorem ends_readLimited_none {limit : Nat} {outcome : Except StateError (List UInt8)}
    {reached : Option (List UInt8)} :
    Ends readWorld (readLimited limit).run none outcome reached ↔
      (∃ text, outcome = .error (.io .notFound text)) ∧ reached = none := by
  rw [readLimited, ends_run_bind]
  constructor
  · rintro (⟨error, rfl, opened⟩ | ⟨value, middle, opened, _⟩)
    · obtain ⟨rfl, text, ⟨⟩⟩ := ends_perform.mp opened
      exact ⟨⟨text, rfl⟩, rfl⟩
    · obtain ⟨_, text, ⟨⟩⟩ := ends_perform.mp opened
  · rintro ⟨⟨text, rfl⟩, rfl⟩
    exact .inl ⟨_, rfl, ends_perform.mpr ⟨rfl, text, rfl⟩⟩

/-- What the store makes of its file. -/
def readable (libraries : Libraries) : Option (List UInt8) → PortResult (List AllowedController)
  | none => .ok []
  | some bytes =>
      (checkContents maxStateBytes bytes >>= fromSlice libraries).mapError (stateError ·.message)

theorem ends_readJson {bytes : List UInt8} {outcome : Except StateError (List AllowedController)}
    {reached : Option (List UInt8)} :
    Ends readWorld (readJson libraries).run (some bytes) outcome reached ↔
      outcome = (checkContents maxStateBytes bytes >>= fromSlice libraries) ∧
        reached = some bytes := by
  rw [readJson]
  cases checked : checkContents maxStateBytes bytes with
  | error error => exact ends_run_error fun _ _ => checked ▸ ends_readLimited
  | ok contents =>
      rw [ends_run_ok fun _ _ => checked ▸ ends_readLimited]
      exact ends_done

theorem ends_readJson_none {outcome : Except StateError (List AllowedController)}
    {reached : Option (List UInt8)} :
    Ends readWorld (readJson libraries).run none outcome reached ↔
      (∃ text, outcome = .error (.io .notFound text)) ∧ reached = none := by
  rw [readJson, ends_run_bind]
  constructor
  · rintro (⟨error, rfl, read⟩ | ⟨value, middle, read, _⟩)
    · obtain ⟨⟨text, ⟨⟩⟩, rfl⟩ := ends_readLimited_none.mp read
      exact ⟨⟨text, rfl⟩, rfl⟩
    · obtain ⟨⟨text, ⟨⟩⟩, _⟩ := ends_readLimited_none.mp read
  · rintro ⟨⟨text, rfl⟩, rfl⟩
    exact .inl ⟨_, rfl, ends_readLimited_none.mpr ⟨⟨text, rfl⟩, rfl⟩⟩

/-- No error of reading a file that is there says that it is missing. -/
theorem read_ne_notFound {bytes : List UInt8} {text : String} :
    (checkContents maxStateBytes bytes >>= fromSlice libraries) ≠ .error (.io .notFound text) := by
  unfold checkContents fromSlice
  split_ifs
  · nofun
  · change (match libraries.parse bytes with
      | .error error => _
      | .ok document => _) ≠ _
    split
    · nofun
    · split <;> nofun

/-- What the store makes of the answer to its read. -/
def readReply : StoreAnswer .readJson → PortResult (List AllowedController)
  | some (.ok controllers) => .ok controllers
  | some (.error (.io .notFound _)) => .ok []
  | some (.error error) => .error (stateError error.message)
  | none => .error (stateError "the allowlist could not be read")

theorem run_readAll : readAll.run = .ask .readJson fun answer => .done (readReply answer) := by
  refine congrArg (Program.ask StoreCall.readJson) (funext fun answer => ?_)
  rcases answer with _ | ⟨error | controllers⟩
  · rfl
  · rcases error with _ | _ | _ | _ | ⟨_ | _, _⟩ | _ <;> rfl
  · rfl

theorem readReply_some {result : Except StateError (List AllowedController)}
    (there : ∀ text, result ≠ .error (.io .notFound text)) :
    readReply (some result) = result.mapError (stateError ·.message) := by
  rcases result with error | controllers
  · rcases error with _ | _ | _ | _ | ⟨_ | _, text⟩ | _
    case io.notFound => exact absurd rfl (there text)
    all_goals rfl
  · rfl

/-- **What the store reads** is determined by the file. -/
theorem ends_readAll {outcome : PortResult (List AllowedController)} {reached : Files} :
    Ends (steadyWorld libraries path) readAll.run files outcome reached ↔
      outcome = readable libraries (files.read path) ∧ reached = files := by
  rw [run_readAll, ends_ask]
  simp only [ends_done]
  constructor
  · rintro ⟨_, _, ⟨rfl, result, rfl, read⟩, rfl, rfl⟩
    cases file : reached.read path with
    | none =>
        obtain ⟨⟨text, rfl⟩, _⟩ := ends_readJson_none.mp (file ▸ read)
        exact ⟨rfl, rfl⟩
    | some bytes =>
        obtain ⟨rfl, _⟩ := ends_readJson.mp (file ▸ read)
        exact ⟨readReply_some fun _ => read_ne_notFound, rfl⟩
  · rintro ⟨rfl, rfl⟩
    cases file : reached.read path with
    | none =>
        have read := @ends_readJson_none libraries |>.mpr ⟨⟨"", rfl⟩, rfl⟩
        exact ⟨_, _, ⟨rfl, _, rfl, file ▸ read⟩, rfl, rfl⟩
    | some bytes =>
        have read := @ends_readJson libraries bytes _ _ |>.mpr ⟨rfl, rfl⟩
        exact ⟨_, _, ⟨rfl, _, rfl, file ▸ read⟩, (readReply_some fun _ => read_ne_notFound).symm, rfl⟩

end Reading

/-! ### Writing -/

section Writing

variable {path : StatePath} {files after : Files}

/-- Every end of the program is a success. -/
def Steady {α : Type} (program : FileA α) : Prop :=
  ∀ files outcome after, Ends steadyFiles program.run files outcome after →
    ∃ value, outcome = .ok value

theorem steady_bind {α β : Type} {first : FileA α} {second : α → FileA β} (early : Steady first)
    (late : ∀ value, Steady (second value)) : Steady (first >>= second) := by
  intro files outcome after run
  obtain ⟨error, rfl, failed⟩ | ⟨value, middle, _, rest⟩ := ends_run_bind.mp run
  · obtain ⟨value, ⟨⟩⟩ := early _ _ _ failed
  · exact late value _ _ _ rest

theorem steady_return {α : Type} {value : α} : Steady (return value) := by
  rintro files outcome after run
  exact ⟨value, (ends_done.mp run).1⟩

theorem steady_openNew {file : Location} {mode : Nat} :
    Steady (io (perform (FileCall.openNew file mode))) :=
  fun _ _ _ run => ⟨(), (ends_perform.mp run).1⟩

theorem steady_write {file : Location} {bytes : List UInt8} :
    Steady (io (perform (FileCall.write file bytes))) :=
  fun _ _ _ run => ⟨(), (ends_perform.mp run).1⟩

theorem steady_writePieces {file : Location} (pieces : List (List UInt8)) :
    Steady (writePieces file pieces) := by
  induction pieces with
  | nil => exact steady_return
  | cons piece pieces ih => exact steady_bind steady_write fun _ => ih

theorem steady_writeAndReplace {temporary : Location} {parent : Directory} {fill : FileA Unit}
    {mode : Nat} (fills : Steady fill) :
    Steady (writeAndReplace temporary path parent fill mode) := by
  refine steady_bind steady_openNew fun _ => steady_bind fills fun _ => ?_
  refine steady_bind (fun _ _ _ run => ⟨(), (ends_perform.mp run).1⟩) fun _ => ?_
  refine steady_bind (fun _ _ _ run => ⟨(), (ends_perform.mp run).1⟩) fun _ => ?_
  exact fun _ _ _ run => ⟨(), (ends_perform.mp run).1⟩

/-- Nothing has to be cleaned up. -/
theorem steady_cleaningUp {temporary : Location} {program : FileA Unit} (succeeds : Steady program) :
    Steady (cleaningUp temporary program) := by
  rintro files outcome after ⟨trace, run⟩
  obtain ⟨before, rest, result, middle, rfl, inner, outer⟩ := runs_bind.mp run
  obtain ⟨value, rfl⟩ := succeeds _ _ _ ⟨_, inner⟩
  exact ⟨(), outer.2.1⟩

/-- **The writer succeeds when every call does**, if the path has a directory and the value can be
serialized. -/
theorem steady_atomicWriteJson {parent : Directory} (inside : path.parent = some parent)
    {value : Serialized} (written : value.error = none) {secret : Bool} :
    Steady (atomicWriteJson path value secret) := by
  unfold atomicWriteJson replaceFile
  rw [inside, written]
  refine steady_bind (fun _ _ _ run => ⟨(), (ends_perform.mp run).1⟩) fun _ => ?_
  refine steady_bind ?_ fun uuid => steady_cleaningUp (steady_writeAndReplace ?_)
  · rintro files outcome after ⟨trace, _, _, _, _, _, run⟩
    exact ⟨_, run.2.1⟩
  · exact steady_bind (steady_writePieces _) fun _ => steady_write

/-- What succeeded holds the new content, in a directory. -/
theorem read_of_atomicWriteJson {value : Serialized} {secret : Bool}
    (run : Ends steadyFiles (atomicWriteJson path value secret).run files (.ok ()) after) :
    after.read path = some value.content ∧ ∃ parent, path.parent = some parent := by
  obtain ⟨trace, run⟩ := run
  have plain : Runs fileWorld (atomicWriteJson path value secret).run files trace (.ok ()) after :=
    run.simulates id fun _ _ _ _ answered => answered.2
  refine ⟨(((AtomicWrite.json path value secret).secures files).runs plain |>.ok rfl).1, ?_⟩
  cases inside : path.parent with
  | some parent => exact ⟨parent, rfl⟩
  | none =>
      unfold atomicWriteJson replaceFile at run
      rw [inside] at run
      cases run.2.1

/-- The file grows by the pieces. -/
theorem ends_writePieces {temporary : Location} {written : List UInt8} (pieces : List (List UInt8))
    (holds : files temporary = some written) :
    ∃ after, Ends steadyFiles (writePieces temporary pieces).run files (.ok ()) after ∧
      after temporary = some (written ++ pieces.flatten) := by
  induction pieces generalizing files written with
  | nil => exact ⟨files, ends_done.mpr ⟨rfl, rfl⟩, by rw [holds, List.flatten_nil, List.append_nil]⟩
  | cons piece pieces ih =>
      obtain ⟨after, rest, grown⟩ := ih (Function.update_self temporary (some (written ++ piece)) files)
      refine ⟨after, ends_run_bind_ok.mpr ⟨(), _, ends_perform.mpr ⟨rfl, written, holds, rfl⟩, rest⟩, ?_⟩
      rw [grown, List.flatten_cons, List.append_assoc]

/-- **A writer can succeed** wherever a temporary name is free. -/
theorem exists_atomicWriteJson {location : Location} (named : path.location = some location)
    {value : Serialized} (written : value.error = none) {secret : Bool} {uuid : Uuid}
    (free : ∀ parent, path.parent = some parent →
      files { directory := parent, name := temporaryName path.fileName uuid } = none) :
    ∃ after, Ends steadyFiles (atomicWriteJson path value secret).run files (.ok ()) after := by
  obtain ⟨pieces, error⟩ := value
  obtain rfl : error = none := written
  obtain ⟨parent, inside⟩ : ∃ parent, path.parent = some parent := by
    cases inside : path.parent with
    | some parent => exact ⟨parent, rfl⟩
    | none => simp [StatePath.location, inside] at named
  let temporary : Location := { directory := parent, name := temporaryName path.fileName uuid }
  obtain ⟨filled, filling, grown⟩ := @ends_writePieces (Function.update files temporary (some []))
    temporary [] pieces (Function.update_self _ _ _)
  refine ⟨Function.update (Function.update (Function.update filled temporary
    (some ([] ++ pieces.flatten ++ newline))) temporary none) location
      (some ([] ++ pieces.flatten ++ newline)), ?_⟩
  have fill : Ends steadyFiles (do
      writePieces temporary pieces
      io (perform (FileCall.write temporary newline)) : FileA Unit).run
        (Function.update files temporary (some [])) (.ok ())
          (Function.update filled temporary (some ([] ++ pieces.flatten ++ newline))) := by
    exact ends_run_bind_ok.mpr ⟨(), _, filling, ends_perform.mpr ⟨rfl, _, grown, rfl⟩⟩
  have whole : ∀ mode, Ends steadyFiles (writeAndReplace temporary path parent (do
      writePieces temporary pieces
      io (perform (FileCall.write temporary newline))) mode).run files (.ok ()) _ := fun mode =>
    ends_run_bind_ok.mpr ⟨(), _, ends_perform.mpr ⟨rfl, free parent inside, rfl⟩,
      ends_run_bind_ok.mpr ⟨(), _, fill, ends_run_bind_ok.mpr ⟨(), _, ends_perform.mpr ⟨rfl, rfl⟩,
        ends_run_bind_ok.mpr ⟨(), _, ends_perform.mpr
          ⟨rfl, _, location, Function.update_self _ _ _, named, rfl⟩, ends_perform.mpr ⟨rfl, rfl⟩⟩⟩⟩⟩
  unfold atomicWriteJson replaceFile
  rw [inside]
  refine ends_run_bind_ok.mpr ⟨(), files, ends_perform.mpr ⟨rfl, rfl⟩, ?_⟩
  refine ends_run_bind_ok.mpr
    ⟨uuid, files, ends_ask.mpr ⟨uuid, files, ⟨trivial, rfl⟩, ends_done.mpr ⟨rfl, rfl⟩⟩, ?_⟩
  obtain ⟨trace, run⟩ := whole (if secret then 0o600 else 0o644)
  exact ⟨trace ++ [], runs_bind.mpr ⟨trace, [], .ok (), _, rfl, run, rfl, rfl, rfl⟩⟩

end Writing

/-! ### After an allow -/

section Allow

variable {libraries} {path : StatePath} {files middle : Files}

/-- Every end of the operation is a success. -/
def Works {α : Type} (libraries : Libraries) (path : StatePath) (operation : StoreA α) (files : Files) :
    Prop :=
  ∀ outcome after, Ends (steadyWorld libraries path) operation.run files outcome after →
    ∃ value, outcome = .ok value

theorem ends_takeLock (outcome : PortResult Unit) (reached : Files) :
    Ends (steadyWorld libraries path) (liftM takeLock : StoreA Unit).run files outcome reached ↔
      outcome = .ok () ∧ reached = files := by
  constructor
  · rintro ⟨_, _, _, _, _, rfl, run⟩
    exact ⟨run.2.1, run.2.2⟩
  · rintro ⟨rfl, rfl⟩
    exact ends_ask.mpr ⟨(), reached, rfl, ends_done.mpr ⟨rfl, rfl⟩⟩

theorem ends_list {outcome : PortResult (List AllowedController)} {reached : Files} :
    Ends (steadyWorld libraries path) list.run files outcome reached ↔
      outcome = readable libraries (files.read path) ∧ reached = files := by
  rw [list, ends_run_ok ends_takeLock]
  exact ends_readAll

theorem works_list_iff : Works libraries path list files ↔
    ∃ controllers, readable libraries (files.read path) = .ok controllers := by
  constructor
  · exact fun works => works _ files (ends_list.mpr ⟨rfl, rfl⟩)
  · rintro ⟨controllers, reads⟩ outcome after run
    exact ⟨controllers, (ends_list.mp run).1.trans reads⟩

/-- A change of what is read, and its replacement. -/
theorem ends_changing {made : List AllowedController → List AllowedController}
    {outcome : PortResult Unit} {after : Files} :
    Ends (steadyWorld libraries path) (do
      let () ← liftM takeLock
      let controllers ← readAll
      writeAll (made controllers) : StoreA Unit).run files outcome after ↔
    Ends (steadyWorld libraries path) (ExceptT.mk (.done (readable libraries (files.read path))) >>=
      fun controllers => writeAll (made controllers) : StoreA Unit).run files outcome after := by
  rw [ends_run_ok ends_takeLock, ends_run_bind, ends_run_bind]
  have same : ∀ outcome reached, Ends (steadyWorld libraries path) readAll.run files outcome reached ↔
      Ends (steadyWorld libraries path) (ExceptT.mk (.done (readable libraries (files.read path))) :
        StoreA (List AllowedController)).run files outcome reached :=
    fun _ _ => ends_readAll.trans ends_done.symm
  simp only [same]

/-- A change that can read the file. -/
theorem ends_change_read {change : AccessChange} {controllers : List AllowedController}
    (reads : readable libraries (files.read path) = .ok controllers) {outcome : PortResult Unit}
    {after : Files} :
    Ends (steadyWorld libraries path) change.program.run files outcome after ↔
      Ends (steadyWorld libraries path) (writeAll (change.apply controllers)).run files outcome
        after := by
  cases change <;>
  · refine ends_changing.trans ?_
    rw [reads]
    exact ends_run_ok fun _ _ => ends_done

/-- A change that cannot. -/
theorem ends_change_unread {change : AccessChange} {error : PortError}
    (reads : readable libraries (files.read path) = .error error) {outcome : PortResult Unit}
    {after : Files} :
    Ends (steadyWorld libraries path) change.program.run files outcome after ↔
      outcome = .error error ∧ after = files := by
  cases change <;>
  · refine ends_changing.trans ?_
    rw [reads]
    exact ends_run_error fun _ _ => ends_done

/-- A replacement that succeeds. -/
theorem ends_writeAll_steady {controllers : List AllowedController} {after : Files} :
    Ends (steadyWorld libraries path) (writeAll controllers).run files (.ok ()) after ↔
      Ends steadyFiles (atomicWriteJson path (serialized libraries.stamps controllers) true).run files
        (.ok ()) after := by
  constructor
  · rintro ⟨_, _, _, _, _, ⟨result, rfl, written⟩, run⟩
    cases result with
    | error error => cases run.2.1
    | ok done =>
        obtain ⟨_, _, rfl⟩ := run
        exact written
  · exact fun written => ends_ask.mpr ⟨some (.ok ()), after, ⟨_, rfl, written⟩, ends_done.mpr ⟨rfl, rfl⟩⟩

theorem works_writeAll {parent : Directory} (inside : path.parent = some parent)
    {controllers : List AllowedController} : Works libraries path (writeAll controllers) files := by
  rintro outcome after ⟨_, _, _, _, _, ⟨result, rfl, written⟩, run⟩
  obtain ⟨_, rfl⟩ := steady_atomicWriteJson inside rfl _ _ _ written
  exact ⟨(), run.2.1⟩

/-- In a directory, a change works when the file can be read. -/
theorem works_change_iff {parent : Directory} (inside : path.parent = some parent)
    {change : AccessChange} : Works libraries path change.program files ↔
      ∃ controllers, readable libraries (files.read path) = .ok controllers := by
  cases reads : readable libraries (files.read path) with
  | error error =>
      refine iff_of_false (fun works => ?_) nofun
      obtain ⟨value, ⟨⟩⟩ := works _ files ((ends_change_unread reads).mpr ⟨rfl, rfl⟩)
  | ok controllers =>
      refine iff_of_true (fun outcome after run => ?_) ⟨controllers, rfl⟩
      exact works_writeAll inside _ _ ((ends_change_read reads).mp run)

/-- The content of a list can be read exactly within the limit. -/
theorem readable_content_iff {controllers : List AllowedController}
    (parses : libraries.parse (serialized libraries.stamps controllers).content =
      .ok (encodeControllers libraries.stamps controllers))
    (kept : KeepsStamps libraries.stamps controllers) :
    (∃ read, readable libraries (some (serialized libraries.stamps controllers).content) = .ok read) ↔
      fileBytes libraries.stamps controllers ≤ maxStateBytes := by
  change (∃ read, Except.mapError _ (checkContents maxStateBytes
    (serialized libraries.stamps controllers).content >>= fromSlice libraries) = .ok read) ↔ _
  rw [checkContents, length_content]
  by_cases large : maxStateBytes < fileBytes libraries.stamps controllers
  · rw [if_pos large]
    exact iff_of_false nofun (Nat.not_le.mpr large)
  · have read : fromSlice libraries (serialized libraries.stamps controllers).content =
        .ok controllers := by
      rw [fromSlice, parses]
      dsimp only
      rw [decodeControllers_encode kept]
    rw [if_neg large]
    refine iff_of_true ⟨controllers, ?_⟩ (Nat.not_lt.mp large)
    exact congrArg _ read

/-- The list after an allow. -/
def allowed (controller : AllowedController) (controllers : List AllowedController) :
    List AllowedController := (AccessChange.allow controller).apply controllers

/-- **After an allow that succeeded**, every further operation works exactly when the new list takes no
more bytes than the reader accepts. -/
theorem readable_after_allow_iff {controllers : List AllowedController} {controller : AllowedController}
    (held : Ends (steadyWorld libraries path) list.run files (.ok controllers) files)
    (succeeded : Ends (steadyWorld libraries path) (allow controller).run files (.ok ()) middle)
    (parses : libraries.parse
      (serialized libraries.stamps (allowed controller controllers)).content =
        .ok (encodeControllers libraries.stamps (allowed controller controllers)))
    (kept : KeepsStamps libraries.stamps (allowed controller controllers)) :
    (Works libraries path list middle ∧
      (∀ next, Works libraries path (allow next) middle) ∧
        ∀ tailnetNodeId, Works libraries path (revoke tailnetNodeId) middle) ↔
      fileBytes libraries.stamps (allowed controller controllers) ≤ maxStateBytes := by
  have reads := (ends_list.mp held).1.symm
  have written : Ends steadyFiles (atomicWriteJson path
      (serialized libraries.stamps (allowed controller controllers)) true).run files (.ok ()) middle :=
    ends_writeAll_steady.mp ((@ends_change_read _ _ _ (.allow controller) _ reads _ _).mp succeeded)
  obtain ⟨content, parent, inside⟩ := read_of_atomicWriteJson written
  have fits := readable_content_iff parses kept
  rw [← fits, ← content]
  constructor
  · exact fun works => works_list_iff.mp works.1
  · intro read
    exact ⟨works_list_iff.mpr read, fun next =>
      (@works_change_iff _ _ _ _ inside (.allow next)).mpr read, fun tailnetNodeId =>
        (@works_change_iff _ _ _ _ inside (.revoke tailnetNodeId)).mpr read⟩

end Allow

/-! ### Two entries -/

/-- An entry from the beginning of 1970 with this label. -/
def labelled (label : String) : AllowedController where
  tailnetNodeId := "nDesk"
  label := some label
  addedAt := 0
  capabilities := ControlCapability.all

/-- The timestamps of such entries: the year, the day, and zeros to the second of the offset. -/
def epochStamps : Stamps where
  write _ := .array ([1970, 1, 0, 0, 0, 0, 0, 0, 0].map .integer)
  read _ := some 0

/-- The libraries, for the file of one such entry. -/
def sampleLibraries (entry : AllowedController) : Libraries where
  stamps := epochStamps
  parse bytes :=
    if bytes = (serialized epochStamps [entry]).content then .ok (encodeControllers epochStamps [entry])
    else .error "expected value at line 1 column 1"
  mismatch _ := "invalid type"

theorem parse_sample (entry : AllowedController) :
    (sampleLibraries entry).parse (serialized epochStamps [entry]).content =
      .ok (encodeControllers epochStamps [entry]) := if_pos rfl

theorem keepsStamps_sample (label : String) : KeepsStamps epochStamps [labelled label] := by
  rintro entry member
  obtain rfl := List.mem_singleton.mp member
  rfl

theorem allowed_nil (entry : AllowedController) : allowed entry [] = [entry] := rfl

/-- The path of the allowlist. -/
def allowlistPath : StatePath where
  parent := some "/access".toByteArray.data.toList
  fileName := some (.text "allowlist.json")

/-- The first allow, when there is no file yet. -/
theorem exists_first_allow (entry : AllowedController) : ∃ middle,
    Ends (steadyWorld (sampleLibraries entry) allowlistPath) (allow entry).run (fun _ => none) (.ok ())
      middle := by
  obtain ⟨middle, written⟩ := @exists_atomicWriteJson allowlistPath (fun _ => none)
    ⟨_, .text "allowlist.json"⟩ rfl
    (serialized epochStamps (without entry.tailnetNodeId [] ++ [entry])) rfl true 0 fun _ _ => rfl
  exact ⟨middle, (@ends_change_read _ _ _ (.allow entry) [] rfl _ _).mpr
    (ends_writeAll_steady.mpr written)⟩

/-- A short label. -/
theorem readable_after_allow_iff_desk : ∃ middle,
    ((Works (sampleLibraries (labelled "desk")) allowlistPath list middle ∧
      (∀ next, Works (sampleLibraries (labelled "desk")) allowlistPath (allow next) middle) ∧
        ∀ tailnetNodeId, Works (sampleLibraries (labelled "desk")) allowlistPath (revoke tailnetNodeId)
          middle) ↔ fileBytes epochStamps (allowed (labelled "desk") []) ≤ maxStateBytes) := by
  obtain ⟨middle, succeeded⟩ := exists_first_allow (labelled "desk")
  refine ⟨middle, readable_after_allow_iff (ends_list.mpr ⟨rfl, rfl⟩) succeeded ?_ ?_⟩
  · rw [allowed_nil]
    exact parse_sample _
  · exact keepsStamps_sample _

/-- A label that takes as many bytes as the reader accepts makes the allowlist unreadable. -/
theorem unreadable_of_label {label : String} (long : maxStateBytes ≤ label.toList.length) : ∃ middle,
    Ends (steadyWorld (sampleLibraries (labelled label)) allowlistPath) (allow (labelled label)).run
      (fun _ => none) (.ok ()) middle ∧
    ¬Works (sampleLibraries (labelled label)) allowlistPath list middle ∧
    ¬Works (sampleLibraries (labelled label)) allowlistPath (revoke "nDesk") middle := by
  obtain ⟨middle, succeeded⟩ := exists_first_allow (labelled label)
  have written : Ends steadyFiles (atomicWriteJson allowlistPath
      (serialized epochStamps [labelled label]) true).run (fun _ => none) (.ok ()) middle :=
    ends_writeAll_steady.mp ((@ends_change_read _ _ _ (.allow (labelled label)) [] rfl _ _).mp succeeded)
  obtain ⟨content, _⟩ := read_of_atomicWriteJson written
  have large : ¬fileBytes epochStamps [labelled label] ≤ maxStateBytes := by
    have counted := @length_le_entryBytes epochStamps (labelled label) label rfl
    simp only [fileBytes, List.map_cons, List.map_nil, List.sum_cons, List.sum_nil]
    omega
  have unread : ¬∃ controllers, readable (sampleLibraries (labelled label))
      (middle.read allowlistPath) = .ok controllers := by
    rw [content]
    exact fun read => large ((readable_content_iff (parse_sample (labelled label))
      (keepsStamps_sample label)).mp read)
  exact ⟨middle, succeeded, fun works => unread (works_list_iff.mp works), fun works =>
    unread ((@works_change_iff _ _ _ _ rfl (.revoke "nDesk")).mp works)⟩

/-- **An allow can make the allowlist unreadable**: it succeeds, and neither a list nor a revoke of the
entry works any more. -/
theorem unreadable_after_allow : ∃ entry, entry = labelled (String.ofList (List.replicate 1048576 'a')) ∧
    ∃ middle, Ends (steadyWorld (sampleLibraries entry) allowlistPath) (allow entry).run
        (fun _ => none) (.ok ()) middle ∧
      ¬Works (sampleLibraries entry) allowlistPath list middle ∧
        ¬Works (sampleLibraries entry) allowlistPath (revoke "nDesk") middle := by
  refine ⟨_, rfl, unreadable_of_label ?_⟩
  rw [String.toList_ofList, List.length_replicate, maxStateBytes]

end Omdesky.Platform
