/-
**Replacing a state file (`omdesky-platform/src/state.rs`).**

A state file is written under a temporary name in its own directory, synced, renamed over the old
file, and the directory is synced.

* `replaceFile`, `atomicWriteJson`, `atomicWriteBytes`: the two writers, over the calls they make of
  the file system.
* `Files`, `fileWorld`: the file system. Every call may fail, a failed write leaves any beginning of
  what was to be written, and a rename is atomic.
* `Replaced`: what the calls made so far have done to the path and to the temporary file.
  `secures_replaceFile` proves it at the end, and the path whole between any two calls.
* `lawful_iff`: a run keeps the law of an atomic replacement exactly when the directory sync that
  follows the rename does not fail, unless the path held the new content before.
-/

import Mathlib.Logic.Function.Basic
import Omdesky.Core
import Omdesky.Interaction.World

namespace Omdesky.Platform

open Interaction Interaction.Program

/-! ### Paths -/

/-- The text of a UUID: hexadecimal digits in groups of 8, 4, 4, 4 and 12. -/
def hyphenated (uuid : Uuid) : String :=
  let digits := (Nat.toDigits 16 uuid.toNat).leftpad 32 '0'
  "-".intercalate ([(0, 8), (8, 4), (12, 4), (16, 4), (20, 12)].map fun (start, length) =>
    String.ofList ((digits.drop start).take length))

/-- The path of a directory, as bytes. -/
abbrev Directory := List UInt8

/-- The name of a file: text, or bytes that are none. -/
inductive OsName
  | text (value : String)
  | raw (bytes : List UInt8)
  deriving DecidableEq, Repr

/-- `OsStr::to_str`. -/
def OsName.toStr : OsName → Option String
  | .text value => some value
  | .raw _ => none

/-- A file in a directory. -/
structure Location where
  directory : Directory
  name : OsName
  deriving DecidableEq, Repr

/-- `std::path::Path`, by its `parent` and its `file_name`. A root has no parent, and a path that
ends with `..` has no file name. -/
structure StatePath where
  parent : Option Directory
  fileName : Option OsName
  deriving DecidableEq, Repr

/-- The file a path names. -/
def StatePath.location (path : StatePath) : Option Location := do
  return { directory := ← path.parent, name := ← path.fileName }

/-- The name of the temporary file. -/
def temporaryName (fileName : Option OsName) (uuid : Uuid) : OsName :=
  .text ("." ++ (fileName.bind OsName.toStr).getD "state" ++ ".tmp-" ++ hyphenated uuid)

/-! ### The writers -/

/-- `std::io::ErrorKind`, as far as it is looked at. -/
inductive IoErrorKind
  | notFound
  | other
  deriving DecidableEq, Repr

/-- `StateError`. -/
inductive StateError
  | missingParent
  | notARegularFile
  | tooLarge (limit : Nat)
  | notUtf8
  | io (kind : IoErrorKind) (error : String)
  | json (error : String)
  deriving DecidableEq, Repr

/-- The texts of `StateError`. -/
def StateError.message : StateError → String
  | .missingParent => "state path has no parent directory"
  | .notARegularFile => "state path is not a regular file"
  | .tooLarge limit => "state file is larger than " ++ toString limit ++ " bytes"
  | .notUtf8 => "state file is not valid UTF-8"
  | .io _ error => error
  | .json error => error

/-- A call of the file system. -/
inductive FileCall
  | createDir (directory : Directory) (mode : Nat)
  | newUuid
  | openNew (file : Location) (mode : Nat)
  | write (file : Location) (bytes : List UInt8)
  | sync (file : Location)
  | rename (source : Location) (target : StatePath)
  | syncDirectory (directory : Directory)
  | remove (file : Location)

/-- The answer to each call. -/
abbrev FileAnswer : FileCall → Type
  | .newUuid => Uuid
  | _ => Except StateError Unit

/-- A program over the file system. -/
abbrev FileM := Program FileCall FileAnswer

/-- A program over the file system in which `?` returns the first error. -/
abbrev FileA := ExceptT StateError FileM

/-- A call whose error is returned. -/
abbrev io (program : FileM (Except StateError Unit)) : FileA Unit := ExceptT.mk program

/-- `Uuid::new_v4()`. -/
abbrev newUuid : FileM Uuid := perform FileCall.newUuid

/-- `write_and_replace`, for any way to fill the temporary file. -/
def writeAndReplace (temporary : Location) (path : StatePath) (parent : Directory)
    (fill : FileA Unit) (mode : Nat) : FileA Unit := do
  io (perform (FileCall.openNew temporary mode))
  fill
  io (perform (FileCall.sync temporary))
  io (perform (FileCall.rename temporary path))
  io (perform (FileCall.syncDirectory parent))

/-- `if result.is_err() { let _ = fs::remove_file(&temporary); }`. -/
def cleaningUp (temporary : Location) (program : FileA Unit) : FileA Unit := ExceptT.mk do
  match ← program.run with
  | .ok () => return .ok ()
  | .error error =>
      let _ ← perform (FileCall.remove temporary)
      return .error error

/-- The sequence both writers follow. -/
def replaceFile (path : StatePath) (secret : Bool) (fill : Location → FileA Unit) : FileA Unit := do
  match path.parent with
  | none => throw .missingParent
  | some parent =>
      io (perform (FileCall.createDir parent 0o700))
      let uuid ← liftM newUuid
      let temporary : Location :=
        { directory := parent, name := temporaryName path.fileName uuid }
      let mode := if secret then 0o600 else 0o644
      cleaningUp temporary (writeAndReplace temporary path parent (fill temporary) mode)

/-- What a serializer does: the pieces it writes, one after the other, and the error it ends with
if the value cannot be serialized. -/
structure Serialized where
  pieces : List (List UInt8)
  error : Option String
  deriving DecidableEq, Repr

/-- Pieces written one after the other. -/
def writePieces (file : Location) : List (List UInt8) → FileA Unit
  | [] => return
  | piece :: pieces => do
      io (perform (FileCall.write file piece))
      writePieces file pieces

/-- `b"\n"`. -/
def newline : List UInt8 := [10]

/-- `atomic_write_json`. -/
def atomicWriteJson (path : StatePath) (value : Serialized) (secret : Bool) : FileA Unit :=
  replaceFile path secret fun temporary => do
    writePieces temporary value.pieces
    if let some error := value.error then
      throw (.json error)
    io (perform (FileCall.write temporary newline))

/-- `atomic_write_bytes`. -/
def atomicWriteBytes (path : StatePath) (contents : List UInt8) (secret : Bool) : FileA Unit :=
  replaceFile path secret fun temporary => io (perform (FileCall.write temporary contents))

/-! ### The file system -/

/-- The content of every file that exists. -/
abbrev Files := Location → Option (List UInt8)

/-- What a path reads as. -/
def Files.read (files : Files) (path : StatePath) : Option (List UInt8) :=
  path.location.bind files

/-- The file system. -/
def fileWorld : World FileCall FileAnswer Files
  | .openNew file _, files, .ok (), after =>
      files file = none ∧ after = Function.update files file (some [])
  | .write file bytes, files, .ok (), after =>
      ∃ old, files file = some old ∧ after = Function.update files file (some (old ++ bytes))
  | .write file bytes, files, .error _, after =>
      ∃ old part, files file = some old ∧ part <+: bytes ∧
        after = Function.update files file (some (old ++ part))
  | .rename source target, files, .ok (), after =>
      ∃ content location, files source = some content ∧ target.location = some location ∧
        after = Function.update (Function.update files source none) location (some content)
  | .remove file, files, .ok (), after =>
      (files file).isSome ∧ after = Function.update files file none
  | _, files, _, after => after = files

/-! ### The temporary file -/

/-- The name of the temporary file is never the name it stands in for. -/
theorem temporaryName_ne {fileName : OsName} (uuid : Uuid) :
    temporaryName (some fileName) uuid ≠ fileName := by
  intro same
  cases fileName with
  | raw bytes => cases same
  | text value =>
      have text : "." ++ value ++ ".tmp-" ++ hyphenated uuid = value := OsName.text.inj same
      have longer := congrArg String.length text
      simp only [String.length_append] at longer
      have dot : ".".length = 1 := rfl
      omega

/-- Only this file may differ. -/
def Frame (file : Location) (before files : Files) : Prop :=
  ∀ other, other ≠ file → files other = before other

theorem Frame.update {file : Location} {before files : Files} (frame : Frame file before files)
    (content : Option (List UInt8)) : Frame file before (Function.update files file content) := by
  intro other different
  rw [Function.update_of_ne different]
  exact frame other different

theorem Frame.read {file : Location} {before files : Files} (frame : Frame file before files)
    {path : StatePath} (other : ∀ location, path.location = some location → location ≠ file) :
    files.read path = before.read path := by
  unfold Files.read
  cases named : path.location with
  | none => rfl
  | some location => exact frame location (other location named)

/-! ### What a trace says -/

/-- The sync of a directory failed. -/
def SyncFailed (trace : List (Event FileCall FileAnswer)) : Prop :=
  ∃ directory error, ⟨.syncDirectory directory, .error error⟩ ∈ trace

/-- The file was created. -/
def Created (file : Location) (trace : List (Event FileCall FileAnswer)) : Prop :=
  ∃ mode, ⟨.openNew file mode, .ok ()⟩ ∈ trace

/-- The removal of the file failed. -/
def RemovalFailed (file : Location) (trace : List (Event FileCall FileAnswer)) : Prop :=
  ∃ error, ⟨.remove file, .error error⟩ ∈ trace

/-- Since `past`, no directory sync has failed and no file was created. -/
structure Plain (past trace : List (Event FileCall FileAnswer)) : Prop where
  synced : SyncFailed trace → SyncFailed past
  created : ∀ file, Created file trace → Created file past

theorem Plain.refl (past : List (Event FileCall FileAnswer)) : Plain past past :=
  ⟨id, fun _ => id⟩

theorem Plain.trans {past middle trace : List (Event FileCall FileAnswer)}
    (first : Plain past middle) (second : Plain middle trace) : Plain past trace :=
  ⟨first.synced ∘ second.synced, fun file => first.created file ∘ second.created file⟩

theorem syncFailed_append {past : List (Event FileCall FileAnswer)}
    {event : Event FileCall FileAnswer} : SyncFailed (past ++ [event]) ↔
      SyncFailed past ∨ ∃ directory error, event = ⟨.syncDirectory directory, .error error⟩ := by
  simp only [SyncFailed, List.mem_append, List.mem_singleton, exists_or, eq_comm]

theorem created_append {past : List (Event FileCall FileAnswer)}
    {event : Event FileCall FileAnswer} {file : Location} : Created file (past ++ [event]) ↔
      Created file past ∨ ∃ mode, event = ⟨.openNew file mode, .ok ()⟩ := by
  simp only [Created, List.mem_append, List.mem_singleton, exists_or, eq_comm]

/-- One more event of another kind. -/
theorem plain_append {past : List (Event FileCall FileAnswer)} {event : Event FileCall FileAnswer}
    (synced : ∀ directory error, event ≠ ⟨.syncDirectory directory, .error error⟩)
    (created : ∀ file mode, event ≠ ⟨.openNew file mode, .ok ()⟩) :
    Plain past (past ++ [event]) where
  synced failed := (syncFailed_append.mp failed).resolve_right fun ⟨directory, error, same⟩ =>
    synced directory error same
  created file made := (created_append.mp made).resolve_right fun ⟨mode, same⟩ =>
    created file mode same

/-! ### Filling the temporary file -/

/-- The program writes nothing but the temporary file, and `new` to it if it succeeds. -/
def Fills (temporary : Location) (new : List UInt8) (fill : FileA Unit) : Prop :=
  ∀ (before files : Files) past, Frame temporary before files → files temporary = some [] →
    Secures fileWorld (Frame temporary before) (fun trace result after =>
      Plain past trace ∧ Frame temporary before after ∧
        (result = .ok () → after temporary = some new)) past fill.run files

theorem secures_write {temporary : Location} {before files : Files} {written : List UInt8}
    {past : List (Event FileCall FileAnswer)} (piece : List UInt8)
    (frame : Frame temporary before files) (holds : files temporary = some written) :
    Secures fileWorld (Frame temporary before) (fun trace result after =>
      Plain past trace ∧ Frame temporary before after ∧
        (result = .ok () → after temporary = some (written ++ piece)))
      past (io (perform (FileCall.write temporary piece))).run files := by
  refine secures_ask frame ?_
  rintro (error | _) after answered
  · obtain ⟨old, part, _, _, rfl⟩ := answered
    exact secures_done (frame.update _) ⟨plain_append nofun nofun, frame.update _, nofun⟩
  · obtain ⟨old, found, rfl⟩ := answered
    cases holds.symm.trans found
    exact secures_done (frame.update _) ⟨plain_append nofun nofun, frame.update _,
      fun _ => Function.update_self _ _ _⟩

theorem secures_writePieces {temporary : Location} {before files : Files} {written : List UInt8}
    {past : List (Event FileCall FileAnswer)} (pieces : List (List UInt8))
    (frame : Frame temporary before files) (holds : files temporary = some written) :
    Secures fileWorld (Frame temporary before) (fun trace result after =>
      Plain past trace ∧ Frame temporary before after ∧
        (result = .ok () → after temporary = some (written ++ pieces.flatten)))
      past (writePieces temporary pieces).run files := by
  induction pieces generalizing files written past with
  | nil =>
      refine secures_done frame ⟨.refl past, frame, fun _ => ?_⟩
      rwa [List.flatten_nil, List.append_nil]
  | cons piece pieces ih =>
      refine secures_run_bind ((secures_write piece frame holds).weaken (fun _ => id) ?_)
      rintro trace (error | _) after ⟨plain, frame, grown⟩
      · exact ⟨frame, plain, frame, nofun⟩
      · refine (ih frame (grown rfl)).weaken (fun _ => id) ?_
        rintro later result final ⟨more, framed, filled⟩
        exact ⟨plain.trans more, framed, by simpa using filled⟩

/-- The content `atomic_write_json` means to write. -/
def Serialized.content (value : Serialized) : List UInt8 :=
  value.pieces.flatten ++ newline

theorem fills_bytes (temporary : Location) (contents : List UInt8) :
    Fills temporary contents (io (perform (FileCall.write temporary contents))) :=
  fun _ _ _ frame empty => secures_write contents frame empty

theorem fills_json (temporary : Location) (value : Serialized) :
    Fills temporary value.content (do
      writePieces temporary value.pieces
      if let some error := value.error then
        throw (.json error)
      io (perform (FileCall.write temporary newline))) := by
  intro before files past frame empty
  refine secures_run_bind ((secures_writePieces value.pieces frame empty).weaken (fun _ => id) ?_)
  rintro trace (error | _) after ⟨plain, frame, filled⟩
  · exact ⟨frame, plain, frame, nofun⟩
  · cases value.error with
    | some error => exact secures_done frame ⟨plain, frame, nofun⟩
    | none =>
        refine (secures_write _ frame (filled rfl)).weaken (fun _ => id) ?_
        rintro later result final ⟨more, framed, ends⟩
        exact ⟨plain.trans more, framed, ends⟩

/-! ### Replacing the file -/

/-- The path reads as the complete old content or the complete new one. -/
def Whole (path : StatePath) (old : Option (List UInt8)) (new : List UInt8) (files : Files) : Prop :=
  files.read path = old ∨ files.read path = some new

/-- What the calls have done to the path when a writer has its result. -/
structure Renamed (path : StatePath) (old : Option (List UInt8)) (new : List UInt8)
    (trace : List (Event FileCall FileAnswer)) (result : Except StateError Unit) (files : Files) :
    Prop where
  ok : result = .ok () → files.read path = some new ∧ ¬ SyncFailed trace
  error : ∀ error, result = .error error → (files.read path = old ∧ ¬ SyncFailed trace) ∨
    (files.read path = some new ∧ SyncFailed trace)

theorem Renamed.later {path : StatePath} {old : Option (List UInt8)} {new : List UInt8}
    {trace trace' : List (Event FileCall FileAnswer)} {result : Except StateError Unit}
    {files files' : Files} (renamed : Renamed path old new trace result files)
    (kept : files'.read path = files.read path) (synced : SyncFailed trace' ↔ SyncFailed trace) :
    Renamed path old new trace' result files' := by
  refine ⟨?_, ?_⟩
  · rw [kept, synced]
    exact renamed.ok
  · rw [kept, synced]
    exact renamed.error

theorem renamed_error {path : StatePath} {old : Option (List UInt8)} {new : List UInt8}
    {trace : List (Event FileCall FileAnswer)} {error : StateError} {files : Files}
    (kept : files.read path = old) (fine : ¬ SyncFailed trace) :
    Renamed path old new trace (.error error) files :=
  ⟨nofun, fun _ _ => .inl ⟨kept, fine⟩⟩

section Replace

variable {path : StatePath} {temporary : Location} {parent : Directory} {new : List UInt8}
  {fill : FileA Unit} {mode : Nat} {before : Files} {past : List (Event FileCall FileAnswer)}

/-- Once the temporary file is filled: sync, rename, sync the directory. -/
theorem secures_commit {files : Files} (frame : Frame temporary before files)
    (other : ∀ location, path.location = some location → location ≠ temporary)
    (filled : files temporary = some new) (fine : ¬ SyncFailed past)
    (only : ∀ file, Created file past → file = temporary) :
    Secures fileWorld (Whole path (before.read path) new) (fun trace result files =>
      Renamed path (before.read path) new trace result files ∧
        (∀ file, Created file trace → file = temporary) ∧
          (result = .ok () → files temporary = none)) past
      (do
        io (perform (FileCall.sync temporary))
        io (perform (FileCall.rename temporary path))
        io (perform (FileCall.syncDirectory parent)) : FileA Unit).run files := by
  have kept : files.read path = before.read path := frame.read other
  refine secures_ask (.inl kept) ?_
  rintro (error | _) synced answered <;> obtain rfl := answered
  · have plain : Plain past (past ++ [⟨.sync temporary, .error error⟩]) :=
      plain_append nofun nofun
    exact secures_done (.inl kept) ⟨renamed_error kept (fine ∘ plain.synced),
      fun file => only file ∘ plain.created file, nofun⟩
  · have plain : Plain past (past ++ [⟨.sync temporary, .ok ()⟩]) := plain_append nofun nofun
    refine secures_ask (.inl kept) ?_
    rintro (error | _) after answered
    · obtain rfl := answered
      have plain : Plain past (past ++ [⟨.sync temporary, .ok ()⟩] ++
          [⟨.rename temporary path, .error error⟩]) := plain.trans (plain_append nofun nofun)
      exact secures_done (.inl kept) ⟨renamed_error kept (fine ∘ plain.synced),
        fun file => only file ∘ plain.created file, nofun⟩
    · obtain ⟨content, location, found, named, rfl⟩ := answered
      cases filled.symm.trans found
      have plain : Plain past (past ++ [⟨.sync temporary, .ok ()⟩] ++
          [⟨.rename temporary path, .ok ()⟩]) := plain.trans (plain_append nofun nofun)
      have replaced : Files.read (Function.update (Function.update synced temporary none) location
          (some new)) path = some new := by
        simp only [Files.read, named, Option.bind_some, Function.update_self]
      have gone : Function.update (Function.update synced temporary none) location (some new)
          temporary = none := by
        rw [Function.update_of_ne (other location named).symm, Function.update_self]
      refine secures_ask (.inr replaced) ?_
      rintro (error | _) after answered <;> obtain rfl := answered
      · refine secures_done (.inr replaced) ⟨⟨nofun, fun _ _ => .inr ⟨replaced, ?_⟩⟩, ?_, nofun⟩
        · exact syncFailed_append.mpr (.inr ⟨parent, error, rfl⟩)
        · intro file created
          exact only file (plain.created file ((created_append.mp created).resolve_right nofun))
      · refine secures_done (.inr replaced) ⟨⟨fun _ => ⟨replaced, fun failed => ?_⟩, nofun⟩, ?_,
          fun _ => gone⟩
        · exact fine (plain.synced ((syncFailed_append.mp failed).resolve_right nofun))
        · intro file created
          exact only file (plain.created file ((created_append.mp created).resolve_right nofun))

/-- **The path changes at the rename only**, and a failure after it is the directory sync's. -/
theorem secures_writeAndReplace (fills : Fills temporary new fill)
    (other : ∀ location, path.location = some location → location ≠ temporary)
    (fine : ¬ SyncFailed past) (first : ∀ file, ¬ Created file past) :
    Secures fileWorld (Whole path (before.read path) new) (fun trace result files =>
      Renamed path (before.read path) new trace result files ∧
        (∀ file, Created file trace → file = temporary) ∧
          (result = .ok () → files temporary = none)) past
      (writeAndReplace temporary path parent fill mode).run before := by
  have unchanged {files : Files} (frame : Frame temporary before files) :
      files.read path = before.read path := frame.read other
  refine secures_ask (.inl rfl) ?_
  rintro (error | _) opened answered
  · -- nothing was created
    obtain rfl := answered
    have plain : Plain past (past ++ [⟨.openNew temporary mode, .error error⟩]) :=
      plain_append nofun (by rintro file mode ⟨⟩)
    refine secures_done (.inl rfl) ⟨renamed_error rfl (fine ∘ plain.synced), ?_, nofun⟩
    exact fun file created => absurd (plain.created file created) (first file)
  · obtain ⟨_, rfl⟩ := answered
    have frame : Frame temporary before (Function.update before temporary (some [])) :=
      Frame.update (fun _ _ => rfl) _
    have quiet : ¬ SyncFailed (past ++ [⟨.openNew temporary mode, .ok ()⟩]) := by
      rw [syncFailed_append, not_or]
      exact ⟨fine, nofun⟩
    have only : ∀ file, Created file (past ++ [⟨.openNew temporary mode, .ok ()⟩]) →
        file = temporary := by
      intro file created
      obtain ⟨_, same⟩ := (created_append.mp created).resolve_left (first file)
      cases same
      rfl
    refine secures_run_bind ((fills before _ _ frame (Function.update_self _ _ _)).weaken
      (fun _ framed => .inl (unchanged framed)) ?_)
    rintro trace (error | _) files ⟨plain, frame, filled⟩
    · exact ⟨.inl (unchanged frame), renamed_error (unchanged frame) (quiet ∘ plain.synced),
        fun file => only file ∘ plain.created file, nofun⟩
    · exact secures_commit frame other (filled rfl) (quiet ∘ plain.synced)
        fun file => only file ∘ plain.created file

/-- What the calls have done to the path and to the temporary file when a writer returns. -/
structure Replaced (path : StatePath) (old : Option (List UInt8)) (new : List UInt8)
    (trace : List (Event FileCall FileAnswer)) (result : Except StateError Unit) (files : Files) :
    Prop extends Renamed path old new trace result files where
  tidy : ∀ file, Created file trace → files file = none ∨ RemovalFailed file trace

theorem secures_cleaningUp {program : FileA Unit}
    (other : ∀ location, path.location = some location → location ≠ temporary)
    (secure : Secures fileWorld (Whole path (before.read path) new) (fun trace result files =>
      Renamed path (before.read path) new trace result files ∧
        (∀ file, Created file trace → file = temporary) ∧
          (result = .ok () → files temporary = none)) past program.run before) :
    Secures fileWorld (Whole path (before.read path) new) (Replaced path (before.read path) new) past
      (cleaningUp temporary program).run before := by
  refine secures_bind (secure.weaken (fun _ => id) ?_)
  rintro trace (error | _) files ⟨renamed, only, gone⟩
  · have whole : Whole path (before.read path) new files :=
      (renamed.error error rfl).imp And.left And.left
    refine secures_ask whole ?_
    intro answer after answered
    have synced : SyncFailed (trace ++ [⟨.remove temporary, answer⟩]) ↔ SyncFailed trace := by
      rw [syncFailed_append]
      exact or_iff_left nofun
    have removed : ∀ file, Created file (trace ++ [⟨.remove temporary, answer⟩]) →
        file = temporary :=
      fun file created => only file ((created_append.mp created).resolve_right nofun)
    cases answer with
    | error failure =>
        obtain rfl := answered
        refine secures_done whole { renamed.later rfl synced with tidy := fun file created => ?_ }
        obtain rfl := removed file created
        exact .inr ⟨failure, List.mem_append_right _ List.mem_cons_self⟩
    | ok done =>
        obtain ⟨_, rfl⟩ := answered
        have kept : Files.read (Function.update files temporary none) path = files.read path :=
          (Frame.update (fun _ _ => rfl) none).read other
        have still : Whole path (before.read path) new (Function.update files temporary none) := by
          unfold Whole
          rwa [kept]
        refine secures_done still { renamed.later kept synced with tidy := fun file created => ?_ }
        obtain rfl := removed file created
        exact .inl (Function.update_self _ _ _)
  · refine secures_done (.inr (renamed.ok rfl).1) { renamed with tidy := fun file created => ?_ }
    exact .inl (only file created ▸ gone rfl)

/-- **Both writers, from the first call to the last.** -/
theorem secures_replaceFile {secret : Bool} {fill : Location → FileA Unit}
    (fills : ∀ temporary, Fills temporary new (fill temporary)) :
    Secures fileWorld (Whole path (before.read path) new) (Replaced path (before.read path) new) []
      (replaceFile path secret fill).run before := by
  have nothing : Replaced path (before.read path) new [] (.error .missingParent) before :=
    { renamed_error rfl (by simp [SyncFailed]) with tidy := by simp [Created] }
  unfold replaceFile
  split
  · exact secures_done (.inl rfl) nothing
  · rename_i parent holds
    have other (uuid : Uuid) (location : Location) (named : path.location = some location) :
        location ≠ { directory := parent, name := temporaryName path.fileName uuid } := by
      rintro rfl
      simp only [StatePath.location, holds] at named
      cases fileName : path.fileName with
      | none => simp [fileName] at named
      | some name =>
          simp only [fileName, Option.pure_def, Option.bind_eq_bind, Option.bind_some,
            Option.some.injEq, Location.mk.injEq, true_and] at named
          exact temporaryName_ne uuid named.symm
    refine secures_ask (.inl rfl) ?_
    rintro (error | _) made answered <;> obtain rfl := answered
    · exact secures_done (.inl rfl) { renamed_error rfl (by simp [SyncFailed]) with
        tidy := by simp [Created] }
    · refine secures_ask (.inl rfl) fun uuid drawn answered => ?_
      obtain rfl := answered
      exact secures_cleaningUp (other uuid) (secures_writeAndReplace (fills _) (other uuid)
        (by simp [SyncFailed]) (by simp [Created]))

end Replace

/-! ### The law -/

/-- A call of one of the writers. -/
inductive AtomicWrite
  | json (path : StatePath) (value : Serialized) (secret : Bool)
  | bytes (path : StatePath) (contents : List UInt8) (secret : Bool)
  deriving DecidableEq, Repr

namespace AtomicWrite

/-- The file it replaces. -/
def path : AtomicWrite → StatePath
  | .json path _ _ | .bytes path _ _ => path

/-- The new content. -/
def content : AtomicWrite → List UInt8
  | .json _ value _ => value.content
  | .bytes _ contents _ => contents

/-- The program of the call. -/
def program : AtomicWrite → FileA Unit
  | .json path value secret => atomicWriteJson path value secret
  | .bytes path contents secret => atomicWriteBytes path contents secret

/-- **The law of an atomic replacement**, for one run. -/
structure Lawful (write : AtomicWrite) (before : Files) (trace : List (Event FileCall FileAnswer))
    (result : Except StateError Unit) (final : Files) : Prop where
  /-- Wherever the process stops, the path reads as the old content or as the new one. -/
  whole : ∀ stopped, Visits fileWorld write.program.run before stopped →
    stopped.read write.path = before.read write.path ∨
      stopped.read write.path = some write.content
  /-- A success means the new content. -/
  ok : result = .ok () → final.read write.path = some write.content
  /-- An error means the old content. -/
  error : ∀ error, result = .error error → final.read write.path = before.read write.path
  /-- No temporary file is left unless its removal failed. -/
  tidy : ∀ file, Created file trace → final file = none ∨ RemovalFailed file trace

theorem secures (write : AtomicWrite) (before : Files) :
    Secures fileWorld (Whole write.path (before.read write.path) write.content)
      (Replaced write.path (before.read write.path) write.content) [] write.program.run before := by
  cases write with
  | json path value secret =>
      unfold program atomicWriteJson
      exact secures_replaceFile fun temporary => fills_json temporary value
  | bytes path contents secret =>
      unfold program atomicWriteBytes
      exact secures_replaceFile fun temporary => fills_bytes temporary contents

/-- **The law holds unless the directory sync after the rename failed**, and then only if the file
held the new content already. -/
theorem lawful_iff {write : AtomicWrite} {before final : Files}
    {trace : List (Event FileCall FileAnswer)} {result : Except StateError Unit}
    (run : Runs fileWorld write.program.run before trace result final) :
    Lawful write before trace result final ↔
      ¬ SyncFailed trace ∨ before.read write.path = some write.content := by
  have secure := write.secures before
  have replaced := secure.runs run
  rw [List.nil_append] at replaced
  constructor
  · intro lawful
    by_cases failed : SyncFailed trace
    · refine .inr ?_
      cases result with
      | ok done => exact absurd failed (replaced.ok rfl).2
      | error error =>
          obtain ⟨_, fine⟩ | ⟨new, _⟩ := replaced.error error rfl
          · exact absurd failed fine
          · rw [← lawful.error error rfl, new]
    · exact .inl failed
  · intro condition
    refine ⟨fun stopped visits => secure.visits visits, fun ok => (replaced.ok ok).1, ?_,
      replaced.tidy⟩
    intro error returned
    obtain ⟨old, _⟩ | ⟨new, failed⟩ := replaced.error error returned
    · exact old
    · rw [new, condition.resolve_left fun fine => fine failed]

/-! ### A directory that cannot be synced -/

/-- A first write to a file in a directory. -/
def firstWrite : AtomicWrite :=
  .bytes { parent := some [47, 115], fileName := some (.text "allowlist.json") } [91, 93] true

/-- The file is in place. -/
def written : Files :=
  Function.update (Function.update (Function.update (Function.update (fun _ => none)
    ⟨[47, 115], temporaryName (some (.text "allowlist.json")) 0⟩ (some []))
    ⟨[47, 115], temporaryName (some (.text "allowlist.json")) 0⟩ (some [91, 93]))
    ⟨[47, 115], temporaryName (some (.text "allowlist.json")) 0⟩ none)
    ⟨[47, 115], .text "allowlist.json"⟩ (some [91, 93])

theorem ends_unsynced : Ends fileWorld firstWrite.program.run (fun _ => none)
    (.error (.io .other "input/output error")) written := by
  refine ends_ask.mpr ⟨.ok (), _, rfl, ?_⟩
  refine ends_ask.mpr ⟨(0 : Uuid), _, rfl, ?_⟩
  refine ends_ask.mpr ⟨.ok (), _, ⟨rfl, rfl⟩, ?_⟩
  refine ends_ask.mpr ⟨.ok (), _, ⟨[], Function.update_self _ _ _, rfl⟩, ?_⟩
  refine ends_ask.mpr ⟨.ok (), _, rfl, ?_⟩
  refine ends_ask.mpr ⟨.ok (), _, ⟨_, _, Function.update_self _ _ _, rfl, rfl⟩, ?_⟩
  refine ends_ask.mpr ⟨.error (.io .other "input/output error"), _, rfl, ?_⟩
  refine ends_ask.mpr ⟨.error (.io .notFound "no such file"), _, rfl, ?_⟩
  exact ends_done.mpr ⟨rfl, rfl⟩

/-- **A failed sync after the rename**: an error is returned for a write that has taken place. -/
theorem unsynced_not_lawful : ∃ trace error, Runs fileWorld firstWrite.program.run (fun _ => none)
    trace (.error error) written ∧ ¬ Lawful firstWrite (fun _ => none) trace (.error error) written := by
  obtain ⟨trace, run⟩ := ends_unsynced
  refine ⟨trace, _, run, fun lawful => ?_⟩
  have reads : written ⟨[47, 115], .text "allowlist.json"⟩ = some [91, 93] :=
    Function.update_self _ _ _
  cases reads.symm.trans (lawful.error _ rfl)

/-- The condition at that run. -/
theorem lawful_iff_unsynced : ∃ trace error, Runs fileWorld firstWrite.program.run (fun _ => none)
    trace (.error error) written ∧ (Lawful firstWrite (fun _ => none) trace (.error error) written ↔
      ¬ SyncFailed trace ∨ Files.read (fun _ => none) firstWrite.path = some firstWrite.content) := by
  obtain ⟨trace, run⟩ := ends_unsynced
  exact ⟨trace, _, run, lawful_iff run⟩

end AtomicWrite

end Omdesky.Platform
