/-
**Any number of writers on one file system (`omdesky-platform/src/state.rs`).**

Every process of Omdesky replaces its files by `atomicWriteJson` and `atomicWriteBytes`, and nothing
orders two of them. Here any number of them run at a time, on any paths, in any order of their calls;
each may be stopped at any call, and every call may fail.

* `hyphenated_injective`, `temporaryName_inj`: two UUIDs never name the same temporary file.
* `Disk`, `diskWorld`: the file system, with the UUIDs that were given and the contents that were put
  in place.
* `owning_replaceFile`: a writer touches its own temporary file and its path, and the path once.
* `reachable_whole`: **whatever the writers do to each other, a path reads as it did in the beginning
  or as the whole content of one of its writers, and is never missing.**
-/

import Omdesky.Interaction.Owning
import Omdesky.Platform.State
import Omdesky.Text.Address

namespace Omdesky.Platform

open Interaction Interaction.Program

/-! ### Names -/

section Names

variable {first second : Uuid}

/-- The digits of a UUID, with the zeros in front. -/
def uuidDigits (uuid : Uuid) : List Char := (Nat.toDigits 16 uuid.toNat).leftpad 32 '0'

/-- The number that digits stand for. -/
def hexValue (digits : List Char) : Nat :=
  digits.foldl (fun value c => value * 16 + (AddressParser.toDigit 16 c).getD 0) 0

theorem hexValue_toDigits (number : Nat) : hexValue (Nat.toDigits 16 number) = number := by
  obtain ⟨values, digits, value⟩ := @AddressParser.toDigits_values 16 (by decide) (by decide) number
  have folded : ∀ (written : List Char) (values : List Nat) (start : Nat),
      written.map (AddressParser.toDigit 16) = values.map some →
        written.foldl (fun value c => value * 16 + (AddressParser.toDigit 16 c).getD 0) start =
          values.foldl (fun value digit => value * 16 + digit) start := by
    intro written
    induction written with
    | nil =>
        intro values start each
        obtain rfl : values = [] := by simpa using each.symm
        rfl
    | cons c written ih =>
        intro values start each
        cases values with
        | nil => simp at each
        | cons digit values =>
            obtain ⟨here, later⟩ := List.cons.inj each
            rw [List.foldl_cons, List.foldl_cons, here, Option.getD_some]
            exact ih values _ later
  rw [hexValue, folded _ _ 0 digits, value]

theorem hexValue_uuidDigits (uuid : Uuid) : hexValue (uuidDigits uuid) = uuid.toNat := by
  have zeros : ∀ count : Nat, (List.replicate count '0').foldl
      (fun value c => value * 16 + (AddressParser.toDigit 16 c).getD 0) 0 = 0 := by
    intro count
    induction count with
    | zero => rfl
    | succ count ih => rw [List.replicate_succ, List.foldl_cons]; exact ih
  rw [uuidDigits, List.leftpad, hexValue, List.foldl_append, zeros]
  exact hexValue_toDigits _

theorem length_uuidDigits (uuid : Uuid) : (uuidDigits uuid).length = 32 := by
  have short : (Nat.toDigits 16 uuid.toNat).length ≤ 32 :=
    (Nat.length_toDigits_le_iff (by decide) (by decide)).mpr uuid.isLt
  rw [uuidDigits, List.length_leftpad]
  omega

theorem isAlphanum_of_mem_uuidDigits {uuid : Uuid} {c : Char} (member : c ∈ uuidDigits uuid) :
    c.isAlphanum = true := by
  rcases List.mem_append.mp member with zero | digit
  · rw [List.eq_of_mem_replicate zero]
    decide
  · exact isAlphanum_of_mem_toDigits (by decide) (by decide) _ _ digit

theorem dash_not_mem_uuidDigits (uuid : Uuid) : '-' ∉ uuidDigits uuid :=
  fun member => absurd (isAlphanum_of_mem_uuidDigits member) (by decide)

/-- The five groups of a UUID. -/
theorem toList_hyphenated (uuid : Uuid) : (hyphenated uuid).toList =
    (uuidDigits uuid).take 8 ++ '-' :: (((uuidDigits uuid).drop 8).take 4 ++
      '-' :: (((uuidDigits uuid).drop 12).take 4 ++ '-' :: (((uuidDigits uuid).drop 16).take 4 ++
        '-' :: ((uuidDigits uuid).drop 20).take 12))) := by
  unfold hyphenated
  have dash : "-".toList = ['-'] := rfl
  simp only [String.toList_intercalate, List.map_cons, List.map_nil, String.toList_ofList, dash,
    List.intercalate, List.intersperse, List.flatten_cons, List.flatten_nil, List.append_nil,
    List.drop_zero, List.singleton_append]
  rfl

/-- Without the dashes, the digits are left. -/
theorem filter_hyphenated (uuid : Uuid) :
    (hyphenated uuid).toList.filter (· != '-') = uuidDigits uuid := by
  have plain : ∀ part : List Char, part.Sublist (uuidDigits uuid) → part.filter (· != '-') = part := by
    intro part within
    refine List.filter_eq_self.mpr fun c member => bne_iff_ne.mpr ?_
    rintro rfl
    exact dash_not_mem_uuidDigits uuid (within.subset member)
  have dashed : ∀ rest : List Char, ('-' :: rest).filter (· != '-') = rest.filter (· != '-') :=
    fun rest => List.filter_cons_of_neg (by decide)
  have piece : ∀ start length, (((uuidDigits uuid).drop start).take length).Sublist (uuidDigits uuid) :=
    fun start length => (List.take_sublist _ _).trans (List.drop_sublist _ _)
  rw [toList_hyphenated]
  simp only [List.filter_append, dashed, plain _ (piece _ _), plain _ (List.take_sublist _ _)]
  have joined : ∀ start length : Nat, ((uuidDigits uuid).drop start).take length ++
      (uuidDigits uuid).drop (start + length) = (uuidDigits uuid).drop start := by
    intro start length
    rw [← List.drop_drop]
    exact List.take_append_drop _ _
  have last : ((uuidDigits uuid).drop 20).take 12 = (uuidDigits uuid).drop 20 :=
    List.take_of_length_le (by rw [List.length_drop, length_uuidDigits])
  rw [last, joined 16 4, joined 12 4, joined 8 4, List.take_append_drop]

theorem isAlphanum_of_mem_hyphenated {uuid : Uuid} {c : Char} (member : c ∈ (hyphenated uuid).toList)
    (other : c ≠ '-') : c.isAlphanum = true := by
  have kept : c ∈ uuidDigits uuid := by
    rw [← filter_hyphenated]
    exact List.mem_filter.mpr ⟨member, bne_iff_ne.mpr other⟩
  exact isAlphanum_of_mem_uuidDigits kept

theorem length_hyphenated (uuid : Uuid) : (hyphenated uuid).toList.length = 36 := by
  rw [toList_hyphenated]
  simp [length_uuidDigits]

/-- **Two UUIDs have two texts.** -/
theorem hyphenated_injective : Function.Injective hyphenated := by
  intro first second same
  have digits : uuidDigits first = uuidDigits second := by
    rw [← filter_hyphenated, ← filter_hyphenated, same]
  have value := congrArg hexValue digits
  rw [hexValue_uuidDigits, hexValue_uuidDigits] at value
  exact BitVec.eq_of_toNat_eq value

/-- **Two UUIDs name two temporary files**, for whatever files they stand in. -/
theorem temporaryName_inj {fileName other : Option OsName} {first second : Uuid}
    (same : temporaryName fileName first = temporaryName other second) : first = second := by
  have text := congrArg String.toList (OsName.text.inj same)
  simp only [String.toList_append] at text
  have ends := List.append_inj_right' text (by rw [length_hyphenated, length_hyphenated])
  exact hyphenated_injective (String.toList_injective ends)

end Names

/-! ### The file system -/

/-- The file system, the UUIDs that were given, and the contents that were put in place, newest first. -/
structure Disk where
  files : Files
  issued : List Uuid
  placed : List (Location × List UInt8)

/-- `fileWorld`, where no UUID is given twice. -/
def diskWorld : World FileCall FileAnswer Disk
  | .newUuid, disk, uuid, after =>
      uuid ∉ disk.issued ∧ after = { disk with issued := uuid :: disk.issued }
  | .rename source target, disk, .ok (), after => ∃ content location,
      disk.files source = some content ∧ target.location = some location ∧
        after = { disk with
          files := Function.update (Function.update disk.files source none) location (some content)
          placed := (location, content) :: disk.placed }
  | call, disk, answer, after => fileWorld call disk.files answer after.files ∧
      after.issued = disk.issued ∧ after.placed = disk.placed

/-- The files change as they do for one writer. -/
theorem fileWorld_of_diskWorld {call : FileCall} {answer : FileAnswer call} {disk after : Disk}
    (answered : diskWorld call disk answer after) : fileWorld call disk.files answer after.files := by
  cases call with
  | newUuid =>
      change after.files = disk.files
      rw [answered.2]
  | rename source target =>
      cases answer with
      | error error => exact answered.1
      | ok _ =>
          obtain ⟨content, location, found, named, rfl⟩ := answered
          exact ⟨content, location, found, named, rfl⟩
  | createDir | openNew | write | sync | syncDirectory | remove => exact answered.1

/-- A temporary file of a UUID. -/
def Temporary (uuid : Uuid) (location : Location) : Prop :=
  ∃ fileName, location.name = temporaryName fileName uuid

/-- A file that is no temporary file. -/
def Lasting (location : Location) : Prop := ∀ uuid, ¬ Temporary uuid location

/-- A writer comes to own the temporary files of the UUID it is given. -/
def temporaries : Ownership FileCall FileAnswer Disk Uuid where
  gives
    | ⟨.newUuid, uuid⟩ => some uuid
    | _ => none
  given disk uuid := uuid ∈ disk.issued
  same uuid first second := ∀ location, Temporary uuid location →
    second.files location = first.files location

/-- What is given stays given, and what was put in place stays on record. -/
structure Grows (first second : Disk) : Prop where
  issued : first.issued ⊆ second.issued
  placed : first.placed ⊆ second.placed

theorem Grows.refl (disk : Disk) : Grows disk disk := ⟨List.Subset.refl _, List.Subset.refl _⟩

theorem Grows.trans {first second third : Disk} (one : Grows first second)
    (two : Grows second third) : Grows first third :=
  ⟨List.Subset.trans one.issued two.issued, List.Subset.trans one.placed two.placed⟩

/-- Every lasting file is as it may be. -/
def Sane (fine : Location → Option (List UInt8) → Prop) (disk : Disk) : Prop :=
  ∀ location, Lasting location → fine location (disk.files location)

/-! ### One call -/

section Calls

variable {fine : Location → Option (List UInt8) → Prop} {uuid : Uuid} {temporary : Location}
  {disk middle after : Disk} {trace : List (Event FileCall FileAnswer)} {α : Type}
  {post : List (Event FileCall FileAnswer) → α → Disk → Prop}

/-- Only this file may differ. -/
structure Only (temporary : Location) (disk after : Disk) : Prop where
  frame : Frame temporary disk.files after.files
  issued : after.issued = disk.issued
  placed : after.placed = disk.placed

theorem Only.grows (only : Only temporary disk after) : Grows disk after :=
  ⟨only.issued ▸ List.Subset.refl _, only.placed ▸ List.Subset.refl _⟩

theorem Only.sane (only : Only temporary disk after) (named : Temporary uuid temporary)
    (sane : Sane fine disk) : Sane fine after := by
  intro location lasting
  have other : location ≠ temporary := fun same => lasting uuid (same ▸ named)
  rw [only.frame location other]
  exact sane location lasting

/-- The temporary files of others are left. -/
theorem Only.spares (only : Only temporary disk after) (named : Temporary uuid temporary)
    {other : Uuid} (different : other ≠ uuid) : temporaries.same other disk after := by
  intro location theirs
  refine only.frame location ?_
  rintro rfl
  obtain ⟨fileName, name⟩ := theirs
  obtain ⟨mine, name'⟩ := named
  exact different (temporaryName_inj (name.symm.trans name'))

/-- **A call that touches nothing but the temporary file.** -/
theorem owning_only {call : FileCall} {next : FileAnswer call → Program FileCall FileAnswer α}
    (own : uuid ∈ temporaries.owned trace) (named : Temporary uuid temporary)
    (only : ∀ disk answer after, diskWorld call disk answer after → Only temporary disk after)
    (rest : ∀ middle answer after, middle.files temporary = disk.files temporary →
      diskWorld call middle answer after →
        Owning temporaries diskWorld (Sane fine) Grows post (trace ++ [⟨call, answer⟩]) (next answer)
          after) :
    Owning temporaries diskWorld (Sane fine) Grows post trace (.ask call next) disk := by
  intro middle answer after spared sane answered
  have local' := only middle answer after answered
  refine ⟨local'.sane named sane, local'.grows, fun other given theirs => ?_,
    rest middle answer after (spared.same uuid own temporary named) answered⟩
  exact local'.spares named fun same => theirs (same ▸ own)

theorem mem_owned_append {event : Event FileCall FileAnswer} (own : uuid ∈ temporaries.owned trace) :
    uuid ∈ temporaries.owned (trace ++ [event]) :=
  Ownership.mem_owned_append.mpr (.inl own)

/-- The files did not change. -/
theorem only_of_same (files : after.files = disk.files) (issued : after.issued = disk.issued)
    (placed : after.placed = disk.placed) : Only temporary disk after :=
  ⟨fun _ _ => congrFun files _, issued, placed⟩

theorem only_update {content : Option (List UInt8)}
    (files : after.files = Function.update disk.files temporary content)
    (issued : after.issued = disk.issued) (placed : after.placed = disk.placed) :
    Only temporary disk after := by
  refine ⟨fun other different => ?_, issued, placed⟩
  rw [files, Function.update_of_ne different]

theorem only_openNew {mode : Nat} {answer : Except StateError Unit}
    (answered : diskWorld (.openNew temporary mode) disk answer after) : Only temporary disk after := by
  obtain ⟨changed, issued, placed⟩ := answered
  cases answer with
  | error error => exact only_of_same changed issued placed
  | ok _ => exact only_update changed.2 issued placed

theorem only_write {bytes : List UInt8} {answer : Except StateError Unit}
    (answered : diskWorld (.write temporary bytes) disk answer after) : Only temporary disk after := by
  obtain ⟨changed, issued, placed⟩ := answered
  cases answer with
  | error error =>
      obtain ⟨old, part, -, -, files⟩ := changed
      exact only_update files issued placed
  | ok _ =>
      obtain ⟨old, -, files⟩ := changed
      exact only_update files issued placed

theorem only_remove {answer : Except StateError Unit}
    (answered : diskWorld (.remove temporary) disk answer after) : Only temporary disk after := by
  obtain ⟨changed, issued, placed⟩ := answered
  cases answer with
  | error error => exact only_of_same changed issued placed
  | ok _ => exact only_update changed.2 issued placed

end Calls

/-! ### Filling the temporary file -/

section Fill

variable {fine : Location → Option (List UInt8) → Prop} {uuid : Uuid} {temporary : Location}
  {disk : Disk} {trace : List (Event FileCall FileAnswer)}

/-- The temporary file is still the writer's, and holds `new` if the program succeeded. -/
def Filled (uuid : Uuid) (temporary : Location) (new : List UInt8)
    (trace : List (Event FileCall FileAnswer)) (result : Except StateError Unit) (disk : Disk) : Prop :=
  uuid ∈ temporaries.owned trace ∧ (result = .ok () → disk.files temporary = some new)

theorem filled_error {new : List UInt8} {error : StateError}
    (own : uuid ∈ temporaries.owned trace) : Filled uuid temporary new trace (.error error) disk :=
  ⟨own, fun same => by cases same⟩

/-- The program fills the temporary file of its writer, among others. -/
def FillsAmong (fine : Location → Option (List UInt8) → Prop) (uuid : Uuid) (temporary : Location)
    (new : List UInt8) (fill : FileA Unit) : Prop :=
  ∀ trace disk, uuid ∈ temporaries.owned trace → disk.files temporary = some [] →
    Owning temporaries diskWorld (Sane fine) Grows (Filled uuid temporary new) trace fill.run disk

theorem owning_write {written : List UInt8} (piece : List UInt8)
    (own : uuid ∈ temporaries.owned trace) (named : Temporary uuid temporary)
    (holds : disk.files temporary = some written) :
    Owning temporaries diskWorld (Sane fine) Grows (Filled uuid temporary (written ++ piece)) trace
      (io (perform (FileCall.write temporary piece))).run disk := by
  refine owning_only own named (fun _ _ _ => only_write) fun middle answer after left answered => ?_
  cases answer with
  | error error => exact filled_error (mem_owned_append own)
  | ok _ =>
      obtain ⟨⟨old, found, files⟩, -, -⟩ := answered
      obtain rfl := Option.some.inj ((left.trans holds).symm.trans found)
      refine ⟨mem_owned_append own, fun _ => ?_⟩
      rw [files, Function.update_self]

theorem owning_writePieces {written : List UInt8} (pieces : List (List UInt8))
    (own : uuid ∈ temporaries.owned trace) (named : Temporary uuid temporary)
    (holds : disk.files temporary = some written) :
    Owning temporaries diskWorld (Sane fine) Grows (Filled uuid temporary (written ++ pieces.flatten))
      trace (writePieces temporary pieces).run disk := by
  induction pieces generalizing written trace disk with
  | nil => exact ⟨own, fun _ => by rwa [List.flatten_nil, List.append_nil]⟩
  | cons piece pieces ih =>
      refine owning_run_bind ((owning_write piece own named holds).weaken ?_)
      intro trace result disk filled
      cases result with
      | error error => exact filled_error filled.1
      | ok _ =>
          rw [List.flatten_cons, ← List.append_assoc]
          exact ih filled.1 (filled.2 rfl)

theorem fillsAmong_bytes (named : Temporary uuid temporary) (contents : List UInt8) :
    FillsAmong fine uuid temporary contents (io (perform (FileCall.write temporary contents))) :=
  fun _ _ own empty => owning_write contents own named empty

theorem fillsAmong_json (named : Temporary uuid temporary) (value : Serialized) :
    FillsAmong fine uuid temporary value.content (do
      writePieces temporary value.pieces
      if let some error := value.error then
        throw (.json error)
      io (perform (FileCall.write temporary newline))) := by
  intro trace disk own empty
  refine owning_run_bind ((owning_writePieces value.pieces own named empty).weaken ?_)
  intro trace result disk filled
  cases result with
  | error error => exact filled_error filled.1
  | ok _ =>
      dsimp only
      cases value.error with
      | some error => exact filled_error filled.1
      | none => exact owning_write _ filled.1 named (filled.2 rfl)

end Fill

/-! ### Replacing the file -/

section Replace

variable {fine : Location → Option (List UInt8) → Prop} {uuid : Uuid} {temporary : Location}
  {disk : Disk} {trace : List (Event FileCall FileAnswer)} {path : StatePath} {parent : Directory}
  {new : List UInt8} {fill : FileA Unit} {mode : Nat}

/-- The path names a lasting file, which may hold `new`. -/
structure Admits (fine : Location → Option (List UInt8) → Prop) (path : StatePath) (new : List UInt8) :
    Prop where
  lasting : ∀ location, path.location = some location → Lasting location
  fine : ∀ location, path.location = some location → fine location (some new)

/-- What was written has been put in place, if the program succeeded. -/
def Placed (path : StatePath) (new : List UInt8) (result : Except StateError Unit) (disk : Disk) :
    Prop :=
  result = .ok () → ∃ location, path.location = some location ∧ (location, new) ∈ disk.placed

theorem Placed.grow {result : Except StateError Unit} {after : Disk}
    (placed : Placed path new result disk) (grows : Grows disk after) :
    Placed path new result after := by
  intro succeeded
  obtain ⟨location, named, there⟩ := placed succeeded
  exact ⟨location, named, grows.placed there⟩

theorem placed_error {error : StateError} : Placed path new (.error error) disk :=
  fun same => by cases same

/-- **The rename.** It leaves the temporary files of others, and puts in place what may be there. -/
theorem owning_rename {α : Type} {next : Except StateError Unit → Program FileCall FileAnswer α}
    {post : List (Event FileCall FileAnswer) → α → Disk → Prop}
    (own : uuid ∈ temporaries.owned trace) (named : Temporary uuid temporary)
    (admits : Admits fine path new) (filled : disk.files temporary = some new)
    (rest : ∀ trace answer after, uuid ∈ temporaries.owned trace → Placed path new answer after →
      Owning temporaries diskWorld (Sane fine) Grows post trace (next answer) after) :
    Owning temporaries diskWorld (Sane fine) Grows post trace
      (.ask (.rename temporary path) next) disk := by
  intro middle answer after spared sane answered
  have holds : middle.files temporary = some new := (spared.same uuid own temporary named).trans filled
  cases answer with
  | error error =>
      have only : Only temporary middle after := only_of_same answered.1 answered.2.1 answered.2.2
      exact ⟨only.sane named sane, only.grows,
        fun other _ theirs => only.spares named fun same => theirs (same ▸ own),
        rest _ _ _ (mem_owned_append own) placed_error⟩
  | ok _ =>
      obtain ⟨content, location, found, target, rfl⟩ := answered
      obtain rfl := Option.some.inj (holds.symm.trans found)
      have lasting := admits.lasting location target
      refine ⟨fun other stays => ?_, ⟨List.Subset.refl _, List.subset_cons_of_subset _
        (List.Subset.refl _)⟩, fun other _ theirs place mine => ?_, rest _ _ _ (mem_owned_append own)
        fun _ => ⟨location, target, List.mem_cons_self⟩⟩
      · dsimp only
        by_cases here : other = location
        · subst here
          rw [Function.update_self]
          exact admits.fine other target
        · have there : other ≠ temporary := by
            rintro rfl
            exact stays uuid named
          rw [Function.update_of_ne here, Function.update_of_ne there]
          exact sane other stays
      · have here : place ≠ location := fun same => lasting other (same ▸ mine)
        have there : place ≠ temporary := by
          rintro rfl
          obtain ⟨fileName, name⟩ := mine
          obtain ⟨other', name'⟩ := named
          exact theirs (temporaryName_inj (name.symm.trans name') ▸ own)
        dsimp only
        rw [Function.update_of_ne here, Function.update_of_ne there]

/-- The syncs, and the rename between them. -/
theorem owning_commit (own : uuid ∈ temporaries.owned trace) (named : Temporary uuid temporary)
    (admits : Admits fine path new) (filled : disk.files temporary = some new) :
    Owning temporaries diskWorld (Sane fine) Grows
      (fun trace result after => uuid ∈ temporaries.owned trace ∧ Placed path new result after) trace
      (do
        io (perform (FileCall.sync temporary))
        io (perform (FileCall.rename temporary path))
        io (perform (FileCall.syncDirectory parent)) : FileA Unit).run disk := by
  have still : ∀ {call : FileCall} {answer : FileAnswer call} {disk after : Disk},
      (fileWorld call disk.files answer after.files ∧ after.issued = disk.issued ∧
        after.placed = disk.placed) → (fileWorld call disk.files answer after.files →
          after.files = disk.files) → Only temporary disk after :=
    fun answered same => only_of_same (same answered.1) answered.2.1 answered.2.2
  refine owning_only own named (fun _ answer _ answered => still answered fun same => ?_)
    fun middle answer after left answered => ?_
  · cases answer <;> exact same
  cases answer with
  | error error => exact ⟨mem_owned_append own, placed_error⟩
  | ok _ =>
      have synced : after.files = middle.files := answered.1
      refine owning_rename (mem_owned_append own) named admits
        ((congrFun synced temporary).trans (left.trans filled)) fun trace answer renamed own placed => ?_
      cases answer with
      | error error => exact ⟨own, placed_error⟩
      | ok _ =>
          intro middle answer after spared sane answered
          have same : after.files = middle.files := by cases answer <;> exact answered.1
          have only : Only temporary middle after := only_of_same same answered.2.1 answered.2.2
          refine ⟨only.sane named sane, only.grows,
            fun other _ theirs => only.spares named fun same => theirs (same ▸ own),
            mem_owned_append own, ?_⟩
          cases answer with
          | error error => exact placed_error
          | ok _ => exact (placed.grow spared.grown).grow only.grows

/-- The whole writing, from the temporary file on. -/
theorem owning_writeAndReplace (own : uuid ∈ temporaries.owned trace)
    (named : Temporary uuid temporary) (admits : Admits fine path new)
    (fills : FillsAmong fine uuid temporary new fill) :
    Owning temporaries diskWorld (Sane fine) Grows
      (fun trace result after => uuid ∈ temporaries.owned trace ∧ Placed path new result after) trace
      (writeAndReplace temporary path parent fill mode).run disk := by
  refine owning_only own named (fun _ _ _ => only_openNew) fun middle answer after _ answered => ?_
  cases answer with
  | error error => exact ⟨mem_owned_append own, placed_error⟩
  | ok _ =>
      have empty : after.files temporary = some [] := by
        rw [answered.1.2, Function.update_self]
      refine owning_run_bind ((fills _ after (mem_owned_append own) empty).weaken ?_)
      intro trace result disk filled
      cases result with
      | error error => exact ⟨filled.1, placed_error⟩
      | ok _ => exact owning_commit filled.1 named admits (filled.2 rfl)

/-- A failed program is cleaned up after. -/
theorem owning_cleaningUp {program : FileA Unit} (named : Temporary uuid temporary)
    (owning : Owning temporaries diskWorld (Sane fine) Grows
      (fun trace result after => uuid ∈ temporaries.owned trace ∧ Placed path new result after) trace
      program.run disk) :
    Owning temporaries diskWorld (Sane fine) Grows (fun _ result after => Placed path new result after)
      trace (cleaningUp temporary program).run disk := by
  refine owning_bind (owning.weaken fun trace result after ends => ?_)
  cases result with
  | ok _ => exact ends.2
  | error error =>
      exact owning_only ends.1 named (fun _ _ _ => only_remove) fun _ _ _ _ _ => placed_error

/-- **A writer among others** leaves their temporary files, and puts in place what its path may hold. -/
theorem owning_replaceFile {secret : Bool} {fill : Location → FileA Unit}
    (admits : Admits fine path new)
    (fills : ∀ uuid temporary, Temporary uuid temporary →
      FillsAmong fine uuid temporary new (fill temporary)) :
    Owning temporaries diskWorld (Sane fine) Grows (fun _ result after => Placed path new result after)
      trace (replaceFile path secret fill).run disk := by
  unfold replaceFile
  cases path.parent with
  | none => exact placed_error
  | some parent =>
      intro middle answer after spared sane answered
      have same : after.files = middle.files := by cases answer <;> exact answered.1
      refine ⟨fun location lasting => same ▸ sane location lasting,
        ⟨answered.2.1 ▸ List.Subset.refl _, answered.2.2 ▸ List.Subset.refl _⟩,
        fun other _ _ location _ => congrFun same location, ?_⟩
      cases answer with
      | error error => exact placed_error
      | ok _ =>
          intro middle uuid after spared sane answered
          obtain ⟨fresh, rfl⟩ := answered
          refine ⟨sane, ⟨List.subset_cons_of_subset _ (List.Subset.refl _), List.Subset.refl _⟩,
            fun _ _ _ _ _ => rfl, ?_⟩
          have own : ∀ {trace : List (Event FileCall FileAnswer)},
              uuid ∈ temporaries.owned (trace ++ [⟨.newUuid, uuid⟩]) :=
            Ownership.mem_owned_append.mpr (.inr rfl)
          exact owning_cleaningUp ⟨path.fileName, rfl⟩ (owning_writeAndReplace own
            ⟨path.fileName, rfl⟩ admits (fills uuid _ ⟨path.fileName, rfl⟩))

theorem owning_atomicWriteJson {value : Serialized} (secret : Bool)
    (admits : Admits fine path value.content) :
    Owning temporaries diskWorld (Sane fine) Grows
      (fun _ result after => Placed path value.content result after) trace
      (atomicWriteJson path value secret).run disk := by
  unfold atomicWriteJson
  exact owning_replaceFile admits fun _ _ named => fillsAmong_json named value

theorem owning_atomicWriteBytes {contents : List UInt8} (secret : Bool)
    (admits : Admits fine path contents) :
    Owning temporaries diskWorld (Sane fine) Grows
      (fun _ result after => Placed path contents result after) trace
      (atomicWriteBytes path contents secret).run disk := by
  unfold atomicWriteBytes
  exact owning_replaceFile admits fun _ _ named => fillsAmong_bytes named contents

end Replace

/-! ### Writers -/

/-- What is written: a value, or bytes. -/
inductive Contents
  | json (value : Serialized)
  | bytes (contents : List UInt8)
  deriving DecidableEq, Repr

/-- The bytes of it. -/
def Contents.whole : Contents → List UInt8
  | .json value => value.content
  | .bytes contents => contents

/-- One call of a writer. -/
structure FileWrite where
  path : StatePath
  contents : Contents
  secret : Bool
  deriving DecidableEq, Repr

/-- The writer. -/
def FileWrite.program (write : FileWrite) : FileM (Except StateError Unit) :=
  match write.contents with
  | .json value => (atomicWriteJson write.path value write.secret).run
  | .bytes contents => (atomicWriteBytes write.path contents write.secret).run

theorem owning_write_program {fine : Location → Option (List UInt8) → Prop} {write : FileWrite}
    (admits : Admits fine write.path write.contents.whole) (disk : Disk)
    (trace : List (Event FileCall FileAnswer)) :
    Owning temporaries diskWorld (Sane fine) Grows
      (fun _ result after => Placed write.path write.contents.whole result after) trace write.program
      disk := by
  obtain ⟨path, contents, secret⟩ := write
  cases contents with
  | json value => exact owning_atomicWriteJson secret admits
  | bytes contents => exact owning_atomicWriteBytes secret admits

/-- What others do: they leave the watched files and all temporary ones. -/
def Elsewhere (watched : Location → Prop) (disk after : Disk) : Prop :=
  ∃ files, after = { disk with files } ∧
    ∀ location, watched location ∨ ¬ Lasting location → files location = disk.files location

/-- What a watched file may hold: what it held in the beginning, or what some writer means to write. -/
def HeldWhole (watched : Location → Prop) (initial : Files) (writes : FileWrite → Prop)
    (location : Location) (content : Option (List UInt8)) : Prop :=
  watched location → content = initial location ∨
    ∃ write, writes write ∧ write.path.location = some location ∧ content = some write.contents.whole

/-- The writers of a pool: their paths name lasting files. -/
structure Enduring (writes : FileWrite → Prop) : Prop where
  lasting : ∀ write, writes write → ∀ location, write.path.location = some location → Lasting location

/-- A text that begins with no dot names a lasting file. -/
theorem lasting_of_text {directory : Directory} {name : String} (plain : name.toList.head? ≠ some '.') :
    Lasting ⟨directory, .text name⟩ := by
  rintro uuid ⟨fileName, named⟩
  have text : name = "." ++ (fileName.bind OsName.toStr).getD "state" ++ ".tmp-" ++
      hyphenated uuid := OsName.text.inj named
  have dot : ".".toList = ['.'] := rfl
  refine plain ?_
  rw [text]
  simp only [String.toList_append, dot, List.cons_append, List.head?_cons]

section Pools

variable {watched : Location → Prop} {writes : FileWrite → Prop} {initial : Disk}

theorem fenced_writers (enduring : Enduring writes) : Fenced temporaries
    (fun write : { write : FileWrite // writes write } => write.1.program) diskWorld (Elsewhere watched)
    (Sane (HeldWhole watched initial.files writes)) Grows
    (fun write _ result after => Placed write.1.path write.1.contents.whole result after) where
  refl := Grows.refl
  trans _ _ _ := Grows.trans
  sameRefl _ _ _ _ := rfl
  sameTrans _ _ _ _ one two location theirs := (two location theirs).trans (one location theirs)
  fresh request state answer after token answered gives := by
    cases request with
    | newUuid =>
        obtain rfl := Option.some.inj gives
        rw [answered.2]
        exact ⟨answered.1, List.mem_cons_self⟩
    | createDir | openNew | write | sync | rename | syncDirectory | remove => cases gives
  given _ _ _ grows := fun given => grows.issued given
  stable _ _ _ _ _ grows placed := placed.grow grows
  acts first second sane acts := by
    obtain ⟨files, rfl, left⟩ := acts
    refine ⟨fun location lasting within => ?_, ⟨List.Subset.refl _, List.Subset.refl _⟩,
      fun token _ location theirs => left location (.inr fun lasting => lasting token theirs)⟩
    dsimp only
    rw [left location (.inl within)]
    exact sane location lasting within
  owning write disk := owning_write_program
    ⟨enduring.lasting write.1 write.2, fun location named _ => .inr ⟨write.1, write.2, named, rfl⟩⟩ disk []

/-- **Whole files.** Any number of writers run at a time, their calls fail as they may, and any of them
may be stopped at any call; others do what they like elsewhere. A watched file that is no temporary
one then holds what it held in the beginning, or all that one of its writers means to write; it is
never missing if it was there; and what a writer has succeeded to write has been put in place. -/
theorem reachable_whole (enduring : Enduring writes)
    {pool : Pool { write : FileWrite // writes write } FileCall FileAnswer (Except StateError Unit) Disk}
    (reached : pool.Reachable (fun write => write.1.program) diskWorld (Elsewhere watched) initial) :
    (∀ location, watched location → Lasting location →
      (pool.shared.files location = initial.files location ∨
        ∃ write, writes write ∧ write.path.location = some location ∧
          pool.shared.files location = some write.contents.whole) ∧
      ((initial.files location).isSome → (pool.shared.files location).isSome)) ∧
    ∀ task ∈ pool.tasks, task.program = .done (.ok ()) →
      ∃ location, task.input.1.path.location = some location ∧
        (location, task.input.1.contents.whole) ∈ pool.shared.placed := by
  have begins : Sane (HeldWhole watched initial.files writes) initial := fun _ _ _ => .inl rfl
  have fence := (fenced_writers enduring).reachable begins reached
  refine ⟨fun location within lasting => ?_, fun task member done =>
    (fenced_writers enduring).finished begins reached member done rfl⟩
  have held := fence.holds location lasting within
  refine ⟨held, fun there => ?_⟩
  rcases held with same | ⟨write, -, -, whole⟩
  · rwa [same]
  · rw [whole]
    rfl

end Pools

/-! ### One writer -/

/-- **A writer whose calls succeed puts its content in place.** -/
theorem runs_write {path : StatePath} {parent : Directory} {location temporary : Location}
    {contents : List UInt8} {secret : Bool} {disk : Disk} {uuid : Uuid}
    (inside : path.parent = some parent) (named : path.location = some location)
    (unused : uuid ∉ disk.issued) (free : disk.files temporary = none)
    (chosen : temporary = ⟨parent, temporaryName path.fileName uuid⟩) :
    ∃ trace final, (atomicWriteBytes path contents secret).run.Runs diskWorld disk trace (.ok ())
      final := by
  let opened := Function.update disk.files temporary (some [])
  let filled := Function.update opened temporary (some ([] ++ contents))
  let issued := uuid :: disk.issued
  have empty : opened temporary = some [] := Function.update_self _ _ _
  have whole : filled temporary = some ([] ++ contents) := Function.update_self _ _ _
  subst chosen
  unfold atomicWriteBytes replaceFile
  rw [inside]
  exact ⟨_, _, .ok (), disk, _, rfl, ⟨rfl, rfl, rfl⟩,
    uuid, ⟨disk.files, issued, disk.placed⟩, _, rfl, ⟨unused, rfl⟩,
    .ok (), ⟨opened, issued, disk.placed⟩, _, rfl, ⟨⟨free, rfl⟩, rfl, rfl⟩,
    .ok (), ⟨filled, issued, disk.placed⟩, _, rfl, ⟨⟨[], empty, rfl⟩, rfl, rfl⟩,
    .ok (), ⟨filled, issued, disk.placed⟩, _, rfl, ⟨rfl, rfl, rfl⟩,
    .ok (), _, _, rfl, ⟨_, location, whole, named, rfl⟩,
    .ok (), ⟨_, _, _⟩, _, rfl, ⟨rfl, rfl, rfl⟩, rfl, rfl, rfl⟩

/-- A byte, to be written to one file. -/
def byteWrite : FileWrite where
  path := { parent := some [], fileName := some (.text "config.toml") }
  contents := .bytes [1]
  secret := false

theorem enduring_byteWrite : Enduring (· = byteWrite) where
  lasting := by
    rintro write rfl location named
    obtain rfl := Option.some.inj named
    exact lasting_of_text (by decide)

/-- No files, and nothing given. -/
def Disk.empty : Disk := { files := fun _ => none, issued := [], placed := [] }

theorem reachable_whole_byteWrite :
    ∃ pool : Pool { write : FileWrite // write = byteWrite } FileCall FileAnswer
        (Except StateError Unit) Disk,
      pool.Reachable (fun write => write.1.program) diskWorld (Elsewhere fun _ => True) Disk.empty ∧
        ∃ location, byteWrite.path.location = some location ∧ (location, [1]) ∈ pool.shared.placed := by
  obtain ⟨trace, final, run⟩ := @runs_write byteWrite.path [] _ _ [1] false Disk.empty 0 rfl rfl
    (by decide) rfl rfl
  have reached : Pool.Reachable (fun write : { write : FileWrite // write = byteWrite } =>
      write.1.program) diskWorld (Elsewhere fun _ => True) Disk.empty
      ⟨final, ⟨⟨byteWrite, rfl⟩, trace, .done (.ok ())⟩ :: []⟩ :=
    Pool.Reachable.call Relation.ReflTransGen.refl run
  exact ⟨_, reached, (reachable_whole enduring_byteWrite reached).2 _ List.mem_cons_self rfl⟩

end Omdesky.Platform
