/-
**Launchers of devices, as files of the desktop (`omdesky-platform/src/launcher.rs`).**

`omdesky launcher` writes one file for each device into the directory of the applications, lists
them, and removes them. Any number of these commands run at a time.

* `render`, `desktopEntries`: the file of a launcher, and what a desktop reads in such a file.
* `desktopEntries_render`: **no name of a device adds or changes an entry**.
* `createLauncher`, `listLaunchers`, `removeLauncher`: the store, over the calls it makes.
* `reachable_launchers`: **the file of a device starts that device**, whatever the commands do to each
  other.
-/

import Omdesky.Platform.Access.Limit
import Omdesky.Platform.Writers
import Omdesky.Ports

namespace Omdesky.Platform

open Interaction Interaction.Program

/-! ### The file -/

/-- `LauncherSpec`. -/
structure LauncherSpec where
  nodeId : Uuid
  displayName : String
  aliases : List String
  deriving DecidableEq, Repr

/-- `escape_value`. -/
def escapeValue (value : String) : String :=
  String.ofList (value.toList.map fun c => if c = '\n' ∨ c = '\r' then ' ' else c)

/-- `DesktopLauncherStore::render`. -/
def render (spec : LauncherSpec) : String :=
  "[Desktop Entry]\nName=" ++ escapeValue spec.displayName ++
    "\nComment=Remote Omarchy Desktop\nExec=uwsm app -- omdesky connect " ++ hyphenated spec.nodeId ++
    "\nIcon=computer\nTerminal=false\nType=Application\nCategories=Network;RemoteAccess;\n" ++
    "X-Omdesky-NodeId=" ++ hyphenated spec.nodeId ++ "\n"

/-- A key and its value. -/
def entryLine (line : List Char) : Option (String × String) :=
  if '=' ∈ line then
    some (String.ofList (line.takeWhile (· != '=')), String.ofList ((line.dropWhile (· != '=')).drop 1))
  else none

/-- What a desktop reads in a file: the keys with their values, line by line. -/
def desktopEntries (text : String) : List (String × String) :=
  (text.toList.splitOn '\n').filterMap entryLine

/-- The entries of the launcher of a device. -/
def launcherEntries (spec : LauncherSpec) : List (String × String) :=
  [("Name", escapeValue spec.displayName),
    ("Comment", "Remote Omarchy Desktop"),
    ("Exec", "uwsm app -- omdesky connect " ++ hyphenated spec.nodeId),
    ("Icon", "computer"),
    ("Terminal", "false"),
    ("Type", "Application"),
    ("Categories", "Network;RemoteAccess;"),
    ("X-Omdesky-NodeId", hyphenated spec.nodeId)]

/-- The lines of the file, the last of them empty. -/
def launcherLines (spec : LauncherSpec) : List (List Char) :=
  "[Desktop Entry]".toList ::
    (launcherEntries spec).map (fun entry => entry.1.toList ++ '=' :: entry.2.toList) ++ [[]]

/-- Nine lines, from a text in pieces. -/
theorem toList_pieces {front name middle node back last : String} {n e : Char}
    {l0 k1 k2 v2 k3 v3 k4 v4 k5 v5 k6 v6 k7 v7 k8 : List Char}
    (front_eq : front.toList = l0 ++ n :: (k1 ++ [e]))
    (middle_eq : middle.toList = n :: (k2 ++ e :: (v2 ++ n :: (k3 ++ e :: v3))))
    (back_eq : back.toList = n :: (k4 ++ e :: (v4 ++ n :: (k5 ++ e :: (v5 ++ n :: (k6 ++ e :: (v6 ++
      n :: (k7 ++ e :: (v7 ++ [n])))))))))
    (last_eq : last.toList = k8 ++ [e]) {ending : String} (ending_eq : ending.toList = [n]) :
    (front ++ name ++ middle ++ node ++ back ++ last ++ node ++ ending).toList =
      List.intercalate [n] [l0, k1 ++ e :: name.toList, k2 ++ e :: v2, k3 ++ e :: (v3 ++ node.toList),
        k4 ++ e :: v4, k5 ++ e :: v5, k6 ++ e :: v6, k7 ++ e :: v7, k8 ++ e :: node.toList, []] := by
  simp only [String.toList_append, front_eq, middle_eq, back_eq, last_eq, ending_eq,
    List.intercalate, List.intersperse, List.flatten_cons, List.flatten_nil, List.append_assoc,
    List.cons_append, List.nil_append, List.append_nil]

theorem toList_render (spec : LauncherSpec) :
    (render spec).toList = List.intercalate ['\n'] (launcherLines spec) := by
  have started : ("uwsm app -- omdesky connect " ++ hyphenated spec.nodeId).toList =
      "uwsm app -- omdesky connect ".toList ++ (hyphenated spec.nodeId).toList := String.toList_append
  simp only [launcherLines, launcherEntries, List.map_cons, List.map_nil, List.cons_append,
    List.nil_append]
  rw [started]
  exact toList_pieces (by decide +kernel) (by decide +kernel) (by decide +kernel) (by decide +kernel)
    rfl

/-- No entry has a line break in it, and no key is more than a key. -/
theorem launcherEntries_plain (spec : LauncherSpec) : ∀ entry ∈ launcherEntries spec,
    '\n' ∉ entry.1.toList ∧ '=' ∉ entry.1.toList ∧ '\n' ∉ entry.2.toList := by
  have name : '\n' ∉ (escapeValue spec.displayName).toList := by
    rw [escapeValue, String.toList_ofList]
    intro broken
    obtain ⟨c, -, same⟩ := List.mem_map.mp broken
    split at same
    · cases same
    · next other => exact other (.inl same)
  have node : '\n' ∉ (hyphenated spec.nodeId).toList := fun broken =>
    absurd (isAlphanum_of_mem_hyphenated broken (by decide)) (by decide)
  have started : '\n' ∉ ("uwsm app -- omdesky connect " ++ hyphenated spec.nodeId).toList := by
    rw [String.toList_append, List.mem_append]
    rintro (front | back)
    · exact absurd front (by decide +kernel)
    · exact node back
  simp only [launcherEntries, List.forall_mem_cons]
  refine ⟨⟨?_, ?_, name⟩, ⟨?_, ?_, ?_⟩, ⟨?_, ?_, started⟩, ⟨?_, ?_, ?_⟩, ⟨?_, ?_, ?_⟩, ⟨?_, ?_, ?_⟩,
    ⟨?_, ?_, ?_⟩, ⟨?_, ?_, node⟩, fun _ absent => by cases absent⟩
  all_goals decide +kernel

/-- An entry is read from its line. -/
theorem entryLine_entry {key value : List Char} (plain : '=' ∉ key) :
    entryLine (key ++ '=' :: value) = some (String.ofList key, String.ofList value) := by
  have whole : ∀ c ∈ key, (c != '=') = true := fun c member =>
    bne_iff_ne.mpr fun same => plain (same ▸ member)
  have inside : '=' ∈ key ++ '=' :: value := List.mem_append_right _ List.mem_cons_self
  rw [entryLine, if_pos inside, List.takeWhile_append_of_pos whole, List.dropWhile_append_of_pos whole]
  simp

/-- **What a desktop reads of a launcher**: these entries and no others, whatever the device is called. -/
theorem desktopEntries_render (spec : LauncherSpec) :
    desktopEntries (render spec) = launcherEntries spec := by
  have plain := launcherEntries_plain spec
  have lines : (render spec).toList.splitOn '\n' = launcherLines spec := by
    rw [toList_render]
    refine List.splitOn_intercalate _ (fun line member => ?_) (List.cons_ne_nil _ _)
    rw [launcherLines, List.cons_append, List.mem_cons, List.mem_append, List.mem_map,
      List.mem_singleton] at member
    rcases member with rfl | ⟨entry, listed, rfl⟩ | rfl
    · decide +kernel
    · intro broken
      rcases List.mem_append.mp broken with key | rest
      · exact (plain entry listed).1 key
      · rcases List.mem_cons.mp rest with same | value
        · cases same
        · exact (plain entry listed).2.2 value
    · exact List.not_mem_nil
  have header : entryLine "[Desktop Entry]".toList = none := if_neg (by decide +kernel)
  have empty : entryLine [] = none := if_neg List.not_mem_nil
  rw [desktopEntries, lines, launcherLines, List.cons_append, List.filterMap_cons_none header,
    List.filterMap_append, List.filterMap_cons_none empty, List.filterMap_nil, List.append_nil,
    List.filterMap_map]
  refine (List.filterMap_congr fun entry listed => ?_).trans List.filterMap_some
  rw [Function.comp, entryLine_entry (plain entry listed).2.1, String.ofList_toList,
    String.ofList_toList]

/-! ### The store -/

/-- A call of the store. -/
inductive LauncherCall
  | file (call : FileCall)
  | read (path : StatePath)
  | exists (directory : Directory)
  | readDir (directory : Directory)

/-- The answer to each call. -/
abbrev LauncherAnswer : LauncherCall → Type
  | .file call => FileAnswer call
  | .read _ => Except StateError (List UInt8)
  | .exists _ => Bool
  | .readDir _ => Except StateError (List OsName)

/-- A program of the store. -/
abbrev LauncherM := Program LauncherCall LauncherAnswer

/-- A program of the store that may fail. -/
abbrev LauncherA := ExceptT PortError LauncherM

/-- The bytes of a text. -/
def utf8 (text : String) : List UInt8 := text.toUTF8.data.toList

/-- `read_limited_to_string(..).ok()`, from what was read. -/
def readText (answer : Except StateError (List UInt8)) : Option String :=
  answer.toOption.bind fun bytes => String.fromUTF8? ⟨bytes.toArray⟩

/-- `state_error` and `io_error`. -/
def launcherError (error : StateError) : PortError where
  code := "LAUNCHER_IO_FAILED"
  message := error.message
  retryable := false

/-- A call whose error is that of the store. -/
def orLauncherError {α : Type} (program : LauncherM (Except StateError α)) : LauncherA α :=
  ExceptT.mk (program >>= fun result => return result.mapError launcherError)

/-- The name of the file of a device. -/
def launcherName (node : Uuid) : String := "omdesky-" ++ hyphenated node ++ ".desktop"

section Store

variable (directory : Directory)

/-- `DesktopLauncherStore::path`. -/
def launcherPath (node : Uuid) : StatePath :=
  { parent := some directory, fileName := some (.text (launcherName node)) }

/-- The file is written unless it holds the launcher already. -/
def renewLauncher (spec : LauncherSpec) (current : Option String) : LauncherA Unit :=
  if current ≠ some (render spec) then
    orLauncherError ((atomicWriteBytes (launcherPath directory spec.nodeId) (utf8 (render spec))
      false).run.within LauncherCall.file)
  else return

/-- `DesktopLauncherStore::create`. -/
def createLauncher (spec : LauncherSpec) : LauncherA (List OsName) := do
  orLauncherError (perform (LauncherCall.file (.createDir directory 0o700)))
  let current ← liftM (perform (LauncherCall.read (launcherPath directory spec.nodeId)) : LauncherM _)
  renewLauncher directory spec (readText current)
  return [.text (launcherName spec.nodeId)]

/-- The name is that of a launcher. -/
def isLauncherName (name : OsName) : Bool :=
  match name.toStr with
  | some name => "omdesky-".toList.isPrefixOf name.toList && ".desktop".toList.isSuffixOf name.toList
  | none => false

/-- The bytes of a name. -/
def OsName.bytes : OsName → List UInt8
  | .text value => utf8 value
  | .raw bytes => bytes

/-- `DesktopLauncherStore::list`. -/
def listLaunchers : LauncherA (List OsName) := do
  if !(← liftM (perform (LauncherCall.exists directory) : LauncherM _)) then
    return []
  let entries ← orLauncherError (perform (LauncherCall.readDir directory))
  return (entries.filter isLauncherName).mergeSort fun first second =>
    decide (first.bytes ≤ second.bytes)

/-- `DesktopLauncherStore::remove`. -/
def removeLauncher (node : Uuid) : LauncherA (List OsName) := do
  match ← liftM (perform (LauncherCall.file (.remove ⟨directory, .text (launcherName node)⟩)) :
    LauncherM _) with
  | .ok () => return []
  | .error (.io .notFound _) => return []
  | .error error => throw (launcherError error)

end Store

/-! ### Commands -/

/-- A command of `omdesky launcher`. -/
inductive LauncherCommand
  | create (spec : LauncherSpec)
  | list
  | remove (node : Uuid)
  deriving DecidableEq, Repr

/-- The names it prints. -/
def LauncherCommand.program (directory : Directory) :
    LauncherCommand → LauncherM (PortResult (List OsName))
  | .create spec => (createLauncher directory spec).run
  | .list => (listLaunchers directory).run
  | .remove node => (removeLauncher directory node).run

/-- The file of a device. -/
def launcherFile (directory : Directory) (node : Uuid) : Location :=
  ⟨directory, .text (launcherName node)⟩

/-- The file system, with its reads. A read finds what is there, if it succeeds. -/
def launcherWorld : World LauncherCall LauncherAnswer Disk
  | .file call, disk, answer, after => diskWorld call disk answer after
  | .read path, disk, answer, after => after = disk ∧
      ∀ bytes, answer = .ok bytes → disk.files.read path = some bytes ∧ bytes.length ≤ maxStateBytes
  | .exists _, disk, _, after => after = disk
  | .readDir directory, disk, answer, after => after = disk ∧
      ∀ names, answer = .ok names → ∀ name, name ∈ names ↔ (disk.files ⟨directory, name⟩).isSome

/-- A command owns the temporary files of its UUID. -/
def launcherOwnership : Ownership LauncherCall LauncherAnswer Disk Uuid where
  gives
    | ⟨.file call, answer⟩ => temporaries.gives ⟨call, answer⟩
    | _ => none
  given := temporaries.given
  same := temporaries.same

section Commands

variable {directory : Directory} {initial : Disk} {asked : LauncherCommand → Prop}

theorem launcherName_injective : Function.Injective launcherName := by
  intro first second same
  have text := congrArg String.toList same
  simp only [launcherName, String.toList_append] at text
  have front := List.append_inj_left' text rfl
  exact hyphenated_injective (String.toList_injective (List.append_cancel_left front))

theorem lasting_launcherFile (directory : Directory) (node : Uuid) :
    Lasting (launcherFile directory node) := by
  refine lasting_of_text ?_
  have front : "omdesky-".toList = 'o' :: "mdesky-".toList := rfl
  simp only [launcherName, String.toList_append, front, List.cons_append, List.head?_cons]
  decide

/-- What the file of a device may hold: what it held in the beginning, nothing where it was to be
removed, and the rendering of a launcher of this device that was to be created. -/
def Launches (directory : Directory) (initial : Disk) (asked : LauncherCommand → Prop)
    (location : Location) (content : Option (List UInt8)) : Prop :=
  ∀ node, location = launcherFile directory node →
    content = initial.files location ∨ (content = none ∧ asked (.remove node)) ∨
      ∃ spec, asked (.create spec) ∧ spec.nodeId = node ∧ content = some (utf8 (render spec))

/-- What a command that succeeded has done. -/
def Done (directory : Directory) (command : LauncherCommand)
    (trace : List (Event LauncherCall LauncherAnswer)) (result : PortResult (List OsName)) (disk : Disk) :
    Prop :=
  match command with
  | .create spec => ∀ names, result = .ok names → names = [.text (launcherName spec.nodeId)] ∧
      ((launcherFile directory spec.nodeId, utf8 (render spec)) ∈ disk.placed ∨
        ⟨.read (launcherPath directory spec.nodeId), .ok (utf8 (render spec))⟩ ∈ trace)
  | _ => True

/-- A text that was read has its own bytes. -/
theorem readText_eq_some {answer : Except StateError (List UInt8)} {text : String}
    (read : readText answer = some text) : answer = .ok (utf8 text) := by
  cases answer with
  | error error => cases read
  | ok bytes =>
      change String.fromUTF8? ⟨bytes.toArray⟩ = some text at read
      unfold String.fromUTF8? at read
      split at read
      · obtain rfl := Option.some.inj read
        rfl
      · cases read

theorem admits_launcher {spec : LauncherSpec} (wanted : asked (.create spec)) :
    Admits (Launches directory initial asked) (launcherPath directory spec.nodeId)
      (utf8 (render spec)) where
  lasting location named := by
    obtain rfl := Option.some.inj named
    exact lasting_launcherFile directory spec.nodeId
  fine location named node same := by
    obtain rfl := Option.some.inj named
    have name := launcherName_injective (OsName.text.inj (congrArg Location.name same))
    exact .inr (.inr ⟨spec, wanted, name, rfl⟩)

/-- A program of the store keeps the law of the launchers, among others. -/
abbrev Launching (directory : Directory) (initial : Disk) (asked : LauncherCommand → Prop) {α : Type}
    (post : List (Event LauncherCall LauncherAnswer) → α → Disk → Prop) :
    List (Event LauncherCall LauncherAnswer) → LauncherM α → Disk → Prop :=
  Owning launcherOwnership launcherWorld (Sane (Launches directory initial asked)) Grows post

section Owning

variable {disk : Disk} {trace : List (Event LauncherCall LauncherAnswer)}

/-- A call that leaves everything as it is. -/
theorem owning_idle {α : Type} {post : List (Event LauncherCall LauncherAnswer) → α → Disk → Prop}
    {call : LauncherCall} {next : LauncherAnswer call → LauncherM α}
    (idle : ∀ disk answer after, launcherWorld call disk answer after →
      after.files = disk.files ∧ after.issued = disk.issued ∧ after.placed = disk.placed)
    (rest : ∀ answer after,
      Launching directory initial asked post (trace ++ [⟨call, answer⟩]) (next answer) after) :
    Launching directory initial asked post trace (.ask call next) disk := by
  intro middle answer after spared sane answered
  obtain ⟨files, issued, placed⟩ := idle middle answer after answered
  exact ⟨fun location lasting => files ▸ sane location lasting,
    ⟨issued ▸ List.Subset.refl _, placed ▸ List.Subset.refl _⟩,
    fun _ _ _ location _ => congrFun files location, rest answer after⟩

/-- **Creating a launcher among others.** -/
theorem owning_createLauncher {spec : LauncherSpec} (wanted : asked (.create spec)) :
    Launching directory initial asked (Done directory (.create spec)) [] (createLauncher directory spec).run disk := by
  refine owning_idle (fun disk answer after answered => ?_) fun answer _ => ?_
  · refine ⟨?_, answered.2.1, answered.2.2⟩
    cases answer <;> exact answered.1
  cases answer with
  | error error => exact fun names same => by cases same
  | ok _ =>
      refine owning_idle (fun disk answer after answered => ?_) fun answer seen => ?_
      · obtain rfl := answered.1
        exact ⟨rfl, rfl, rfl⟩
      refine owning_run_bind ?_
      unfold renewLauncher
      split
      · have writes : ∀ trace : List (Event LauncherCall LauncherAnswer),
            launcherOwnership.owned trace = [] → Launching directory initial asked
              (fun _ result after =>
                Placed (launcherPath directory spec.nodeId) (utf8 (render spec)) result after) trace
              ((atomicWriteBytes (launcherPath directory spec.nodeId) (utf8 (render spec)) false).run.within
                LauncherCall.file) seen :=
          fun trace nothing => owning_within (fun token => by rw [nothing]; exact Iff.rfl)
            (owning_atomicWriteBytes false (admits_launcher wanted) :
              Owning temporaries diskWorld _ _ _ [] _ _)
        refine owning_bind ((writes _ rfl).weaken ?_)
        intro trace result after placed
        cases result with
        | error error => exact fun names same => by cases same
        | ok _ =>
            intro names same
            obtain ⟨location, named, there⟩ := placed rfl
            obtain rfl := Option.some.inj named
            exact ⟨(Except.ok.inj same).symm, .inl there⟩
      · next current =>
          have found := readText_eq_some (not_ne_iff.mp current)
          intro names same
          rw [← found]
          exact ⟨(Except.ok.inj same).symm, .inr (List.mem_append_right _ List.mem_cons_self)⟩

/-- Removing a launcher leaves nothing in its file. -/
theorem owning_removeLauncher {node : Uuid} (wanted : asked (.remove node)) :
    Launching directory initial asked (Done directory (.remove node)) [] (removeLauncher directory node).run disk := by
  intro middle answer after spared sane answered
  have lasting := lasting_launcherFile directory node
  obtain ⟨changed, issued, placed⟩ := answered
  have grows : Grows middle after := ⟨issued ▸ List.Subset.refl _, placed ▸ List.Subset.refl _⟩
  cases answer with
  | ok _ =>
      have files : after.files = Function.update middle.files (launcherFile directory node) none :=
        changed.2
      refine ⟨fun location stays other named => ?_, grows, fun uuid _ _ location theirs => ?_, trivial⟩
      · rw [files]
        by_cases here : location = launcherFile directory node
        · have name := launcherName_injective
            (OsName.text.inj (congrArg Location.name (named.symm.trans here)))
          subst here
          exact .inr (.inl ⟨Function.update_self _ _ _, name ▸ wanted⟩)
        · rw [Function.update_of_ne here]
          exact sane location stays other named
      · have here : location ≠ launcherFile directory node := fun same => lasting uuid (same ▸ theirs)
        rw [files, Function.update_of_ne here]
  | error error =>
      have same : after.files = middle.files := changed
      refine ⟨fun location stays => same ▸ sane location stays, grows,
        fun _ _ _ location _ => congrFun same location, ?_⟩
      rcases error with _ | _ | _ | _ | ⟨_ | _, _⟩ | _ <;> exact trivial

/-- Listing changes nothing. -/
theorem owning_listLaunchers :
    Launching directory initial asked (Done directory .list) [] (listLaunchers directory).run disk := by
  refine owning_idle (fun disk answer after answered => ?_) fun answer _ => ?_
  · obtain rfl := answered
    exact ⟨rfl, rfl, rfl⟩
  cases answer with
  | false => exact trivial
  | true =>
      refine owning_idle (fun disk answer after answered => ?_) fun answer _ => ?_
      · obtain rfl := answered.1
        exact ⟨rfl, rfl, rfl⟩
      cases answer <;> exact trivial

theorem fenced_launchers : Fenced launcherOwnership
    (fun command : { command : LauncherCommand // asked command } => command.1.program directory)
    launcherWorld (Elsewhere fun location => ∃ node, location = launcherFile directory node)
    (Sane (Launches directory initial asked)) Grows (fun command => Done directory command.1) where
  refl := Grows.refl
  trans _ _ _ := Grows.trans
  sameRefl _ _ _ _ := rfl
  sameTrans _ _ _ _ one two location theirs := (two location theirs).trans (one location theirs)
  fresh request state answer after token answered gives := by
    rcases request with ⟨_ | _⟩ | _ | _ | _
    case file.newUuid =>
      obtain rfl := Option.some.inj gives
      rw [answered.2]
      exact ⟨answered.1, List.mem_cons_self⟩
    all_goals cases gives
  given _ _ _ grows := fun given => grows.issued given
  stable command trace result first second grows done := by
    obtain ⟨_ | _ | _, wanted⟩ := command
    case create =>
      intro names same
      obtain ⟨named, placed | read⟩ := done names same
      · exact ⟨named, .inl (grows.placed placed)⟩
      · exact ⟨named, .inr read⟩
    all_goals exact trivial
  acts first second sane acts := by
    obtain ⟨files, rfl, left⟩ := acts
    refine ⟨fun location lasting node named => ?_, ⟨List.Subset.refl _, List.Subset.refl _⟩,
      fun token _ location theirs => left location (.inr fun lasting => lasting token theirs)⟩
    dsimp only
    rw [left location (.inl ⟨node, named⟩)]
    exact sane location lasting node named
  owning command disk := by
    obtain ⟨_ | _ | _, wanted⟩ := command
    · exact owning_createLauncher wanted
    · exact owning_listLaunchers
    · exact owning_removeLauncher wanted

/-- **Launchers.** Any number of launcher commands run at a time, their calls fail as they may, and
others leave the launchers alone. The file of a device then holds what it held in the beginning, or
nothing if this device was to be removed, or the rendering of a launcher of this very device, in which
a desktop reads the entries of that launcher and no others; and a launcher that was created is named
after its device, and was put in place or found there. -/
theorem reachable_launchers
    {pool : Pool { command : LauncherCommand // asked command } LauncherCall LauncherAnswer
      (PortResult (List OsName)) Disk}
    (reached : pool.Reachable (fun command => command.1.program directory) launcherWorld
      (Elsewhere fun location => ∃ node, location = launcherFile directory node) initial) :
    (∀ node, pool.shared.files (launcherFile directory node) =
        initial.files (launcherFile directory node) ∨
      (pool.shared.files (launcherFile directory node) = none ∧ asked (.remove node)) ∨
      ∃ spec, asked (.create spec) ∧ spec.nodeId = node ∧
        pool.shared.files (launcherFile directory node) = some (utf8 (render spec)) ∧
        desktopEntries (render spec) = launcherEntries spec) ∧
    ∀ task ∈ pool.tasks, ∀ spec names, task.input.1 = .create spec → task.program = .done (.ok names) →
      names = [.text (launcherName spec.nodeId)] ∧
        ((launcherFile directory spec.nodeId, utf8 (render spec)) ∈ pool.shared.placed ∨
          ⟨.read (launcherPath directory spec.nodeId), .ok (utf8 (render spec))⟩ ∈ task.trace) := by
  have begins : Sane (Launches directory initial asked) initial := fun _ _ _ _ => .inl rfl
  have fence := fenced_launchers.reachable begins reached
  constructor
  · intro node
    rcases fence.holds _ (lasting_launcherFile directory node) node rfl with
      same | removed | ⟨spec, wanted, named, held⟩
    · exact .inl same
    · exact .inr (.inl removed)
    · exact .inr (.inr ⟨spec, wanted, named, held, desktopEntries_render spec⟩)
  · intro task member spec names input done
    have finished := fenced_launchers.finished begins reached member done
    rw [input] at finished
    exact finished names rfl

end Owning

end Commands

/-! ### One launcher -/

/-- **A launcher whose calls succeed is created**, where there was none. -/
theorem runs_createLauncher {directory : Directory} {spec : LauncherSpec} {disk : Disk} {uuid : Uuid}
    {error : StateError} (unused : uuid ∉ disk.issued)
    (free : disk.files ⟨directory, temporaryName (some (.text (launcherName spec.nodeId))) uuid⟩ = none) :
    ∃ trace final, (createLauncher directory spec).run.Runs launcherWorld disk trace
        (.ok [.text (launcherName spec.nodeId)]) final ∧
      final.files (launcherFile directory spec.nodeId) = some (utf8 (render spec)) := by
  let temporary : Location := ⟨directory, temporaryName (some (.text (launcherName spec.nodeId))) uuid⟩
  let opened := Function.update disk.files temporary (some [])
  let filled := Function.update opened temporary (some ([] ++ utf8 (render spec)))
  let issued := uuid :: disk.issued
  have empty : opened temporary = some [] := Function.update_self _ _ _
  have whole : filled temporary = some ([] ++ utf8 (render spec)) := Function.update_self _ _ _
  refine ⟨_, _, ⟨.ok (), disk, _, rfl, ⟨rfl, rfl, rfl⟩,
    .error error, disk, _, rfl, ⟨rfl, fun _ same => by cases same⟩,
    .ok (), disk, _, rfl, ⟨rfl, rfl, rfl⟩,
    uuid, ⟨disk.files, issued, disk.placed⟩, _, rfl, ⟨unused, rfl⟩,
    .ok (), ⟨opened, issued, disk.placed⟩, _, rfl, ⟨⟨free, rfl⟩, rfl, rfl⟩,
    .ok (), ⟨filled, issued, disk.placed⟩, _, rfl, ⟨⟨[], empty, rfl⟩, rfl, rfl⟩,
    .ok (), ⟨filled, issued, disk.placed⟩, _, rfl, ⟨rfl, rfl, rfl⟩,
    .ok (), _, _, rfl, ⟨_, launcherFile directory spec.nodeId, whole, rfl, rfl⟩,
    .ok (), ⟨_, _, _⟩, _, rfl, ⟨rfl, rfl, rfl⟩, rfl, rfl, rfl⟩, ?_⟩
  exact Function.update_self _ _ _

/-- A launcher whose name would end its line. -/
def oddLauncher : LauncherSpec where
  nodeId := 7
  displayName := "Desk\nExec=reboot"
  aliases := []

/-- Its file is there, and its name has no line of its own in it. -/
theorem reachable_launchers_odd :
    ∃ pool : Pool { command : LauncherCommand // command = .create oddLauncher } LauncherCall
        LauncherAnswer (PortResult (List OsName)) Disk,
      pool.Reachable (fun command => command.1.program []) launcherWorld
        (Elsewhere fun location => ∃ node, location = launcherFile [] node) Disk.empty ∧
      pool.shared.files (launcherFile [] 7) = some (utf8 (render oddLauncher)) ∧
        desktopEntries (render oddLauncher) = launcherEntries oddLauncher := by
  obtain ⟨trace, final, run, there⟩ := @runs_createLauncher [] oddLauncher Disk.empty 0
    (.io .notFound "no such file") (by decide) rfl
  have reached : Pool.Reachable
      (fun command : { command : LauncherCommand // command = .create oddLauncher } =>
        command.1.program []) launcherWorld
      (Elsewhere fun location => ∃ node, location = launcherFile [] node) Disk.empty
      ⟨final, ⟨⟨.create oddLauncher, rfl⟩, trace, .done _⟩ :: []⟩ :=
    Pool.Reachable.call Relation.ReflTransGen.refl run
  refine ⟨_, reached, there, ?_⟩
  rcases (reachable_launchers reached).1 7 with same | ⟨_, wanted⟩ | ⟨spec, wanted, -, -, read⟩
  · cases there.symm.trans same
  · cases wanted
  · obtain rfl := LauncherCommand.create.inj wanted
    exact read

end Omdesky.Platform
