/-
**The session on record (`omdesky-cli/src/main.rs`, `omdesky-platform/src/session_record.rs`).**

`omdesky connect` keeps a record of its session in the runtime directory, and `omdesky disconnect` reads
it to stop Moonlight. Any number of both run at a time, on one file, while the processes of the computer
come and go and their numbers are used again.

* `SessionRecord.encode`, `SessionRecord.decode_encode`: the record in JSON.
* `connectSession`, `disconnect`, `removeIfOwned`: the programs.
* `Machine`, `sessionWorld`: the file, the processes, and a journal of what was done.
* `Lawful`: what each entry of the journal rests on.
* `reachable_supervised`: **a process is signalled only if its number is that of a Moonlight some
  session has launched**, read from the record by the signaller and observed with the start time that
  the signaller then found it to have; and a record of another session is removed only if it was written
  after the remover had read its own.
-/

import Omdesky.Application.Connect.Shortcuts
import Omdesky.Interaction.Expand
import Omdesky.Platform.SessionRecord
import Omdesky.Platform.State
import Omdesky.Protocol.Wire

namespace Omdesky.Cli

open Application Interaction Interaction.Program Json Platform

/-! ### The record -/

/-- `SessionRecord`. -/
structure SessionRecord where
  sessionId : SessionId
  remoteNode : String
  inputMode : InputMode
  startedAt : Int
  moonlight : Option SupervisedProcess
  deriving DecidableEq, Repr

/-- An `InputMode` in snake case. -/
def inputModeWire : InputMode → String
  | .local => "local"
  | .remote => "remote"

/-- The document of a `SupervisedProcess`. -/
def encodeProcess (process : SupervisedProcess) : Document :=
  .object [("pid", .integer process.pid.toNat), ("start_ticks", .integer process.startTicks.toNat)]

/-- What is read of a `SupervisedProcess`. -/
def decodeProcess (value : Document) : Option SupervisedProcess := do
  let fields ← members ["pid", "start_ticks"] value
  return { pid := UInt32.ofNat (← requiredField "pid" (asNatural UInt32.size) fields)
           startTicks := UInt64.ofNat (← requiredField "start_ticks" (asNatural UInt64.size) fields) }

namespace SessionRecord

/-- `SessionRecord::new`, with the identifier and the time it draws. -/
def new (sessionId : SessionId) (remoteNode : String) (inputMode : InputMode) (startedAt : Int) :
    SessionRecord where
  sessionId := sessionId
  remoteNode := remoteNode
  inputMode := inputMode
  startedAt := startedAt
  moonlight := none

variable (texts : Texts)

/-- The fields of a record whose timestamp is written so. -/
def fields (record : SessionRecord) (startedAt : String) : List (String × Document) :=
  [("session_id", record.sessionId.encode texts), ("remote_node", .string record.remoteNode),
    ("input_mode", .string (inputModeWire record.inputMode)), ("started_at", .string startedAt)] ++
    skipNone "moonlight" (record.moonlight.map encodeProcess)

/-- The document of a record. -/
def encode (record : SessionRecord) : Option Document := do
  return .object (record.fields texts (← texts.timestamp record.startedAt))

/-- What is read of a record. -/
def decode (value : Document) : Option SessionRecord := do
  let fields ← members ["session_id", "remote_node", "input_mode", "started_at", "moonlight"] value
  return { sessionId := ← requiredField "session_id" (SessionId.decode texts) fields
           remoteNode := ← requiredField "remote_node" asString fields
           inputMode := ← requiredField "input_mode" (decodeNamed [.local, .remote] inputModeWire) fields
           startedAt := ← requiredField "started_at" (fun value => do
             texts.readTimestamp (← asString value)) fields
           moonlight := ← optionalField "moonlight" decodeProcess fields }

variable {texts}

theorem decodeProcess_encode (process : SupervisedProcess) :
    decodeProcess (encodeProcess process) = some process := by
  rw [encodeProcess, decodeProcess, members, Option.bind_eq_bind, Option.bind_some,
    requiredField_eq (field_left (by decide) _ _), requiredField_eq (field_right (by decide) _ _),
    asNatural_integer process.pid.toNat_lt, asNatural_integer process.startTicks.toNat_lt]
  simp

/-- A record is read as it was written, so that the file stands for the record. -/
theorem decode_encode (lossless : texts.Lossless) {record : SessionRecord}
    (dated : FourDigitYear record.startedAt) :
    ∃ document, record.encode texts = some document ∧ decode texts document = some record := by
  obtain ⟨text, written, read⟩ := lossless.timestamp _ dated
  refine ⟨.object (record.fields texts text), by rw [encode, written]; rfl, ?_⟩
  obtain ⟨id, node, mode, time, moonlight⟩ := record
  have named : decodeNamed [.local, .remote] inputModeWire (.string (inputModeWire mode)) = some mode := by
    cases mode <;> decide
  have process : optionalField "moonlight" decodeProcess (fields texts ⟨id, node, mode, time, moonlight⟩
      text) = some moonlight := by
    cases moonlight with
    | none => exact optionalField_none (by simp [field, fields, skipNone])
    | some process =>
        exact optionalField_some (by simp [field, fields, skipNone]) (fun null => by cases null)
          (decodeProcess_encode process)
  have found (name : String) (value : Document)
      (listed : (name, value) ∈ [("session_id", id.encode texts), ("remote_node", .string node),
        ("input_mode", .string (inputModeWire mode)), ("started_at", .string text)]) :
      field name (fields texts ⟨id, node, mode, time, moonlight⟩ text) = some (some value) := by
    simp only [List.mem_cons, Prod.mk.injEq, List.not_mem_nil, or_false] at listed
    rcases listed with ⟨rfl, rfl⟩ | ⟨rfl, rfl⟩ | ⟨rfl, rfl⟩ | ⟨rfl, rfl⟩ <;>
      cases moonlight <;> simp [field, fields, skipNone]
  have session := found "session_id" (id.encode texts) (by simp)
  have remote := found "remote_node" (.string node) (by simp)
  have input := found "input_mode" (.string (inputModeWire mode)) (by simp)
  have started := found "started_at" (.string text) (by simp)
  simp only [decode, members, Option.bind_eq_bind, Option.bind_some, process, requiredField_eq session,
    SessionId.decode_encode lossless, requiredField_eq remote, requiredField_eq input, named,
    requiredField_eq started, asString, read]
  rfl

end SessionRecord

/-! ### The programs -/

/-- A call of a program: of a port of the connection, or of the file of the record and the processes. A
removal is made for a session. Where the journal asks who has made a call, the call has the name of its
process: the names are free, and any number of processes may each have their own. -/
inductive SessionCall
  | port (call : PortCall)
  | observe (pid : Nat)
  | running (caller : Nat) (process : SupervisedProcess)
  | write (record : SessionRecord)
  | read (caller : Nat)
  | remove (caller : Nat) (owner : SessionId)
  | kill (caller : Nat) (pid : UInt32)

/-- The answer to each call. -/
abbrev SessionAnswer : SessionCall → Type
  | .port call => PortAnswer call
  | .observe _ => Option SupervisedProcess
  | .running _ _ => Bool
  | .write _ => Except StateError Unit
  | .read _ => Except StateError SessionRecord
  | .remove _ _ => Unit
  | .kill _ _ => Unit

/-- A program over them. -/
abbrev SessionM := Program SessionCall SessionAnswer

/-- One call, whatever it answers. -/
abbrev inSession (call : SessionCall) : SessionM (SessionAnswer call) := perform call

/-- `SessionRecord::remove_if_owned`. -/
def removeIfOwned (caller : Nat) (sessionId : SessionId) : SessionM Unit := do
  let found : Except StateError SessionRecord ← inSession (.read caller)
  match found with
  | .ok record =>
      if record.sessionId = sessionId then inSession (.remove caller sessionId) else return
  | .error _ => return

/-- What `SupervisedProcess::observe` finds of the launched process. -/
def observeMoonlight (pid : Option Nat) : SessionM (Option SupervisedProcess) :=
  match pid with
  | some pid => inSession (.observe pid)
  | none => return none

/-- A call of a connection; once the stream has started, the record is written again with its process. -/
def recording (record : SessionRecord) (call : PortCall) : SessionM (PortAnswer call) :=
  match call with
  | .started pid => do
      let moonlight ← observeMoonlight pid
      let _ ← inSession (.write { record with moonlight })
      return ()
  | call => inSession (.port call)

/-- The session of `omdesky connect`, with its record if there is a runtime directory. -/
def connectSession (caller : Nat) (node : ConnectNode) (rounds : Nat) (request : ConnectRequest)
    (record : Option SessionRecord) : SessionM (PortResult Int) := do
  match record with
  | none => within SessionCall.port (executeWithStarted node rounds request).run
  | some record =>
      let _ ← inSession (.write record)
      let exit ← expand (recording record) (executeWithStarted node rounds request).run
      removeIfOwned caller record.sessionId
      return exit

/-- The process of a record is signalled if it still runs. -/
def stopMoonlight (caller : Nat) (moonlight : Option SupervisedProcess) : SessionM Unit := do
  match moonlight with
  | some process =>
      let running : Bool ← inSession (.running caller process)
      if running then inSession (.kill caller process.pid) else return
  | none => return

/-- `disconnect`. -/
def disconnect (caller : Nat) : SessionM (Except StateError Unit) := do
  let found : Except StateError SessionRecord ← inSession (.read caller)
  match found with
  | .error error => return .error error
  | .ok record =>
      stopMoonlight caller record.moonlight
      removeIfOwned caller record.sessionId
      return .ok ()

/-- A program that is started by a process: `omdesky connect` with the identifier and the time of its
session, or `omdesky disconnect`. -/
inductive Invocation
  | connect (caller : Nat) (node : ConnectNode) (rounds : Nat) (request : ConnectRequest)
      (target : String) (sessionId : SessionId) (startedAt : Int)
  | disconnect (caller : Nat)

/-- What it does. -/
def Invocation.program : Invocation → SessionM Unit
  | .connect caller node rounds request target sessionId startedAt => do
      let record := SessionRecord.new sessionId target request.inputMode startedAt
      let _ ← connectSession caller node rounds request (some record)
      return ()
  | .disconnect caller => do
      let _ ← Cli.disconnect caller
      return ()

/-! ### The computer -/

/-- What has been done to the record and the processes: a process has read the record, found the process
on record running, signalled a number, or removed the record for a session. -/
inductive Entry
  | launched (pid : Nat)
  | observed (process : SupervisedProcess)
  | wrote (record : SessionRecord)
  | saw (caller : Nat) (record : SessionRecord)
  | found (caller : Nat) (process : SupervisedProcess)
  | killed (caller : Nat) (pid : UInt32)
  | removed (caller : Nat) (owner : SessionId)
  deriving DecidableEq

/-- The file, the processes, and the journal, newest first. -/
structure Machine where
  file : Option SessionRecord
  proc : ProcStat
  journal : List Entry

/-- One more entry. -/
def Machine.note (machine : Machine) (entry : Entry) : Machine :=
  { machine with journal := entry :: machine.journal }

/-- What a call does. Every access to the file may fail; a write that fails may have replaced it. -/
def sessionWorld : World SessionCall SessionAnswer Machine
  | .port (.launch _), machine, answer, after =>
      match answer with
      | .ok (some pid) => after = machine.note (.launched pid)
      | _ => after = machine
  | .port _, machine, _, after => after = machine
  | .observe pid, machine, answer, after =>
      answer = SupervisedProcess.observe machine.proc (UInt32.ofNat pid) ∧
        after = match answer with
          | some process => machine.note (.observed process)
          | none => machine
  | .running caller process, machine, answer, after =>
      answer = process.isStillRunning machine.proc ∧
        after = if answer then machine.note (.found caller process) else machine
  | .write record, machine, answer, after =>
      ((∃ error, answer = .error error) ∧ after = machine) ∨
        after = { machine with file := some record }.note (.wrote record)
  | .read caller, machine, answer, after =>
      match answer with
      | .ok record => machine.file = some record ∧ after = machine.note (.saw caller record)
      | .error _ => after = machine
  | .remove caller owner, machine, _, after =>
      after = machine ∨ after = { machine with file := none }.note (.removed caller owner)
  | .kill caller pid, machine, _, after => after = machine.note (.killed caller pid)

/-- What else happens: processes come and go. -/
def processesChange (machine after : Machine) : Prop :=
  ∃ proc, after = { machine with proc }

/-- The computer after it was started: there is no record. -/
def Machine.booted (proc : ProcStat) : Machine where
  file := none
  proc := proc
  journal := []

/-! ### The law of the journal -/

/-- The record in the file after what has been done. -/
def recordAfter : List Entry → Option SessionRecord
  | [] => none
  | .wrote record :: _ => some record
  | .removed _ _ :: _ => none
  | _ :: earlier => recordAfter earlier

/-- What an entry rests on. -/
def Rests (earlier : List Entry) : Entry → Prop
  | .observed process => ∃ pid, .launched pid ∈ earlier ∧ process.pid = UInt32.ofNat pid
  | .wrote record => ∀ process, record.moonlight = some process → .observed process ∈ earlier
  | .saw _ record => recordAfter earlier = some record
  | .killed caller pid => ∃ last process between record before,
      earlier = last ++ .found caller process :: (between ++ .saw caller record :: before) ∧
        process.pid = pid ∧ record.moonlight = some process
  | .removed caller owner => ∃ between record before,
      earlier = between ++ .saw caller record :: before ∧ record.sessionId = owner
  | _ => True

/-- Every entry rests on what was before it. -/
def Lawful (journal : List Entry) : Prop :=
  ∀ later entry earlier, journal = later ++ entry :: earlier → Rests earlier entry

/-- The journal is lawful, and the file is what it says. -/
structure Kept (machine : Machine) : Prop where
  file : machine.file = recordAfter machine.journal
  lawful : Lawful machine.journal

/-- Signals go to launched processes only, and records of others are removed only if they came after
the remover had looked. -/
structure Supervised (machine : Machine) : Prop where
  /-- The signaller has read a process of this number from the record, and then found that very process
  running, with the start time on record. The process had been observed, and its number is one that a
  launch had answered with. -/
  signals : ∀ later caller pid earlier, machine.journal = later ++ .killed caller pid :: earlier →
    ∃ last process between record before launched,
      earlier = last ++ .found caller process :: (between ++ .saw caller record :: before) ∧
        process.pid = pid ∧ record.moonlight = some process ∧ .observed process ∈ before ∧
          .launched launched ∈ before ∧ pid = UInt32.ofNat launched
  /-- A record that is removed is the one that its owner had found, or was written since. -/
  removals : ∀ later caller owner earlier record,
    machine.journal = later ++ .removed caller owner :: earlier → recordAfter earlier = some record →
      ∃ mine between before, earlier = between ++ .saw caller mine :: before ∧
        mine.sessionId = owner ∧ (record = mine ∨ .wrote record ∈ between)
  /-- The process on record was launched and observed. -/
  recorded : ∀ record process, machine.file = some record → record.moonlight = some process →
    ∃ launched, .observed process ∈ machine.journal ∧ .launched launched ∈ machine.journal ∧
      process.pid = UInt32.ofNat launched

/-- The journal grows. -/
def Grows (machine after : Machine) : Prop := machine.journal <:+ after.journal

/-! ### One call -/

section Calls

variable {machine after middle state : Machine} {journal earlier : List Entry} {entry : Entry}

theorem lawful_cons : Lawful (entry :: journal) ↔ Rests journal entry ∧ Lawful journal := by
  constructor
  · intro lawful
    exact ⟨lawful [] entry journal rfl, fun later other earlier split =>
      lawful (entry :: later) other earlier (congrArg (entry :: ·) split)⟩
  · rintro ⟨rests, lawful⟩ later other earlier split
    cases later with
    | nil =>
        obtain ⟨rfl, rfl⟩ := List.cons.inj split
        exact rests
    | cons first later =>
        obtain ⟨rfl, rest⟩ := List.cons.inj split
        exact lawful later other earlier rest

/-- An entry that rests on what was before it. -/
theorem Kept.note (kept : Kept machine) {file : Option SessionRecord}
    (rests : Rests machine.journal entry) (same : file = recordAfter (entry :: machine.journal)) :
    Kept ({ machine with file }.note entry) where
  file := same
  lawful := lawful_cons.mpr ⟨rests, kept.lawful⟩

theorem grows_note (file : Option SessionRecord) : Grows machine ({ machine with file }.note entry) :=
  List.suffix_cons _ _

theorem Grows.mem (grows : Grows machine after) (member : entry ∈ machine.journal) :
    entry ∈ after.journal := grows.subset member

/-- What has to have happened before a call. -/
def Warranted (machine : Machine) : SessionCall → Prop
  | .observe pid => .launched pid ∈ machine.journal
  | .write record => ∀ process, record.moonlight = some process → .observed process ∈ machine.journal
  | .remove caller owner => Rests machine.journal (.removed caller owner)
  | .kill caller pid => Rests machine.journal (.killed caller pid)
  | _ => True

/-- **A call that is warranted keeps the law.** -/
theorem kept_world {call : SessionCall} {answer : SessionAnswer call} (kept : Kept machine)
    (warranted : Warranted machine call) (answered : sessionWorld call machine answer after) :
    Kept after ∧ Grows machine after := by
  have same : Kept machine ∧ Grows machine machine := ⟨kept, List.suffix_refl _⟩
  have noted {entry : Entry} (rests : Rests machine.journal entry)
      (file : recordAfter (entry :: machine.journal) = recordAfter machine.journal) :
      Kept (machine.note entry) ∧ Grows machine (machine.note entry) :=
    ⟨kept.note rests (kept.file.trans file.symm), grows_note machine.file⟩
  cases call with
  | port call =>
      cases call with
      | launch request =>
          dsimp only [sessionWorld] at answered
          split at answered
          · rw [answered]
            exact noted trivial rfl
          · exact answered ▸ same
      | _ => exact answered ▸ same
  | observe pid =>
      obtain ⟨observed, rfl⟩ := answered
      split
      · next process found =>
          refine noted ⟨pid, warranted, ?_⟩ rfl
          obtain ⟨ticks, _, rfl⟩ := Option.map_eq_some_iff.mp observed.symm
          rfl
      · exact same
  | running caller process =>
      obtain ⟨_, rfl⟩ := answered
      split
      · exact noted trivial rfl
      · exact same
  | write record =>
      rcases answered with ⟨_, rfl⟩ | rfl
      · exact same
      · exact ⟨kept.note warranted rfl, grows_note _⟩
  | read caller =>
      dsimp only [sessionWorld] at answered
      split at answered
      · obtain ⟨found, rfl⟩ := answered
        exact noted (kept.file.symm.trans found) rfl
      · exact answered ▸ same
  | remove caller owner =>
      rcases answered with rfl | rfl
      · exact same
      · exact ⟨kept.note warranted rfl, grows_note _⟩
  | kill caller pid =>
      obtain rfl := answered
      exact noted warranted rfl

/-! ### The programs -/

/-- **One call of a program.** It keeps the law if it is warranted, whatever has happened before it. -/
theorem sound_asks {α : Type} {post : List (Event SessionCall SessionAnswer) → α → Machine → Prop}
    {trace : List (Event SessionCall SessionAnswer)} {call : SessionCall}
    {next : SessionAnswer call → SessionM α}
    (warranted : ∀ middle, Grows machine middle → Warranted middle call)
    (onward : ∀ middle answer after, Grows machine middle → Grows middle after →
      sessionWorld call middle answer after →
      Sound sessionWorld Kept Grows post (trace ++ [⟨call, answer⟩]) (next answer) after) :
    Sound sessionWorld Kept Grows post trace (.ask call next) machine := by
  intro middle answer after grown kept answered
  obtain ⟨kept, grows⟩ := kept_world kept (warranted middle grown) answered
  exact ⟨kept, grows, onward middle answer after grown grows answered⟩

/-- A program among others, of which nothing is asked at its end. -/
abbrev SoundHere {α : Type} (trace : List (Event SessionCall SessionAnswer)) (program : SessionM α)
    (state : Machine) : Prop :=
  Sound sessionWorld Kept Grows (fun _ _ _ => True) trace program state

/-- **A record is removed by a program that has read its own.** -/
theorem sound_removeIfOwned (caller : Nat) (sessionId : SessionId)
    (trace : List (Event SessionCall SessionAnswer)) :
    SoundHere trace (removeIfOwned caller sessionId) state := by
  refine sound_asks (fun _ _ => trivial) fun middle answer after _ _ answered => ?_
  cases answer with
  | error error => exact trivial
  | ok record =>
      obtain ⟨found, rfl⟩ := answered
      dsimp only [Program.bind]
      split
      · next owns =>
          refine sound_asks (fun later grown => ?_) fun _ _ _ _ _ _ => trivial
          obtain ⟨between, split⟩ := grown
          exact ⟨between, record, middle.journal, split.symm, owns⟩
      · exact trivial

/-- **A process is signalled by a program that has found it running**, after it has read its record. -/
theorem sound_stopMoonlight {caller : Nat} {record : SessionRecord} {between before : List Entry}
    (seen : state.journal = between ++ .saw caller record :: before)
    (trace : List (Event SessionCall SessionAnswer)) :
    SoundHere trace (stopMoonlight caller record.moonlight) state := by
  unfold stopMoonlight
  cases recorded : record.moonlight with
  | none => exact trivial
  | some process =>
      refine sound_asks (fun _ _ => trivial) fun middle answer after grown _ answered => ?_
      cases answer with
      | false => exact trivial
      | true =>
          obtain ⟨_, rfl⟩ := answered
          refine sound_asks (fun later after => ?_) fun _ _ _ _ _ _ => trivial
          obtain ⟨more, known⟩ := grown
          obtain ⟨last, split⟩ := after
          refine ⟨last, process, more ++ between, record, before, ?_, rfl, recorded⟩
          rw [List.append_assoc, ← seen, known]
          exact split.symm

theorem sound_disconnect (caller : Nat) (trace : List (Event SessionCall SessionAnswer)) :
    SoundHere trace (disconnect caller) state := by
  refine sound_asks (fun _ _ => trivial) fun middle answer after _ _ answered => ?_
  cases answer with
  | error error => exact trivial
  | ok record =>
      obtain ⟨found, rfl⟩ := answered
      change SoundHere _ (stopMoonlight caller record.moonlight >>= fun _ =>
        removeIfOwned caller record.sessionId >>= fun _ => return Except.ok ()) _
      refine sound_bind ?_
      have seen : (middle.note (.saw caller record)).journal = [] ++ .saw caller record :: middle.journal :=
        rfl
      refine (sound_stopMoonlight seen _).weaken fun trace _ state _ => ?_
      exact sound_bind
        ((sound_removeIfOwned caller record.sessionId trace).weaken fun _ _ _ _ => trivial)

/-! ### The connection -/

/-- A call says that a process has started only if a launch has answered with it. -/
def Launched (past : List PortEvent) (event : PortEvent) : Prop :=
  ∀ pid, event.1 = .started (some pid) → ∃ request, (⟨.launch request, .ok (some pid)⟩ : PortEvent) ∈ past

/-- The launches of a connection are in the journal. -/
def Journaled (past : List PortEvent) (machine : Machine) : Prop :=
  ∀ request pid, (⟨.launch request, .ok (some pid)⟩ : PortEvent) ∈ past →
    .launched pid ∈ machine.journal

/-- A call that tells nothing of the process of the stream. -/
def Silent (call : PortCall) : Prop := ∀ pid, call ≠ .started pid

theorem silent_of_stage {stage' : Stage} {call : PortCall} (same : stage call = stage')
    (other : stage' ≠ .stream) : Silent call := by
  rintro pid rfl
  exact other same.symm

theorem silent_of_only {α : Type} {wanted : Stage} {program : ConnectM α} (only : Only wanted program)
    (other : wanted ≠ .stream) : Uses Silent program :=
  only.weaken fun _ same => silent_of_stage same other

theorem silent_call {call : PortCall} (silent : Silent call) : Uses Silent (Application.call call) :=
  ⟨silent, fun _ => trivial⟩

theorem silent_waitForProcessOrMonitor (localAgent remoteAgent : AgentEndpoint) (rounds : Nat) :
    ∀ localFailures remoteFailures, Uses Silent
      (waitForProcessOrMonitor localAgent remoteAgent rounds localFailures remoteFailures) := by
  have watches : Silent (.watch localAgent remoteAgent) := fun _ same => by cases same
  have ends : Silent .terminate := fun _ same => by cases same
  induction rounds with
  | zero =>
      intro _ _
      refine uses_bind (silent_call fun _ same => by cases same) fun never => ?_
      cases never
  | succ rounds ih =>
      intro localFailures remoteFailures
      unfold waitForProcessOrMonitor
      refine uses_bind (silent_call watches) ?_
      rintro (exit | ⟨localAlive, remoteAlive⟩)
      · exact trivial
      · dsimp only
        split
        · exact uses_bind (silent_call ends) fun _ => trivial
        · exact ih _ _

theorem silent_shortcuts {node : ConnectNode} {request : ConnectRequest} {pid : Option Nat} :
    Uses Silent (shortcuts node request pid) := by
  have notifies (body : String) : Uses Silent (notify body) := silent_of_only (only_notify body) (by decide)
  have attaches (window : WindowSelector) : Uses Silent (attachSession request window) := by
    unfold attachSession
    refine ⟨fun _ same => (by cases same), fun installed => ?_⟩
    cases installed with
    | error error => exact trivial
    | ok value =>
        refine ⟨fun _ same => (by cases same), fun sent => ?_⟩
        cases sent with
        | error error => exact ⟨fun _ same => (by cases same), fun _ => trivial⟩
        | ok response =>
            dsimp only [Program.bind]
            split <;> exact trivial
  unfold shortcuts
  split
  · exact trivial
  · refine uses_bind (silent_of_only (only_locateStreamWindow _ _) (by decide)) fun window => ?_
    refine uses_bind (attaches window) ?_
    rintro (error | grant)
    · exact uses_bind (notifies _) fun _ => trivial
    · refine uses_bind (silent_call fun _ same => by cases same) fun _ => ?_
      exact uses_bind (notifies _) fun _ => trivial

theorem silent_restore {request : ConnectRequest} (grant : Option SessionGrant) :
    Uses Silent (restore request grant) := by
  cases grant with
  | none => exact trivial
  | some session =>
      refine uses_bind (silent_call fun _ same => by cases same) fun _ => ?_
      refine uses_bind ⟨fun _ same => (by cases same), fun cleared =>
        ⟨fun _ same => (by cases same), fun sent => ?_⟩⟩ fun result => ?_
      · cases sent <;> cases cleared <;> exact trivial
      · cases result <;> exact silent_of_only (only_notify _) (by decide)

/-- **A connection tells of a started process only after its launch.** -/
theorem launched_executeWithStarted (node : ConnectNode) (rounds : Nat) (request : ConnectRequest) :
    Along Launched [] (executeWithStarted node rounds request).run := by
  have quiet {α : Type} {program : ConnectM α} {past : List PortEvent} (uses : Uses Silent program) :
      Along Launched past program :=
    uses.along fun _ event silent pid same => absurd same (silent _)
  unfold executeWithStarted
  refine along_run_bind (quiet (silent_of_only (only_prepare _ _) (by decide))) fun prepared launch _ => ?_
  have launches : Silent (.launch launch) := fun _ same => by cases same
  refine along_run_bind (quiet (silent_call launches)) fun launching pid launched => ?_
  obtain ⟨answer, rest, rfl, rfl, answered⟩ := launched
  refine along_bind (quiet silent_shortcuts) fun shortcuts grant _ => ?_
  refine along_bind ?_ fun starting _ _ => ?_
  · intro answer
    refine ⟨fun number same => ?_, trivial⟩
    obtain rfl : pid = some number := by simpa using same
    subst answered
    exact ⟨launch, by simp⟩
  · refine along_bind (quiet (silent_waitForProcessOrMonitor _ _ _ _ _)) fun watching exit _ => ?_
    exact along_bind (quiet (silent_restore grant)) fun _ _ _ => trivial

theorem Journaled.grow {past : List PortEvent} (journaled : Journaled past machine)
    (grows : Grows machine after) : Journaled past after :=
  fun request pid member => grows.mem (journaled request pid member)

/-- An event that is no launch. -/
theorem Journaled.append {past : List PortEvent} {event : PortEvent}
    (journaled : Journaled past machine) (other : ∀ request, event.1 ≠ .launch request) :
    Journaled (past ++ [event]) machine := by
  intro request pid member
  rcases List.mem_append.mp member with earlier | last
  · exact journaled request pid earlier
  · obtain rfl := List.mem_singleton.mp last
    exact absurd rfl (other request)

/-- **The record is written with the process that was launched.** -/
theorem sound_recording (record : SessionRecord) (past : List PortEvent) (call : PortCall)
    (trace : List (Event SessionCall SessionAnswer)) (state : Machine)
    (allowed : ∀ answer, Launched past ⟨call, answer⟩) (journaled : Journaled past state) :
    Sound sessionWorld Kept Grows (fun _ answer final => Journaled (past ++ [⟨call, answer⟩]) final)
      trace (recording record call) state := by
  cases call with
  | launch request =>
      refine sound_asks (fun _ _ => trivial) fun middle answer after grown grows answered => ?_
      intro other pid member
      rcases List.mem_append.mp member with earlier | last
      · exact grows.mem (grown.mem (journaled other pid earlier))
      · cases List.mem_singleton.mp last
        obtain rfl := answered
        exact List.mem_cons_self
  | started pid =>
      have writes (moonlight : Option SupervisedProcess) (trace : List (Event SessionCall SessionAnswer))
          (middle : Machine) (known : Journaled past middle)
          (seen : ∀ process, moonlight = some process → .observed process ∈ middle.journal) :
          Sound sessionWorld Kept Grows
            (fun _ answer final => Journaled (past ++ [⟨.started pid, answer⟩]) final) trace
            (inSession (.write { record with moonlight }) >>= fun _ => return ()) middle := by
        refine sound_asks (fun _ grown process same => grown.mem (seen process same))
          fun _ _ _ grown grows _ => ?_
        exact ((known.grow grown).grow grows).append fun _ same => by cases same
      cases pid with
      | none => exact writes none trace state journaled fun _ same => by cases same
      | some pid =>
          obtain ⟨request, launched⟩ := allowed () pid rfl
          refine sound_asks (fun _ grown => grown.mem (journaled request pid launched))
            fun _ answer after grown grows answered => ?_
          refine writes answer _ after ((journaled.grow grown).grow grows) ?_
          rintro process rfl
          obtain ⟨_, rfl⟩ := answered
          exact List.mem_cons_self
  | _ =>
      refine sound_asks (fun _ _ => trivial) fun _ _ _ grown grows _ => ?_
      exact ((journaled.grow grown).grow grows).append fun _ same => by cases same

/-- **Every program that is started is sound.** -/
theorem sound_program (invocation : Invocation) (state : Machine) :
    SoundHere [] invocation.program state := by
  cases invocation with
  | disconnect caller => exact sound_bind ((sound_disconnect caller []).weaken fun _ _ _ _ => trivial)
  | connect caller node rounds request target sessionId startedAt =>
      refine sound_bind ?_
      refine sound_asks (fun _ _ => by rintro process ⟨⟩) fun middle answer after _ _ answered => ?_
      change Sound _ _ _ _ _ (expand (recording _) (executeWithStarted node rounds request).run >>=
        fun exit => removeIfOwned caller sessionId >>= fun _ => return exit) _
      refine sound_bind ?_
      refine (sound_expand (sound_recording _) (launched_executeWithStarted node rounds request) ?_).weaken
        fun trace exit state _ => ?_
      · rintro _ _ ⟨⟩
      · exact sound_bind
          ((sound_removeIfOwned caller sessionId trace).weaken fun _ _ _ _ => trivial)

/-- The computers that keep the law. -/
theorem disciplined_sessions :
    Disciplined Invocation.program sessionWorld processesChange Kept Grows (fun _ _ _ _ => True) where
  refl _ := List.suffix_refl _
  trans _ _ _ := List.IsSuffix.trans
  stable _ _ _ _ _ _ _ := trivial
  acts := by
    rintro machine _ kept ⟨proc, rfl⟩
    exact ⟨⟨kept.file, kept.lawful⟩, List.suffix_refl _⟩
  sound := sound_program

theorem kept_booted (proc : ProcStat) : Kept (.booted proc) where
  file := rfl
  lawful := by
    intro later entry earlier split
    cases later <;> cases split

/-! ### The law -/

/-- A record that has come into the file was written in between. -/
theorem wrote_of_recordAfter {between before : List Entry} {record : SessionRecord}
    (there : recordAfter (between ++ before) = some record) :
    recordAfter before = some record ∨ .wrote record ∈ between := by
  induction between with
  | nil => exact .inl there
  | cons entry between ih =>
      cases entry with
      | wrote other =>
          obtain rfl := Option.some.inj there
          exact .inr List.mem_cons_self
      | removed caller owner => cases there
      | _ => exact (ih there).imp_right (List.mem_cons_of_mem _)

/-- What is in the journal was lawful when it was done. -/
theorem Lawful.rests (lawful : Lawful journal) (done : entry ∈ journal) :
    ∃ later earlier, journal = later ++ entry :: earlier ∧ Rests earlier entry ∧ Lawful earlier := by
  obtain ⟨later, earlier, rfl⟩ := List.append_of_mem done
  refine ⟨later, earlier, rfl, lawful _ _ _ rfl, fun first other rest split => ?_⟩
  exact lawful (later ++ entry :: first) other rest (by rw [split, List.append_assoc, List.cons_append])

/-- A record in the file was written. -/
theorem wrote_of_file (there : recordAfter journal = some record) : .wrote record ∈ journal := by
  have written := @wrote_of_recordAfter journal [] _ (by rwa [List.append_nil])
  rcases written with nothing | wrote
  · cases nothing
  · exact wrote

/-- An observed process was launched. -/
theorem launched_of_observed {process : SupervisedProcess} (lawful : Lawful journal)
    (observed : .observed process ∈ journal) :
    ∃ launched, .launched launched ∈ journal ∧ process.pid = UInt32.ofNat launched := by
  obtain ⟨later, earlier, rfl, ⟨launched, member, same⟩, _⟩ := lawful.rests observed
  exact ⟨launched, List.mem_append_right _ (List.mem_cons_of_mem _ member), same⟩

/-- A process on record was observed. -/
theorem observed_of_recordAfter {record : SessionRecord} {process : SupervisedProcess}
    (lawful : Lawful journal) (there : recordAfter journal = some record)
    (recorded : record.moonlight = some process) : .observed process ∈ journal := by
  obtain ⟨_, _, rfl, observed, _⟩ := lawful.rests (wrote_of_file there)
  simp [observed process recorded]

/-- What was lawful with more to come was lawful before. -/
theorem Lawful.of_append {later : List Entry} (lawful : Lawful (later ++ journal)) : Lawful journal :=
  fun first entry rest split => lawful (later ++ first) entry rest (by rw [split, List.append_assoc])

/-- The law says it all. -/
theorem Kept.supervised (kept : Kept machine) : Supervised machine where
  signals := by
    intro later caller pid earlier split
    have lawful := kept.lawful
    obtain ⟨last, process, between, record, before, rfl, same, recorded⟩ := lawful later _ earlier split
    have read : machine.journal = (later ++ .killed caller pid :: last ++ .found caller process :: between) ++
        .saw caller record :: before := by simp [split]
    have there : recordAfter before = some record := lawful _ (.saw caller record) before read
    rw [read, List.append_cons] at lawful
    have observed := observed_of_recordAfter lawful.of_append there recorded
    obtain ⟨launched, member, number⟩ := launched_of_observed lawful.of_append observed
    exact ⟨last, process, between, record, before, launched, rfl, same, recorded, observed, member,
      same ▸ number⟩
  removals := by
    intro later caller owner earlier record split there
    obtain ⟨between, mine, before, rfl, owns⟩ := kept.lawful later _ earlier split
    refine ⟨mine, between, before, rfl, owns, ?_⟩
    have found : recordAfter before = some mine :=
      kept.lawful (later ++ .removed caller owner :: between) (.saw caller mine) before (by simp [split])
    rcases wrote_of_recordAfter there with same | wrote
    · exact .inl (Option.some.inj (same.symm.trans found))
    · exact .inr wrote
  recorded := by
    intro record process there recorded
    have member := observed_of_recordAfter kept.lawful (kept.file ▸ there) recorded
    obtain ⟨launched, known, number⟩ := launched_of_observed kept.lawful member
    exact ⟨launched, member, known, number⟩

/-- **The law of sessions.** However many connections and disconnections run, and whatever becomes of
the processes in the meantime, every signal, every removal and the record itself are accounted for. -/
theorem reachable_supervised {proc : ProcStat}
    {pool : Pool Invocation SessionCall SessionAnswer Unit Machine}
    (reached : pool.Reachable Invocation.program sessionWorld processesChange (.booted proc)) :
    Supervised pool.shared :=
  (disciplined_sessions.reachable (kept_booted proc) reached).1.supervised

end Calls

/-- The desk, where Moonlight is process 42. -/
private def deskProc : ProcStat := fun pid =>
  if pid = 42 then some (recycledLine "moonlight" "987") else none

private theorem observe_deskProc : SupervisedProcess.observe deskProc 42 = some ⟨42, 987⟩ := by
  decide +kernel

private theorem running_deskProc : SupervisedProcess.isStillRunning ⟨42, 987⟩ deskProc = true := by
  decide +kernel

/-- The first task takes a step. -/
private theorem reachable_head {proc : ProcStat} {input : Invocation} {state after : Machine}
    {trace : List (Event SessionCall SessionAnswer)} {program : SessionM Unit} {request : SessionCall}
    {next : SessionAnswer request → SessionM Unit}
    {others : List (Task Invocation SessionCall SessionAnswer Unit)}
    (reached : Pool.Reachable Invocation.program sessionWorld processesChange (.booted proc)
      ⟨state, ⟨input, trace, program⟩ :: others⟩) (asks : program = .ask request next)
    (answer : SessionAnswer request) (answered : sessionWorld request state answer after) :
    Pool.Reachable Invocation.program sessionWorld processesChange (.booted proc)
      ⟨after, ⟨input, trace ++ [⟨request, answer⟩], next answer⟩ :: others⟩ := by
  subst asks
  exact reached.tail (@Pool.Step.run _ _ _ _ _ _ _ _ _ _ [] others _ _ _ _ _ answered)

/-- The desk connects to the tower and disconnects again, while the stream still runs. -/
private theorem reaches_killed : ∃ pool,
    Pool.Reachable Invocation.program sessionWorld processesChange (.booted deskProc) pool ∧
      .killed 2 42 ∈ pool.shared.journal := by
  have s0 : Pool.Reachable Invocation.program sessionWorld processesChange (.booted deskProc)
      ⟨.booted deskProc, []⟩ := .refl
  have s1 := s0.tail (.spawn (.connect 1 ⟨"desk", false⟩ 1 { deskRequest with inputMode := .local }
    "tower" ⟨7⟩ 0))
  have s2 := reachable_head s1 rfl (.ok ()) (.inr rfl)
  have s3 := reachable_head s2 rfl (.ok (some ⟨"tower", none, none, []⟩)) rfl
  have s4 := reachable_head s3 rfl (.ok [callbackEntry]) rfl
  have s5 := reachable_head s4 rfl (.ok ⟨true, true, true, none, true⟩) rfl
  have s6 := reachable_head s5 rfl (.ok .paired) rfl
  have s7 := reachable_head s6 rfl (.ok (), .ok ()) rfl
  have s8 := reachable_head s7 rfl (.ok (some 42)) rfl
  have s9 := reachable_head s8 rfl (some ⟨42, 987⟩) ⟨observe_deskProc.symm, rfl⟩
  have s10 := reachable_head s9 rfl (.ok ()) (.inr rfl)
  have s11 := s10.tail (.spawn (.disconnect 2))
  have s12 := reachable_head s11 rfl (.ok _) ⟨rfl, rfl⟩
  have s13 := reachable_head s12 rfl true ⟨running_deskProc.symm, rfl⟩
  have s14 := reachable_head s13 rfl () rfl
  exact ⟨_, s14, List.mem_cons_self⟩

/-- The signal is accounted for. -/
theorem reachable_supervised_killed : ∃ pool : Pool Invocation SessionCall SessionAnswer Unit Machine,
    pool.Reachable Invocation.program sessionWorld processesChange (.booted deskProc) ∧
      .killed 2 42 ∈ pool.shared.journal ∧ Supervised pool.shared := by
  obtain ⟨pool, reached, killed⟩ := reaches_killed
  exact ⟨pool, reached, killed, reachable_supervised reached⟩

end Omdesky.Cli
