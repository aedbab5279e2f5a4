/-
**Pairing through Moonlight (`omdesky-platform/src/moonlight.rs`).**

`moonlight pair` prints a PIN and waits until somebody enters it into Sunshine on the other computer. The
adapter starts it, reads the PIN off its output and waits for it to finish.

* `extractPin`, `readPin`, `beginPairing`, `complete`, `pairingState`, `launch`: the adapter. The lines read
  for a PIN are bounded by a parameter; a run that needs more of them is a run with a larger bound. What the
  end of a connection drops is not part of its calls.
* `adapter`: the ports of a connection, those of Moonlight carried out by the adapter.
* `PinOf`: the first group of digits of a line, if there are four of them.
* `Proper`: the rule of every call of such a connection, given the calls before it.
* `moonlight_law`: **every call of a connection is proper**: the one PIN that is submitted is the one that
  Moonlight shows for this host.
-/

import Omdesky.Application.Connect.Pairing
import Omdesky.Interaction.Expand
import Omdesky.Platform.Moonlight
import Omdesky.Platform.Process

namespace Omdesky.Platform.Moonlight

open Interaction Interaction.Program Application
open CommandRunner (CommandOutput ExitStatus)

/-! ### The calls -/

/-- How a wait under a timeout ends. -/
inductive Timed (α : Type)
  | ready (value : α)
  | elapsed
  deriving DecidableEq, Repr

/-- The output of the child that a task drains. -/
inductive Drained
  | stderr
  | stdout
  deriving DecidableEq, Repr

/-- A call of the adapter: to the other ports, to the command runner, or to the pairing child. -/
inductive MoonlightCall
  | port (request : PortCall)
  | run (spec : CommandSpec)
  | spawn (spec : CommandSpec)
  | buildCommand (spec : CommandSpec)
  | start (spec : CommandSpec)
  | drain (output : Drained)
  | abort (output : Drained)
  | readLine
  | startKill
  | waitChild (limit : Duration)

/-- The answer to each call; a start answers whether the output of the child is there. -/
abbrev MoonlightAnswer : MoonlightCall → Type
  | .port request => PortAnswer request
  | .run _ => PortResult CommandOutput
  | .spawn _ => PortResult (Option Nat)
  | .buildCommand _ => PortResult Unit
  | .start _ => Except String Bool
  | .drain _ => Unit
  | .abort _ => Unit
  | .readLine => Timed (Except String (Option String))
  | .startKill => Except String Unit
  | .waitChild _ => Timed (Except String ExitStatus)

/-- A program over these calls. -/
abbrev MoonlightM := Program MoonlightCall MoonlightAnswer

/-- One call, whatever it answers. -/
abbrev invoke (request : MoonlightCall) : MoonlightM (MoonlightAnswer request) := perform request

/-- An event of such a program. -/
abbrev MoonlightEvent := Event MoonlightCall MoonlightAnswer

/-! ### The code -/

/-- `PAIRING_COMPLETION_TIMEOUT`. -/
def pairingCompletionTimeout : Duration := .fromSecs 30

/-- `PAIRING_REAP_TIMEOUT`. -/
def pairingReapTimeout : Duration := .fromSecs 5

/-- A failure of the pairing. -/
def pairingFailed (message : String) (retryable : Bool) : PortError :=
  { code := "MOONLIGHT_PAIRING_FAILED", message, retryable }

/-- Moonlight is not there. -/
def notInstalled (message : String) : PortError :=
  { code := "MOONLIGHT_NOT_INSTALLED", message, retryable := false }

/-- `extract_pin`. -/
def extractPin (line : String) : Option String :=
  let digits := String.ofList ((line.toList.dropWhile fun c => !c.isDigit).takeWhile Char.isDigit)
  if digits.utf8ByteSize = 4 then some digits else none

/-- `read_pin`, under the one timeout of 20 seconds for all lines. -/
def readPin : (reads : Nat) → MoonlightM (Timed (PortResult String))
  | 0 => do nomatch ← invoke (.port .pending)
  | reads + 1 => do
      match ← invoke .readLine with
      | .ready (.ok (some line)) =>
          match extractPin line with
          | some pin => return .ready (.ok pin)
          | none => readPin reads
      | .ready _ =>
          return .ready (.error (pairingFailed "Moonlight exited without printing a pairing PIN" true))
      | .elapsed => return .elapsed

/-- `reap`. -/
def reap : MoonlightM Unit := do
  let _ ← invoke .startKill
  let _ ← invoke (.waitChild pairingReapTimeout)

/-- The command that lists the applications of a host. -/
def listSpec (address : IpAddr) : CommandSpec := moonlightSpec ["list", address.display]

/-- The command that pairs with a host. -/
def pairSpec (address : IpAddr) : CommandSpec := moonlightSpec ["pair", address.display]

/-- The pairing is given up: its errors are no longer read, and the child is ended. -/
def giveUp (error : PortError) : MoonlightM (PortResult String) := do
  invoke (.abort .stderr)
  reap
  return .error error

/-- The PIN that a started child prints. -/
def showPin (reads : Nat) (stdout : Bool) : MoonlightM (PortResult String) := do
  invoke (.drain .stderr)
  if !stdout then
    giveUp (pairingFailed "Moonlight did not expose its pairing output" false)
  else
    match ← readPin reads with
    | .ready (.ok pin) =>
        invoke (.drain .stdout)
        return .ok pin
    | .ready (.error error) => giveUp error
    | .elapsed => giveUp (pairingFailed "timed out waiting for Moonlight to produce a pairing PIN" true)

/-- `MoonlightAdapter::begin_pairing`. -/
def beginPairing (reads : Nat) (host : StreamHostDescriptor) : MoonlightM (PortResult String) := do
  match host.validate with
  | .error error => return .error error
  | .ok () =>
      match ← invoke (.buildCommand (pairSpec host.address)) with
      | .error error => return .error (notInstalled error.message)
      | .ok () =>
          match ← invoke (.start (pairSpec host.address)) with
          | .error failure =>
              return .error (notInstalled ("unable to launch Moonlight pairing: " ++ failure))
          | .ok stdout => showPin reads stdout

/-- The drop of a `MoonlightPairing`. -/
def dropPairing : MoonlightM Unit := do
  invoke (.abort .stderr)
  invoke (.abort .stdout)

/-- `MoonlightPairing::complete`. -/
def complete : MoonlightM (PortResult Unit) := do
  match ← invoke (.waitChild pairingCompletionTimeout) with
  | .ready (.ok _) =>
      dropPairing
      return .ok ()
  | .ready (.error failure) =>
      dropPairing
      return .error (pairingFailed ("could not wait for Moonlight pairing: " ++ failure) true)
  | .elapsed =>
      reap
      dropPairing
      return .error (pairingFailed "timed out waiting for Moonlight to finish pairing" true)

/-- `MoonlightAdapter::pairing_state`. -/
def pairingState (host : StreamHostDescriptor) : MoonlightM (PortResult StreamPairing) := do
  match host.validate with
  | .error error => return .error error
  | .ok () =>
      match ← invoke (.run (listSpec host.address)) with
      | .ok _ => return .ok .paired
      | .error error =>
          if error.code = "COMMAND_FAILED" then
            return .ok .required
          else if error.code = "COMMAND_NOT_AVAILABLE" then
            return .error (notInstalled error.message)
          else
            return .error { code := "MOONLIGHT_UNSUPPORTED", message := error.message, retryable := false }

/-- `MoonlightAdapter::launch`. -/
def launch (request : StreamLaunchRequest) : MoonlightM (PortResult (Option Nat)) := do
  match request.host.validate with
  | .error error => return .error error
  | .ok () =>
      match request.profile.validate with
      | .error error =>
          return .error
            { code := "INVALID_STREAM_PROFILE", message := error.message, retryable := false }
      | .ok () =>
          match ← invoke (.spawn (launchSpec request)) with
          | .ok pid => return .ok pid
          | .error error =>
              return .error
                { code := "STREAM_START_FAILED", message := error.message, retryable := error.retryable }

/-- The ports of a connection, with the adapter for Moonlight. -/
def adapter (reads : Nat) : (request : PortCall) → MoonlightM (PortAnswer request)
  | .pairingState host => pairingState host
  | .beginPairing host => beginPairing reads host
  | .completePairing => complete
  | .launch request => launch request
  | request => invoke (.port request)

/-! ### The PIN of a line -/

/-- The first group of digits of the line is the PIN, and has four of them. -/
def PinOf (line pin : String) : Prop :=
  ∃ front back, line.toList = front ++ pin.toList ++ back ∧ (∀ c ∈ front, c.isDigit = false) ∧
    (∀ c ∈ pin.toList, c.isDigit = true) ∧ pin.toList.length = 4 ∧
    ∀ c ∈ back.head?, c.isDigit = false

/-- A text of digits has a byte for each of them. -/
theorem utf8ByteSize_digits {digits : List Char} (all : ∀ c ∈ digits, c.isDigit = true) :
    (String.ofList digits).utf8ByteSize = digits.length := by
  induction digits with
  | nil => rfl
  | cons c rest ih =>
      obtain ⟨here, others⟩ := List.forall_mem_cons.mp all
      have one : c.utf8Size = 1 := by
        have small : c.val ≤ 57 := by
          simp only [Char.isDigit, ge_iff_le, Bool.and_eq_true, decide_eq_true_eq] at here
          exact here.2
        exact Char.utf8Size_eq_one_iff.mpr (Nat.le_trans (UInt32.le_iff_toNat_le.mp small) (by decide))
      rw [utf8ByteSize_ofList_cons, ih others, one, List.length_cons, Nat.add_comm]

theorem extractPin_eq_some_iff {line pin : String} : extractPin line = some pin ↔ PinOf line pin := by
  unfold extractPin
  constructor
  · intro found
    generalize later : line.toList.dropWhile (fun c => !c.isDigit) = rest at found
    have whole : line.toList = line.toList.takeWhile (fun c => !c.isDigit) ++
        (rest.takeWhile Char.isDigit ++ rest.dropWhile Char.isDigit) := by
      rw [List.takeWhile_append_dropWhile, ← later, List.takeWhile_append_dropWhile]
    have all : ∀ c ∈ rest.takeWhile Char.isDigit, c.isDigit = true := fun _ => List.mem_takeWhile_imp
    dsimp only at found
    rw [utf8ByteSize_digits all] at found
    obtain ⟨four, same⟩ := Option.ite_none_right_eq_some.mp found
    obtain rfl := Option.some.inj same
    refine ⟨line.toList.takeWhile fun c => !c.isDigit, rest.dropWhile Char.isDigit, ?_, ?_, ?_, ?_, ?_⟩
    · rw [String.toList_ofList, List.append_assoc]
      exact whole
    · exact fun c member => by simpa using List.mem_takeWhile_imp member
    · rwa [String.toList_ofList]
    · rwa [String.toList_ofList]
    · intro c first
      have stops := List.head?_dropWhile_not Char.isDigit rest
      rw [Option.mem_def.mp first] at stops
      exact stops
  · rintro ⟨front, back, whole, clear, all, four, stops⟩
    have digits : (line.toList.dropWhile fun c => !c.isDigit).takeWhile Char.isDigit = pin.toList := by
      obtain ⟨c, others, same⟩ := List.exists_cons_of_length_eq_add_one four
      have first : c.isDigit = true := all c (by rw [same]; exact List.mem_cons_self)
      have skipped : line.toList.dropWhile (fun c => !c.isDigit) = pin.toList ++ back := by
        rw [whole, List.append_assoc, List.dropWhile_append_of_pos fun c member => by
          rw [clear c member]; rfl, same, List.cons_append, List.dropWhile_cons_of_neg (by simp [first])]
      rw [skipped, takeWhile_append_of_stop all stops]
    dsimp only
    rw [digits, utf8ByteSize_digits all, if_pos four, String.ofList_toList]

/-! ### The rule -/

/-- Whether the child of a pairing runs after a call, for whether it did before. -/
def runningAfter (runs : Bool) : MoonlightEvent → Bool
  | ⟨.start _, .ok _⟩ => true
  | ⟨.startKill, _⟩ | ⟨.waitChild _, .ready (.ok _)⟩ => false
  | _ => runs

/-- The child of a pairing runs: it was started, and was neither ended nor waited for since. -/
def running (past : List MoonlightEvent) : Bool := past.foldl runningAfter false

/-- The call submits a PIN. -/
def isSubmission : MoonlightCall → Bool
  | .port (.sunshinePair _ _) => true
  | _ => false

/-- The line was read from the output of the child. -/
def read (line : String) : MoonlightEvent := ⟨.readLine, .ready (.ok (some line))⟩

/-- Moonlight was started for this host and printed some lines, of which the last one is the first to show a
PIN, and this is it. -/
def Shows (address : IpAddr) (events : List MoonlightEvent) (pin : String) : Prop :=
  ∃ (lines : List String) (last : String), events = ⟨.buildCommand (pairSpec address), .ok ()⟩ ::
      ⟨.start (pairSpec address), .ok true⟩ :: ⟨.drain .stderr, ()⟩ ::
        (lines.map read ++ [read last, ⟨.drain .stdout, ()⟩]) ∧
    (∀ line ∈ lines, ∀ other, ¬PinOf line other) ∧ PinOf last pin

/-- The PIN goes to the agent that was asked, once Sunshine was reported to be ready for it, with the
challenge of this agent, and is the PIN that Moonlight shows for its address. -/
structure SubmitsShown (clientName : String) (endpoint : AgentEndpoint) (past : List MoonlightEvent)
    (asked : AgentEndpoint) (request : SunshinePairRequest) : Prop where
  there : asked = endpoint
  parts : ∃ opening status challenge shown,
    past = opening ++ ⟨.port (.sunshineStatus endpoint), .ok status⟩ ::
      ⟨.port (.sunshinePairChallenge endpoint), .ok challenge⟩ :: shown ∧
    status.running = true ∧ status.pairingApiAvailable = true ∧
    Shows endpoint.address shown request.pin ∧ request.pairingId = challenge.pairingId
  named : request.clientName = clientName
  first : ∀ event ∈ past, isSubmission event.1 = false

/-- The last that was heard of Moonlight is the list of the applications of this host. -/
def Listed (address : IpAddr) (past : List MoonlightEvent) : Prop :=
  ∃ opening output rest, past = opening ++ ⟨.run (listSpec address), .ok output⟩ :: rest ∧
    ∀ event ∈ rest, ∃ request, event.1 = .port request ∧ isPlain request = true

/-- **The rule of every call**, after those before it. -/
def Proper (clientName : String) (endpoint : AgentEndpoint) (past : List MoonlightEvent)
    (event : MoonlightEvent) : Prop :=
  match event.1 with
  | .port (.sunshinePair asked request) => SubmitsShown clientName endpoint past asked request
  | .port _ => running past = false
  | .run spec => running past = false ∧ spec = listSpec endpoint.address
  | .buildCommand spec | .start spec => running past = false ∧ spec = pairSpec endpoint.address
  | .spawn spec => running past = false ∧ Listed endpoint.address past ∧ ∃ request, spec = launchSpec request ∧
      request.host.address = endpoint.address ∧ request.host.validate = .ok () ∧
      request.profile.validate = .ok ()
  | .drain _ | .readLine | .startKill => running past = true
  | .abort _ | .waitChild _ => True

/-! ### What the adapter does -/

section Adapter

variable {clientName : String} {endpoint : AgentEndpoint} {past : List MoonlightEvent} {reads : Nat}

theorem running_concat (past : List MoonlightEvent) (event : MoonlightEvent) :
    running (past ++ [event]) = runningAfter (running past) event := by
  unfold running
  rw [List.foldl_append]
  rfl

/-- A call that leaves the child as it is. -/
theorem running_same {event : MoonlightEvent} {runs : Bool} (before : running past = runs)
    (same : runningAfter runs event = runs) : running (past ++ [event]) = runs := by
  rw [running_concat, before, same]

/-- While lines are read, the child runs. -/
theorem follows_readPin (runs : running past = true) : Follows (Proper clientName endpoint)
    (fun after _ => running after = true) past (readPin reads) := by
  induction reads generalizing past with
  | zero =>
      refine ⟨fun never => (by cases never), ?_⟩
      rintro trace value ⟨⟨⟩, _⟩
  | succ reads ih =>
      refine follows_perform (fun _ => runs) ?_
      rintro ((failure | (_ | line)) | _)
      · exact follows_done (running_same runs rfl)
      · exact follows_done (running_same runs rfl)
      · have still : running (past ++ [read line]) = true := running_same runs rfl
        show Follows _ _ (past ++ [read line]) (match extractPin line with
          | some pin => return .ready (.ok pin)
          | none => readPin reads)
        split
        · exact follows_done still
        · exact ih still
      · exact follows_done (running_same runs rfl)

/-- The child is ended when the pairing is given up. -/
theorem follows_reap (runs : running past = true) : Follows (Proper clientName endpoint)
    (fun after _ => running after = false) past reap := by
  refine follows_perform (fun _ => runs) fun ended => ?_
  have quiet : running (past ++ [⟨.startKill, ended⟩]) = false := running_concat _ _
  refine follows_perform (fun _ => trivial) ?_
  rintro ((failure | status) | _) <;> exact follows_done (running_same quiet rfl)

theorem follows_giveUp {error : PortError} (runs : running past = true) :
    Follows (Proper clientName endpoint)
      (fun after result => running after = result.isOk) past (giveUp error) := by
  refine follows_perform (fun _ => trivial) fun _ => ?_
  have still : running (past ++ [⟨.abort .stderr, ()⟩]) = true := running_same runs rfl
  exact follows_bind (follows_reap still) fun middle _ quiet => follows_done quiet

theorem follows_showPin {stdout : Bool} (runs : running past = true) :
    Follows (Proper clientName endpoint)
      (fun after result => running after = result.isOk) past (showPin reads stdout) := by
  refine follows_perform (fun _ => runs) fun _ => ?_
  have still : running (past ++ [⟨.drain .stderr, ()⟩]) = true := running_same runs rfl
  cases stdout with
  | false => exact follows_giveUp still
  | true =>
      refine follows_bind (follows_readPin still) fun middle result runs => ?_
      obtain (error | pin) | _ := result
      · exact follows_giveUp runs
      · exact follows_perform (fun _ => runs) fun _ => follows_done (running_same runs rfl)
      · exact follows_giveUp runs

/-- The child runs afterwards exactly if it shows a PIN. -/
theorem follows_beginPairing {host : StreamHostDescriptor} (there : host.address = endpoint.address)
    (quiet : running past = false) : Follows (Proper clientName endpoint)
      (fun after result => running after = result.isOk) past (beginPairing reads host) := by
  unfold beginPairing
  cases host.validate with
  | error error => exact follows_done quiet
  | ok valid =>
      have still (answer : PortResult Unit) :
          running (past ++ [⟨.buildCommand (pairSpec host.address), answer⟩]) = false :=
        running_same quiet rfl
      refine follows_perform (fun _ => ⟨quiet, by rw [there]⟩) ?_
      rintro (error | _)
      · exact follows_done (still _)
      refine follows_perform (fun _ => ⟨still _, by rw [there]⟩) ?_
      rintro (failure | stdout)
      · exact follows_done (running_same (still _) rfl)
      · exact follows_showPin (running_concat _ _)

theorem follows_dropPairing {runs : Bool} (before : running past = runs) :
    Follows (Proper clientName endpoint) (fun after _ => running after = runs) past dropPairing := by
  refine follows_perform (fun _ => trivial) fun _ => follows_perform (fun _ => trivial) fun _ => follows_done ?_
  exact running_same (running_same before rfl) rfl

/-- The child is gone after a pairing that was completed. -/
theorem follows_complete (runs : running past = true) : Follows (Proper clientName endpoint)
    (fun after result => result.isOk = true → running after = false) past complete := by
  refine follows_perform (fun _ => trivial) ?_
  rintro ((failure | status) | _)
  · refine follows_bind (follows_dropPairing rfl) fun _ _ _ => follows_done fun done => ?_
    cases done
  · have ended : running (past ++ [⟨.waitChild pairingCompletionTimeout, .ready (.ok status)⟩]) = false :=
      running_concat _ _
    exact follows_bind (follows_dropPairing ended) fun _ _ quiet => follows_done fun _ => quiet
  · refine follows_bind (follows_reap (running_same runs rfl)) fun _ _ quiet => ?_
    exact follows_bind (follows_dropPairing quiet) fun _ _ quiet => follows_done fun _ => quiet

theorem follows_pairingState {host : StreamHostDescriptor} (there : host.address = endpoint.address)
    (quiet : running past = false) : Follows (Proper clientName endpoint)
      (fun after _ => running after = false) past (pairingState host) := by
  unfold pairingState
  cases host.validate with
  | error error => exact follows_done quiet
  | ok valid =>
      refine follows_perform (fun _ => ⟨quiet, by rw [there]⟩) ?_
      rintro (error | output)
      · dsimp only
        split
        · exact follows_done (running_same quiet rfl)
        · split <;> exact follows_done (running_same quiet rfl)
      · exact follows_done (running_same quiet rfl)

theorem follows_launch {request : StreamLaunchRequest} (there : request.host.address = endpoint.address)
    (quiet : running past = false) (listed : Listed endpoint.address past) :
    Follows (Proper clientName endpoint) (fun after _ => running after = false) past (launch request) := by
  unfold launch
  cases host : request.host.validate with
  | error error => exact follows_done quiet
  | ok valid =>
      cases profile : request.profile.validate with
      | error error => exact follows_done quiet
      | ok valid =>
          refine follows_perform (fun _ => ⟨quiet, listed, request, rfl, there, host, profile⟩) ?_
          rintro (error | pid) <;> exact follows_done (running_same quiet rfl)

end Adapter

/-! ### The PIN that is shown -/

theorem shown_of_readPin {pin : String} : ∀ {reads : Nat} {run : List MoonlightEvent},
    Traces (readPin reads) run (.ready (.ok pin)) → ∃ (lines : List String) (last : String),
      run = lines.map read ++ [read last] ∧ (∀ line ∈ lines, ∀ other, ¬PinOf line other) ∧ PinOf last pin
  | 0, run, ⟨never, _⟩ => by cases never
  | reads + 1, run, ⟨answer, rest, whole, later⟩ => by
      subst whole
      obtain (failure | (_ | line)) | _ := answer
      · obtain ⟨rfl, ⟨⟩⟩ := later
      · obtain ⟨rfl, ⟨⟩⟩ := later
      · replace later : Traces (match extractPin line with
          | some pin => (return .ready (.ok pin) : MoonlightM _)
          | none => readPin reads) rest (.ready (.ok pin)) := later
        cases found : extractPin line with
        | some shown =>
            rw [found] at later
            obtain ⟨rfl, ⟨⟩⟩ := later
            exact ⟨[], line, rfl, List.forall_mem_nil _, extractPin_eq_some_iff.mp found⟩
        | none =>
            rw [found] at later
            obtain ⟨lines, last, rfl, none, shows⟩ := shown_of_readPin later
            refine ⟨line :: lines, last, rfl, List.forall_mem_cons.mpr ⟨fun other shown => ?_, none⟩, shows⟩
            rw [extractPin_eq_some_iff.mpr shown] at found
            cases found
      · obtain ⟨rfl, ⟨⟩⟩ := later

/-- A pairing that is given up shows nothing. -/
theorem not_shown_of_giveUp {error : PortError} {run : List MoonlightEvent} {pin : String} :
    ¬Traces (giveUp error) run (.ok pin) := by
  rintro ⟨_, _, rfl, _, _, rfl, _, _, rfl, _, ⟨⟩⟩

theorem shows_of_beginPairing {reads : Nat} {host : StreamHostDescriptor} {run : List MoonlightEvent}
    {pin : String} (done : Traces (beginPairing reads host) run (.ok pin)) :
    Shows host.address run pin := by
  unfold beginPairing at done
  cases valid : host.validate with
  | error error =>
      rw [valid] at done
      obtain ⟨_, ⟨⟩⟩ := done
  | ok valid' =>
      rw [valid] at done
      obtain ⟨error | _, rest, rfl, done⟩ := done
      · obtain ⟨_, ⟨⟩⟩ := done
      obtain ⟨failure | stdout, rest, rfl, done⟩ := done
      · obtain ⟨_, ⟨⟩⟩ := done
      obtain ⟨_, rest, rfl, done⟩ := done
      cases stdout with
      | false => exact absurd done not_shown_of_giveUp
      | true =>
          change Traces (readPin reads >>= fun _ => _) rest _ at done
          obtain ⟨before, after, result, rfl, reading, done⟩ := traces_bind.mp done
          obtain (error | shown) | _ := result
          · exact absurd done not_shown_of_giveUp
          · obtain ⟨_, _, rfl, rfl, ⟨⟩⟩ := done
            obtain ⟨lines, last, rfl, none, shows⟩ := shown_of_readPin reading
            exact ⟨lines, last, by simp, none, shows⟩
          · exact absurd done not_shown_of_giveUp

/-! ### The calls of a connection -/

/-- The call submits nothing. -/
abbrev Silent (request : MoonlightCall) : Prop := isSubmission request = false

theorem silent_readPin : ∀ reads, Uses Silent (readPin reads)
  | 0 => ⟨rfl, fun never => by cases never⟩
  | reads + 1 => by
      refine uses_bind ⟨rfl, fun _ => trivial⟩ ?_
      rintro ((failure | (_ | line)) | _) <;> try exact trivial
      dsimp only
      split
      · exact trivial
      · exact silent_readPin reads

theorem silent_giveUp (error : PortError) : Uses Silent (giveUp error) :=
  ⟨rfl, fun _ => ⟨rfl, fun _ => ⟨rfl, fun _ => trivial⟩⟩⟩

theorem silent_beginPairing (reads : Nat) (host : StreamHostDescriptor) :
    Uses Silent (beginPairing reads host) := by
  unfold beginPairing
  split
  · exact trivial
  refine uses_bind ⟨rfl, fun _ => trivial⟩ ?_
  rintro (error | _)
  · exact trivial
  refine uses_bind ⟨rfl, fun _ => trivial⟩ ?_
  rintro (failure | stdout)
  · exact trivial
  refine uses_bind ⟨rfl, fun _ => trivial⟩ fun _ => ?_
  split
  · exact silent_giveUp _
  refine uses_bind (silent_readPin reads) ?_
  rintro ((error | pin) | _)
  · exact silent_giveUp _
  · exact ⟨rfl, fun _ => trivial⟩
  · exact silent_giveUp _

theorem silent_complete : Uses Silent complete := by
  refine uses_bind ⟨rfl, fun _ => trivial⟩ ?_
  rintro ((failure | status) | _)
  · exact ⟨rfl, fun _ => ⟨rfl, fun _ => trivial⟩⟩
  · exact ⟨rfl, fun _ => ⟨rfl, fun _ => trivial⟩⟩
  · exact ⟨rfl, fun _ => ⟨rfl, fun _ => ⟨rfl, fun _ => ⟨rfl, fun _ => trivial⟩⟩⟩⟩

theorem silent_pairingState (host : StreamHostDescriptor) : Uses Silent (pairingState host) := by
  unfold pairingState
  split
  · exact trivial
  refine uses_bind ⟨rfl, fun _ => trivial⟩ ?_
  rintro (error | output)
  · dsimp only
    split
    · exact trivial
    · split <;> exact trivial
  · exact trivial

theorem silent_launch (request : StreamLaunchRequest) : Uses Silent (launch request) := by
  unfold launch
  split
  · exact trivial
  split
  · exact trivial
  refine uses_bind ⟨rfl, fun _ => trivial⟩ ?_
  rintro (error | pid) <;> exact trivial

/-- Only the submission of a PIN submits one. -/
theorem silent_adapter (reads : Nat) {request : PortCall} (other : isSubmission (.port request) = false) :
    Uses Silent (adapter reads request) := by
  cases request <;> first
    | exact silent_pairingState _
    | exact silent_beginPairing _ _
    | exact silent_complete
    | exact silent_launch _
    | exact ⟨other, fun _ => trivial⟩

theorem silent_of_expands {reads : Nat} {past : List PortEvent} {trace : List MoonlightEvent}
    (expands : Expands (adapter reads) past trace) (fresh : submitted past = false) :
    ∀ event ∈ trace, isSubmission event.1 = false := by
  induction expands with
  | nil => exact List.forall_mem_nil _
  | @event past trace request answer run earlier handled ih =>
      rw [submitted_append, Bool.or_eq_false_iff] at fresh
      refine List.forall_mem_append.mpr ⟨ih fresh.1, ?_⟩
      refine (silent_adapter reads ?_).of_traces handled
      cases request <;> first | rfl | exact absurd fresh.2.symm Bool.false_ne_true

/-- A plain call is handed on as it is. -/
theorem adapter_plain (reads : Nat) {request : PortCall} (plain : isPlain request = true) :
    adapter reads request = invoke (.port request) := by
  cases request <;> first | rfl | cases plain

theorem plain_of_expands {reads : Nat} {past : List PortEvent} {trace : List MoonlightEvent}
    (expands : Expands (adapter reads) past trace) (plain : ∀ event ∈ past, isPlain event.1 = true) :
    ∀ event ∈ trace, ∃ request, event.1 = .port request ∧ isPlain request = true := by
  induction expands with
  | nil => exact List.forall_mem_nil _
  | @event past trace request answer run earlier handled ih =>
      obtain ⟨before, here⟩ := List.forall_mem_append.mp plain
      have last : isPlain request = true := here _ List.mem_cons_self
      rw [adapter_plain reads last] at handled
      obtain ⟨_, _, rfl, rfl, _⟩ := handled
      exact List.forall_mem_append.mpr ⟨ih before, List.forall_mem_singleton.mpr ⟨request, rfl, last⟩⟩

/-- A host is reported to be paired once its applications were listed. -/
theorem listed_of_pairingState {host : StreamHostDescriptor} {run : List MoonlightEvent}
    (done : Traces (pairingState host) run (.ok .paired)) :
    ∃ output, run = [⟨.run (listSpec host.address), .ok output⟩] := by
  unfold pairingState at done
  cases valid : host.validate with
  | error error =>
      rw [valid] at done
      obtain ⟨_, ⟨⟩⟩ := done
  | ok valid' =>
      rw [valid] at done
      obtain ⟨error | output, rest, rfl, done⟩ := done
      · change Traces (if _ then _ else if _ then _ else _) rest _ at done
        split at done
        · obtain ⟨_, ⟨⟩⟩ := done
        · split at done <;> obtain ⟨_, ⟨⟩⟩ := done
      · obtain ⟨rfl, _⟩ := done
        exact ⟨output, rfl⟩

theorem listed_of_settled {reads : Nat} {address : IpAddr} {past : List PortEvent}
    {trace : List MoonlightEvent} (expands : Expands (adapter reads) past trace)
    (settled : Settled address past) : Listed address trace := by
  obtain ⟨opening, host, rest, rfl, rfl, plain⟩ := settled
  obtain ⟨before, after, rfl, _, asked⟩ := expands.append_inv
  obtain ⟨run, others, rfl, done, later⟩ := asked.cons_inv
  obtain ⟨output, rfl⟩ := listed_of_pairingState done
  exact ⟨before, output, others, rfl, plain_of_expands later plain⟩

theorem submitsShown_of_submits {reads : Nat} {clientName : String} {endpoint : AgentEndpoint}
    {past : List PortEvent} {trace : List MoonlightEvent} {request : SunshinePairRequest}
    (expands : Expands (adapter reads) past trace) (submits : Submits clientName endpoint past request) :
    SubmitsShown clientName endpoint trace endpoint request := by
  obtain ⟨opening, status, challenge, host, pin, rfl, there, up, available, fresh, rfl⟩ := submits
  have silent := silent_of_expands expands (by
    rw [submitted_append, fresh]
    rfl)
  obtain ⟨before, rest, rfl, _, asked⟩ := expands.append_inv
  obtain ⟨_, rest, rfl, ⟨_, _, rfl, rfl, rfl⟩, challenged⟩ := asked.cons_inv
  obtain ⟨_, rest, rfl, ⟨_, _, rfl, rfl, rfl⟩, begun⟩ := challenged.cons_inv
  obtain ⟨shown, rest, rfl, shows, none⟩ := begun.cons_inv
  obtain rfl := none.nil_inv
  refine ⟨rfl, ⟨before, status, challenge, shown, by simp, up, available, ?_, rfl⟩, rfl, silent⟩
  rw [← there]
  exact shows_of_beginPairing shows

section Connection

variable {node : ConnectNode} {request : ConnectRequest} {reads : Nat}

/-- What is known after some calls of a connection. -/
structure Known (reads : Nat) (past : List PortEvent) (trace : List MoonlightEvent) : Prop where
  carried : Expands (adapter reads) past trace
  child : abandoned past = false → running trace = pairing past

/-- What a call does to the child is known after it. -/
theorem Known.follows {clientName : String} {endpoint : AgentEndpoint} {past : List PortEvent}
    {trace : List MoonlightEvent} {asked : PortCall}
    {post : List MoonlightEvent → PortAnswer asked → Prop} (known : Known reads past trace)
    (follows : Follows (Proper clientName endpoint) post trace (adapter reads asked))
    (gives : ∀ after answer, post after answer → abandoned (past ++ [⟨asked, answer⟩]) = false →
      running after = pairing (past ++ [⟨asked, answer⟩])) :
    Follows (Proper clientName endpoint)
      (fun after answer => Known reads (past ++ [⟨asked, answer⟩]) after) trace (adapter reads asked) where
  along := follows.along
  ends run answer done := ⟨known.carried.event done, gives _ answer (follows.ends run answer done)⟩

/-- A plain call leaves the child as it is. -/
theorem Known.follows_plain {clientName : String} {endpoint : AgentEndpoint} {past : List PortEvent}
    {trace : List MoonlightEvent} {asked : PortCall} (known : Known reads past trace)
    (idle : PortAnswer asked → Idle past) (plain : isPlain asked = true) :
    Follows (Proper clientName endpoint)
      (fun after answer => Known reads (past ++ [⟨asked, answer⟩]) after) trace (adapter reads asked) := by
  have quiet (answer : PortAnswer asked) : running trace = false :=
    (known.child (idle answer).kept).trans (idle answer).quiet
  have passed : Follows (Proper clientName endpoint) (fun after _ => running after = false) trace
      (invoke (.port asked)) := by
    refine follows_ask (fun answer => ?_) fun answer => follows_done (running_same (quiet answer) rfl)
    cases asked <;> first | exact quiet answer | cases plain
  rw [← adapter_plain reads plain] at passed
  refine known.follows passed fun after answer calm _ => ?_
  have one : ∀ event ∈ [(⟨asked, answer⟩ : PortEvent)], isPlain event.1 = true :=
    List.forall_mem_singleton.mpr plain
  rw [calm, pairing_append_plain one, (idle answer).quiet]

/-- **Every call of a connection is proper.** -/
theorem moonlight_law (node : ConnectNode) (request : ConnectRequest) (reads rounds : Nat) :
    Along (Proper node.clientName request.endpoint) []
      (expand (adapter reads) (executeWithStarted node rounds request).run) := by
  refine @along_expand _ _ _ _ _ _ _ _ (Known reads) ?_ _ _ _ (along_executeWithStarted rounds)
    ⟨.nil, fun _ => rfl⟩
  intro past trace asked known vetted
  have quiet (idle : Idle past) : running trace = false := (known.child idle.kept).trans idle.quiet
  cases asked with
  | pairingState host =>
      obtain ⟨idle, there⟩ := vetted (.ok .paired)
      refine known.follows (follows_pairingState there (quiet idle)) fun after answer calm _ => ?_
      rw [calm, pairing_concat]
      exact idle.quiet.symm
  | beginPairing host =>
      obtain ⟨idle, there⟩ := vetted (.ok "")
      refine known.follows (follows_beginPairing there (quiet idle)) fun after answer shows _ => ?_
      rw [shows, pairing_concat]
      cases answer with
      | error error => exact idle.quiet.symm
      | ok pin => rfl
  | completePairing =>
      obtain ⟨shows, kept⟩ := vetted (.ok ())
      refine known.follows (follows_complete ((known.child kept).trans shows)) fun after answer ended good => ?_
      rw [pairing_concat]
      cases answer with
      | error error =>
          rw [abandoned_append, kept] at good
          cases good
      | ok done => exact ended rfl
  | launch asked =>
      obtain ⟨idle, there, settled⟩ := vetted (.ok none)
      have listed := listed_of_settled known.carried settled
      refine known.follows (follows_launch there (quiet idle) listed) fun after answer calm _ => ?_
      rw [calm, pairing_concat]
      exact idle.quiet.symm
  | sunshinePair asked sent =>
      obtain ⟨there, shows, kept, submits⟩ := vetted (.ok ())
      have runs := (known.child kept).trans shows
      have submitted : Follows (Proper node.clientName request.endpoint)
          (fun after _ => running after = true) trace (invoke (.port (.sunshinePair asked sent))) := by
        refine follows_ask (fun _ => ?_) fun answer => follows_done (running_same runs rfl)
        rw [there]
        exact submitsShown_of_submits known.carried submits
      refine known.follows submitted fun after answer runs _ => ?_
      rw [runs, pairing_concat, shows]
      rfl
  | _ => exact known.follows_plain vetted rfl

end Connection

end Omdesky.Platform.Moonlight
