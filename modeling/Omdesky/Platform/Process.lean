/-
**How a command is run to its end (`omdesky-platform/src/process.rs`).**

* `readLimited`: the loop that reads a pipe to its end, within a limit.
* `Collected`, `run`: the loop of `TokioCommandRunner::run`, over what it observes: the exit of
  the child, the end of a reader, and the timeout.
* `expectedOutcome`: what the command comes to, whatever the order.
* `run_eq`: the loop in closed form, for every order.
* `meets_iff`: **the loop always ends, and its result is the expected one**, unless a child that has been
  waited for is killed and that fails.
-/

import Mathlib.Data.List.TakeWhile
import Omdesky.Collections.Gathering
import Omdesky.Ports

namespace Omdesky.Platform.CommandRunner

open Collections

/-! ### The readers -/

/-- What the reads of a pipe return, up to the end of it or to where the reader gives up. -/
abbrev Pipe := List (List UInt8)

/-- The bytes of a pipe: an empty read is the end of it. -/
def Pipe.written (pipe : Pipe) : List UInt8 := (pipe.takeWhile fun chunk => !chunk.isEmpty).flatten

/-- The error of a reader that gives up. -/
def outputLimitError (limit : Nat) : PortError where
  code := "COMMAND_OUTPUT_LIMIT"
  message := "command output exceeded " ++ toString limit ++ " bytes"
  retryable := false

/-- `read_limited`, as the loop it is: a turn for each read. -/
def readLimited (limit : Nat) : Loop UInt8 (List UInt8) PortError where
  turn output chunk :=
    if chunk.isEmpty then .returned (.ok output)
    else if limit < output.length + chunk.length then .returned (.error (outputLimitError limit))
    else .again (output ++ chunk)
  finish output := .ok output

theorem gathers_readLimited (limit : Nat) :
    Gathers limit id (· ≠ []) (outputLimitError limit) (readLimited limit) where
  ended _ := rfl
  kept _ _ filled fits :=
    (if_neg (by simpa using filled)).trans (if_neg (Nat.not_lt.mpr fits))
  refused _ _ filled past := (if_neg (by simpa using filled)).trans (if_pos past)

/-- What comes after an empty read is not read. -/
theorem readLimited_takeWhile (limit : Nat) (output : List UInt8) (pipe : Pipe) :
    (readLimited limit).run output (pipe.takeWhile fun chunk => !chunk.isEmpty) =
      (readLimited limit).run output pipe := by
  induction pipe generalizing output with
  | nil => rfl
  | cons chunk rest ih =>
      cases ended : chunk.isEmpty with
      | true =>
          have turn : (readLimited limit).turn output chunk = .returned (.ok output) := if_pos ended
          rw [List.takeWhile_cons_of_neg (by simp [ended]), Loop.run, Loop.run, turn]
          rfl
      | false =>
          rw [List.takeWhile_cons_of_pos (by simp [ended]), Loop.run, Loop.run]
          split
          · rfl
          · exact ih _

theorem readLimited_eq (limit : Nat) (output : List UInt8) (room : output.length ≤ limit)
    (pipe : Pipe) :
    (readLimited limit).run output pipe =
      if limit < (output ++ pipe.written).length then .error (outputLimitError limit)
      else .ok (output ++ pipe.written) := by
  have filled : ∀ chunk ∈ pipe.takeWhile (fun chunk => !chunk.isEmpty), chunk ≠ [] := by
    intro chunk member
    simpa using List.mem_takeWhile_imp member
  have whole := (gathers_readLimited limit).run_eq room filled
  rw [List.map_id] at whole
  rw [← readLimited_takeWhile, whole, ← ite_not]
  exact if_congr Nat.not_le rfl rfl

/-! ### The code -/

/-- `std::process::ExitStatus`, by its code: a child that a signal ended has none. -/
abbrev ExitStatus := Option Int

/-- `ExitStatus::success`. -/
def ExitStatus.success (status : ExitStatus) : Bool := status == some 0

/-- A child, by what can be observed of it. -/
structure Child where
  status : ExitStatus
  stdout : Pipe
  stderr : Pipe
  deriving DecidableEq, Repr

/-- One of the pipes of a child. -/
def Child.pipe (child : Child) (isStdout : Bool) : Pipe := if isStdout then child.stdout else child.stderr

/-- The limit of a pipe. -/
def outputLimit (spec : CommandSpec) (isStdout : Bool) : Nat :=
  if isStdout then spec.stdoutLimit else spec.stderrLimit

/-- What the runner observes: the exit, the end of a reader, or the timeout. -/
inductive Observation
  | exited
  | read (isStdout : Bool)
  | elapsed
  deriving DecidableEq, Repr

/-- `CommandOutput`. -/
structure CommandOutput where
  status : Int
  stdout : List UInt8
  stderr : List UInt8
  deriving DecidableEq, Repr

/-- The variables of the loop. -/
structure Collected where
  status : Option ExitStatus
  stdout : Option (List UInt8)
  stderr : Option (List UInt8)
  deriving DecidableEq, Repr

/-- `timeout_error`. -/
def timeoutError (spec : CommandSpec) : PortError where
  code := "COMMAND_TIMEOUT"
  message := spec.program ++ " exceeded timeout of " ++ toString spec.timeout ++ " seconds"
  retryable := true

/-- `terminate_error`. -/
def terminateError (spec : CommandSpec) (failure : String) : PortError where
  code := "PROCESS_TERMINATE_FAILED"
  message := "unable to terminate " ++ spec.program ++ ": " ++ failure
  retryable := false

/-- The state of a run: it goes on, it has returned, or an event came for a branch that is off. -/
inductive Execution
  | waiting (collected : Collected)
  | returned (result : PortResult CommandOutput)
  | disabled
  deriving DecidableEq, Repr

section Code

/-- The answer of `tokio::process::Child::kill`, for a child whose status has been waited for or not. -/
abbrev Kill := (reaped : Bool) → Except String Unit

variable (spec : CommandSpec) (kill : Kill) (child : Child)

/-- The result of a child that has ended. -/
def conclude (status : ExitStatus) (stdout stderr : List UInt8) : PortResult CommandOutput :=
  let statusCode := status.getD (-1)
  if status.success then .ok { status := statusCode, stdout, stderr }
  else
    .error
      { code := "COMMAND_FAILED"
        message := spec.program ++ " exited with status " ++ toString statusCode
        retryable := false }

/-- The child is killed, and the run fails with this error. -/
def abandon (reaped : Bool) (error : PortError) : PortResult CommandOutput :=
  match kill reaped with
  | .ok () => .error error
  | .error failure => .error (terminateError spec failure)

/-- The condition of the loop. -/
def resume (collected : Collected) : Execution :=
  match collected.status, collected.stdout, collected.stderr with
  | some status, some stdout, some stderr => .returned (conclude spec status stdout stderr)
  | _, _, _ => .waiting collected

/-- One turn of the loop: the branch of an observation, when it is on. -/
def observe (collected : Collected) : Observation → Execution
  | .exited =>
      if collected.status.isNone then resume spec { collected with status := some child.status }
      else .disabled
  | .read isStdout =>
      if collected.stdout.isNone || collected.stderr.isNone then
        match (readLimited (outputLimit spec isStdout)).run [] (child.pipe isStdout) with
        | .ok output =>
            resume spec
              (if isStdout then { collected with stdout := some output }
              else { collected with stderr := some output })
        | .error error => .returned (abandon spec kill collected.status.isSome error)
      else .disabled
  | .elapsed => .returned (abandon spec kill collected.status.isSome (timeoutError spec))

/-- `TokioCommandRunner::run` after these observations. -/
def run (collected : Collected) : List Observation → Execution
  | [] => .waiting collected
  | observation :: rest =>
      match observe spec kill child collected observation with
      | .waiting collected => run collected rest
      | ended => ended

end Code

/-! ### What a command comes to -/

/-- A result, by the code of its error: callers look at nothing else. -/
def outcome (result : PortResult CommandOutput) : Except String CommandOutput :=
  result.mapError fun error => error.code

section Outcome

variable (spec : CommandSpec) (child : Child)

/-- The end of a reader that gave up. -/
def overLimit : Observation → Bool
  | .read isStdout => outputLimit spec isStdout < (child.pipe isStdout).written.length
  | _ => false

/-- An observation that ends the run at once. -/
def interrupts (observation : Observation) : Bool :=
  observation == .elapsed || overLimit spec child observation

/-- The exit and both readers have been observed. -/
def Complete (order : List Observation) : Prop :=
  .exited ∈ order ∧ .read true ∈ order ∧ .read false ∈ order

instance (order : List Observation) : Decidable (Complete order) :=
  inferInstanceAs (Decidable (_ ∧ _ ∧ _))

/-- What was observed before the timeout. -/
def inTime (order : List Observation) : List Observation := order.takeWhile (· != .elapsed)

/-- What the command comes to, for the observations that were made in time. -/
def expectedOutcome (order : List Observation) : Except String CommandOutput :=
  if (inTime order).any (overLimit spec child) then .error "COMMAND_OUTPUT_LIMIT"
  else if ¬ Complete (inTime order) then .error "COMMAND_TIMEOUT"
  else if child.status = some 0 then
    .ok { status := 0, stdout := child.stdout.written, stderr := child.stderr.written }
  else .error "COMMAND_FAILED"

/-- All three have been observed, or a stream past its limit, or the timeout. -/
def Ended (order : List Observation) : Prop :=
  Complete order ∨ order.any (interrupts spec child) = true

/-- What was observed before anything interrupted the run. -/
def calm (order : List Observation) : List Observation :=
  order.takeWhile fun observation => !interrupts spec child observation

/-- The run is interrupted after the exit has been observed. -/
def KilledAfterExit (order : List Observation) : Prop :=
  order.any (interrupts spec child) = true ∧ .exited ∈ calm spec child order ∧
    ¬ Complete (calm spec child order)

instance (order : List Observation) : Decidable (KilledAfterExit spec child order) :=
  inferInstanceAs (Decidable (_ ∧ _ ∧ _))

/-- The variables of the loop after these observations. -/
def gathered (done : List Observation) : Collected where
  status := if .exited ∈ done then some child.status else none
  stdout := if .read true ∈ done then some child.stdout.written else none
  stderr := if .read false ∈ done then some child.stderr.written else none

end Outcome

/-! ### The loop -/

section Loop

variable {spec : CommandSpec} {kill : Kill} {child : Child}

theorem resume_gathered (done : List Observation) :
    resume spec (gathered child done) =
      if Complete done then
        .returned (conclude spec child.status child.stdout.written child.stderr.written)
      else .waiting (gathered child done) := by
  unfold resume gathered Complete
  by_cases exited : .exited ∈ done <;> by_cases first : .read true ∈ done <;>
    by_cases second : .read false ∈ done <;> simp [exited, first, second]

theorem readLimited_of_within {isStdout : Bool}
    (within : overLimit spec child (.read isStdout) = false) :
    (readLimited (outputLimit spec isStdout)).run [] (child.pipe isStdout) =
      .ok (child.pipe isStdout).written := by
  rw [readLimited_eq _ _ (Nat.zero_le _), List.nil_append]
  exact if_neg (of_decide_eq_false within)

theorem readLimited_of_past {isStdout : Bool} (past : overLimit spec child (.read isStdout) = true) :
    (readLimited (outputLimit spec isStdout)).run [] (child.pipe isStdout) =
      .error (outputLimitError (outputLimit spec isStdout)) := by
  rw [readLimited_eq _ _ (Nat.zero_le _), List.nil_append]
  exact if_pos (of_decide_eq_true past)

/-- **One turn.** An observation that does not interrupt is added to what is gathered. -/
theorem observe_gathered {done : List Observation} {observation : Observation}
    (fresh : observation ∉ done) (harmless : interrupts spec child observation = false) :
    observe spec kill child (gathered child done) observation =
      resume spec (gathered child (done ++ [observation])) := by
  cases observation with
  | exited =>
      have added : { gathered child done with status := some child.status } =
          gathered child (done ++ [.exited]) := by
        simp [gathered]
      have on : (gathered child done).status.isNone = true := by simp [gathered, fresh]
      rw [observe, if_pos on, added]
  | read isStdout =>
      have within : overLimit spec child (.read isStdout) = false := harmless
      have added : (if isStdout then
            { gathered child done with stdout := some (child.pipe isStdout).written }
          else { gathered child done with stderr := some (child.pipe isStdout).written }) =
          gathered child (done ++ [.read isStdout]) := by
        cases isStdout <;> simp [gathered, Child.pipe]
      have on : ((gathered child done).stdout.isNone || (gathered child done).stderr.isNone) = true := by
        cases isStdout <;> simp [gathered, fresh]
      rw [observe, if_pos on, readLimited_of_within within]
      exact congrArg (resume spec) added
  | elapsed => cases harmless

/-- The error of an observation that interrupts the run. -/
def interruption (spec : CommandSpec) : Observation → PortError
  | .read isStdout => outputLimitError (outputLimit spec isStdout)
  | _ => timeoutError spec

/-- **The last turn.** An observation that interrupts makes the runner kill the child. -/
theorem observe_interrupt {done : List Observation} {observation : Observation}
    (fresh : observation ∉ done) (ends : interrupts spec child observation = true) :
    observe spec kill child (gathered child done) observation =
      .returned (abandon spec kill (decide (.exited ∈ done)) (interruption spec observation)) := by
  have reaped : (gathered child done).status.isSome = decide (.exited ∈ done) := by
    by_cases exited : .exited ∈ done <;> simp [gathered, exited]
  cases observation with
  | exited => cases ends
  | read isStdout =>
      have past : overLimit spec child (.read isStdout) = true := ends
      have on : ((gathered child done).stdout.isNone || (gathered child done).stderr.isNone) = true := by
        cases isStdout <;> simp [gathered, fresh]
      rw [observe, if_pos on, readLimited_of_past past, reaped]
      rfl
  | elapsed =>
      rw [observe, reaped]
      rfl

theorem Complete.append {done : List Observation} (full : Complete done)
    (rest : List Observation) : Complete (done ++ rest) :=
  ⟨List.mem_append_left _ full.1, List.mem_append_left _ full.2.1, List.mem_append_left _ full.2.2⟩

/-- **A whole run.** What happens after some observations, for every order of the others. -/
theorem run_gathered {done rest : List Observation} (distinct : (done ++ rest).Nodup)
    (running : ¬ Complete done) :
    run spec kill child (gathered child done) rest =
      if Complete (done ++ calm spec child rest) then
        .returned (conclude spec child.status child.stdout.written child.stderr.written)
      else
        match rest.find? (interrupts spec child) with
        | some observation =>
            .returned (abandon spec kill (decide (.exited ∈ done ++ calm spec child rest))
              (interruption spec observation))
        | none => .waiting (gathered child (done ++ calm spec child rest)) := by
  induction rest generalizing done with
  | nil => simp [run, calm, running]
  | cons observation rest ih =>
      have fresh : observation ∉ done := by
        intro before
        exact (List.nodup_append.mp distinct).2.2 _ before _ List.mem_cons_self rfl
      rw [run]
      cases ends : interrupts spec child observation with
      | true =>
          have stop : calm spec child (observation :: rest) = [] := by simp [calm, ends]
          rw [observe_interrupt fresh ends, stop, List.append_nil, if_neg running,
            List.find?_cons_of_pos ends]
      | false =>
          have go : calm spec child (observation :: rest) = observation :: calm spec child rest := by
            simp [calm, ends]
          rw [observe_gathered fresh ends, resume_gathered, go,
            List.append_cons done observation (calm spec child rest),
            List.find?_cons_of_neg (by simp [ends])]
          by_cases full : Complete (done ++ [observation])
          · rw [if_pos full, if_pos (full.append _)]
          · rw [if_neg full]
            exact ih (List.append_cons done observation rest ▸ distinct) full

/-- **A run in closed form.** -/
theorem run_eq {order : List Observation} (distinct : order.Nodup) :
    run spec kill child ⟨none, none, none⟩ order =
      if Complete (calm spec child order) then
        .returned (conclude spec child.status child.stdout.written child.stderr.written)
      else
        match order.find? (interrupts spec child) with
        | some observation =>
            .returned (abandon spec kill (decide (.exited ∈ calm spec child order))
              (interruption spec observation))
        | none => .waiting (gathered child (calm spec child order)) := by
  have start : gathered child [] = ⟨none, none, none⟩ := by simp [gathered]
  have run := @run_gathered spec kill child [] order distinct (by decide)
  rwa [start] at run

/-! ### Its result -/

/-- Nothing interrupts: everything was calm. -/
theorem calm_of_find_none {order : List Observation}
    (none : order.find? (interrupts spec child) = none) :
    calm spec child order = order ∧ inTime order = order := by
  have harmless : ∀ observation ∈ order, interrupts spec child observation = false := by
    simpa using none
  refine ⟨List.takeWhile_eq_self_iff.mpr fun observation member => by simp [harmless _ member],
    List.takeWhile_eq_self_iff.mpr fun observation member => ?_⟩
  have either := harmless observation member
  rw [interrupts, Bool.or_eq_false_iff] at either
  simpa using either.1

/-- The order up to what interrupts it, and from there. -/
theorem split_of_find_some {order : List Observation} {observation : Observation}
    (found : order.find? (interrupts spec child) = some observation) :
    interrupts spec child observation = true ∧
      ∃ after, order = calm spec child order ++ observation :: after := by
  obtain ⟨ends, before, after, rfl, harmless⟩ := List.find?_eq_some_iff_append.mp found
  have stop : calm spec child (before ++ observation :: after) = before := by
    rw [calm, List.takeWhile_append_of_pos harmless, List.takeWhile_cons_of_neg (by simp [ends]),
      List.append_nil]
  exact ⟨ends, after, by rw [stop]⟩

theorem harmless_of_mem_calm {order : List Observation} :
    ∀ observation ∈ calm spec child order, interrupts spec child observation = false := by
  intro observation member
  simpa using List.mem_takeWhile_imp member

theorem inTime_append {before : List Observation}
    (harmless : ∀ observation ∈ before, interrupts spec child observation = false)
    (after : List Observation) :
    inTime (before ++ after) = before ++ inTime after := by
  refine List.takeWhile_append_of_pos fun observation member => ?_
  have either := harmless observation member
  rw [interrupts, Bool.or_eq_false_iff] at either
  simpa using either.1

theorem any_overLimit_eq_false {order : List Observation}
    (harmless : ∀ observation ∈ order, interrupts spec child observation = false) :
    order.any (overLimit spec child) = false := by
  refine List.any_eq_false.mpr fun observation member past => ?_
  have either := harmless observation member
  rw [interrupts, past, Bool.or_true] at either
  cases either

/-- A timeout cuts the order where it was calm. -/
theorem inTime_of_elapsed {order : List Observation}
    (found : order.find? (interrupts spec child) = some .elapsed) :
    inTime order = calm spec child order := by
  obtain ⟨_, after, split⟩ := split_of_find_some found
  have cut : inTime (.elapsed :: after) = [] := rfl
  have time := inTime_append (@harmless_of_mem_calm spec child order) (.elapsed :: after)
  rw [← split] at time
  rw [time, cut, List.append_nil]

/-- A stream past its limit is seen in time. -/
theorem expectedOutcome_of_past {order : List Observation} {isStdout : Bool}
    (found : order.find? (interrupts spec child) = some (.read isStdout)) :
    expectedOutcome spec child order = .error "COMMAND_OUTPUT_LIMIT" := by
  obtain ⟨past, after, split⟩ := split_of_find_some found
  have time := inTime_append (@harmless_of_mem_calm spec child order) (.read isStdout :: after)
  rw [← split] at time
  have some : (inTime order).any (overLimit spec child) = true := by
    refine List.any_eq_true.mpr ⟨.read isStdout, ?_, past⟩
    rw [time]
    exact List.mem_append_right _ (List.mem_cons_self)
  exact if_pos some

/-- In a calm order the command comes to what its child does. -/
theorem expectedOutcome_of_calm {order : List Observation}
    (time : inTime order = calm spec child order) :
    expectedOutcome spec child order =
      if ¬ Complete (calm spec child order) then .error "COMMAND_TIMEOUT"
      else outcome (conclude spec child.status child.stdout.written child.stderr.written) := by
  have harmless := any_overLimit_eq_false (@harmless_of_mem_calm spec child order)
  unfold expectedOutcome
  rw [time, if_neg (by rw [harmless]; decide)]
  split
  · rfl
  · unfold conclude ExitStatus.success
    by_cases success : child.status = some 0 <;> simp [success, outcome, Except.mapError]

/-- Once all three have been observed, only the timeout can come. -/
theorem inTime_of_complete {order : List Observation} (distinct : order.Nodup)
    (full : Complete (calm spec child order)) : inTime order = calm spec child order := by
  cases found : order.find? (interrupts spec child) with
  | none =>
      obtain ⟨all, time⟩ := calm_of_find_none found
      rw [time, all]
  | some observation =>
      obtain ⟨ends, after, split⟩ := split_of_find_some found
      have fresh : observation ∉ calm spec child order := by
        intro before
        rw [split] at distinct
        exact (List.nodup_append.mp distinct).2.2 _ before _ List.mem_cons_self rfl
      cases observation with
      | exited => cases ends
      | read isStdout => cases isStdout with
          | true => exact absurd full.2.1 fresh
          | false => exact absurd full.2.2 fresh
      | elapsed => exact inTime_of_elapsed found

/-- What interrupts a run decides what it comes to. -/
theorem expectedOutcome_of_interrupt {order : List Observation} {observation : Observation}
    (found : order.find? (interrupts spec child) = some observation)
    (open' : ¬ Complete (calm spec child order)) :
    expectedOutcome spec child order = .error (interruption spec observation).code := by
  cases observation with
  | exited => cases (split_of_find_some found).1
  | read isStdout => exact expectedOutcome_of_past found
  | elapsed => exact (expectedOutcome_of_calm (inTime_of_elapsed found)).trans (if_pos open')

theorem outcome_abandon_ok {reaped : Bool} (killed : kill reaped = .ok ()) (error : PortError) :
    outcome (abandon spec kill reaped error) = .error error.code := by
  rw [abandon, killed]
  rfl

theorem outcome_abandon_error {reaped : Bool} {failure : String} (failed : kill reaped = .error failure)
    (error : PortError) :
    outcome (abandon spec kill reaped error) = .error "PROCESS_TERMINATE_FAILED" := by
  rw [abandon, failed]
  rfl

theorem any_interrupts_iff {order : List Observation} :
    order.any (interrupts spec child) = true ↔
      ∃ observation, order.find? (interrupts spec child) = some observation := by
  rw [← Option.isSome_iff_exists, List.find?_isSome, List.any_eq_true]

end Loop

/-! ### The law -/

/-- The run of a command over an order of its observations is as it should be. -/
structure Meets (spec : CommandSpec) (kill : Kill) (child : Child) (order : List Observation) :
    Prop where
  /-- The loop ends once it has seen enough, and not before. -/
  ended : (∃ result, run spec kill child ⟨none, none, none⟩ order = .returned result) ↔
    Ended spec child order
  /-- No observation comes for a branch that is off. -/
  enabled : run spec kill child ⟨none, none, none⟩ order ≠ .disabled
  result : ∀ result, run spec kill child ⟨none, none, none⟩ order = .returned result →
    outcome result = expectedOutcome spec child order

section Law

variable {spec : CommandSpec} {kill : Kill} {child : Child} {order : List Observation}

theorem ended_run (distinct : order.Nodup) :
    (∃ result, run spec kill child ⟨none, none, none⟩ order = .returned result) ↔
      Ended spec child order := by
  have within : Complete (calm spec child order) → Complete order := fun full => by
    have kept : calm spec child order ⊆ order := (List.takeWhile_prefix _).subset
    exact ⟨kept full.1, kept full.2.1, kept full.2.2⟩
  rw [run_eq distinct, Ended, any_interrupts_iff]
  by_cases full : Complete (calm spec child order)
  · rw [if_pos full]
    exact iff_of_true ⟨_, rfl⟩ (Or.inl (within full))
  · rw [if_neg full]
    cases found : order.find? (interrupts spec child) with
    | some observation => exact iff_of_true ⟨_, rfl⟩ (Or.inr ⟨observation, rfl⟩)
    | none =>
        rw [(calm_of_find_none found).1] at full
        refine iff_of_false (fun ⟨_, same⟩ => by cases same) ?_
        rintro (complete | ⟨_, some⟩)
        · exact full complete
        · cases some

theorem enabled_run (distinct : order.Nodup) :
    run spec kill child ⟨none, none, none⟩ order ≠ .disabled := by
  rw [run_eq distinct]
  split
  · exact Execution.noConfusion
  · split <;> exact Execution.noConfusion

/-- A run that kills a child after its exit, where that fails, is not as it should be. -/
theorem not_meets_of_killed {failure : String} (distinct : order.Nodup)
    (failed : kill true = .error failure) (killed : KilledAfterExit spec child order) :
    ¬ Meets spec kill child order := by
  obtain ⟨some, exited, open'⟩ := killed
  obtain ⟨observation, found⟩ := any_interrupts_iff.mp some
  intro meets
  have run := @run_eq spec kill child order distinct
  rw [if_neg open', found, decide_eq_true exited] at run
  have result := meets.result _ run
  rw [expectedOutcome_of_interrupt found open', outcome_abandon_error failed] at result
  cases observation with
  | exited => cases (split_of_find_some found).1
  | read isStdout =>
      have same : "PROCESS_TERMINATE_FAILED" = "COMMAND_OUTPUT_LIMIT" := Except.error.inj result
      exact absurd same (by decide)
  | elapsed =>
      have same : "PROCESS_TERMINATE_FAILED" = "COMMAND_TIMEOUT" := Except.error.inj result
      exact absurd same (by decide)

/-- **The result does not depend on the order**, where a child can be killed after its exit too. -/
theorem meets_of_kills (distinct : order.Nodup)
    (kills : .exited ∈ calm spec child order → ¬ Complete (calm spec child order) →
      order.any (interrupts spec child) = true → kill true = .ok ())
    (otherwise : kill false = .ok ()) : Meets spec kill child order := by
  refine ⟨ended_run distinct, enabled_run distinct, fun result run => ?_⟩
  rw [run_eq distinct] at run
  by_cases full : Complete (calm spec child order)
  · rw [if_pos full] at run
    obtain rfl := Execution.returned.inj run
    rw [expectedOutcome_of_calm (inTime_of_complete distinct full), if_neg (not_not_intro full)]
  · rw [if_neg full] at run
    cases found : order.find? (interrupts spec child) with
    | none =>
        rw [found] at run
        cases run
    | some observation =>
        rw [found] at run
        obtain rfl := Execution.returned.inj run
        have killed : kill (decide (.exited ∈ calm spec child order)) = .ok () := by
          by_cases exited : .exited ∈ calm spec child order
          · rw [decide_eq_true exited]
            exact kills exited full (any_interrupts_iff.mpr ⟨observation, found⟩)
          · rw [decide_eq_false exited]
            exact otherwise
        rw [expectedOutcome_of_interrupt found full, outcome_abandon_ok killed]

/-- **The result does not depend on the order** exactly where the kill of a child succeeds after its exit
too, or where no such child is killed. -/
theorem meets_iff (otherwise : kill false = .ok ()) (distinct : order.Nodup) :
    Meets spec kill child order ↔ kill true = .ok () ∨ ¬ KilledAfterExit spec child order := by
  constructor
  · intro meets
    cases answer : kill true with
    | ok done => exact .inl rfl
    | error failure => exact .inr fun killed => not_meets_of_killed distinct answer killed meets
  · rintro (kills | unkilled)
    · exact meets_of_kills distinct (fun _ _ _ => kills) otherwise
    · exact meets_of_kills distinct (fun exited open' some => absurd ⟨some, exited, open'⟩ unkilled)
        otherwise

end Law

/-! ### A child whose output is past its limit -/

/-- A child that prints nine digits and exits. -/
def printf : Child where
  status := some 0
  stdout := [[49, 50, 51, 52, 53, 54, 55, 56, 57]]
  stderr := []

/-- Its command, with a limit of eight bytes for the first stream. -/
def printfSpec : CommandSpec :=
  { CommandSpec.new "/usr/bin/printf" ["%s", "123456789"] with stdoutLimit := 8 }

/-- Every kill succeeds: the child may exit before its output has been read. -/
theorem meets_iff_printf :
    Meets printfSpec (fun _ => .ok ()) printf [.exited, .read true, .read false] :=
  (meets_iff rfl (by decide)).mpr (.inl rfl)

/-- **Where a child cannot be killed after its exit, the order shows.** -/
theorem printf_killed_after_exit : ¬ ∀ (spec : CommandSpec) (kill : Kill) (child : Child)
    (order : List Observation), (∃ failure, kill true = .error failure) → kill false = .ok () →
      order.Nodup → Meets spec kill child order := by
  intro claim
  let kill : Kill := fun reaped => if reaped then .error "can't kill an exited process" else .ok ()
  have meets := claim printfSpec kill printf [.exited, .read true, .read false]
    ⟨"can't kill an exited process", rfl⟩ rfl (by decide)
  have result := meets.result (.error (terminateError printfSpec "can't kill an exited process")) rfl
  exact absurd result (by decide)

end Omdesky.Platform.CommandRunner
