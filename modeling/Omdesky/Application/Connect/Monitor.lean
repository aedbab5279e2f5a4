/-
**When the health monitor ends a stream (`omdesky-application/src/services.rs`).**

* `monitorAgents`: the loop of `monitor_agents`, with its counters, after some rounds.
* `failedTwice`: an agent has failed in a round and in the one before; `Due`: one of them has.
* `Monitored`: what the loop knows after some rounds, `monitored_monitorAgents`.
* `monitor_law`: **it ends in the first round that is due**, with the error of the agent that failed, and
  its counters stay within the limit.
-/

import Omdesky.Application.Connect

namespace Omdesky.Application

/-! ### The loop -/

/-- The health answers of the local and the remote agent, round by round. -/
abbrev HealthAnswers := Nat → PortResult Unit × PortResult Unit

/-- The counters of `monitor_agents`. -/
@[ext] structure HealthCounters where
  localFailures : UInt8
  remoteFailures : UInt8
  deriving DecidableEq, Repr

/-- A counter after one more answer. -/
def nextFailures (result : PortResult Unit) (failures : UInt8) : UInt8 :=
  if result.isOk then 0 else failures + 1

/-- The counters after one more round. -/
def HealthCounters.check (counters : HealthCounters) (answers : PortResult Unit × PortResult Unit) :
    HealthCounters where
  localFailures := nextFailures answers.1 counters.localFailures
  remoteFailures := nextFailures answers.2 counters.remoteFailures

/-- `monitor_agents` after some rounds: its counters, and the round and the error it has returned. -/
def monitorAgents (answers : HealthAnswers) : Nat → HealthCounters × Option (Nat × PortError)
  | 0 => (⟨0, 0⟩, none)
  | round + 1 =>
      match monitorAgents answers round with
      | (counters, some returned) => (counters, some returned)
      | (counters, none) =>
          let counters := counters.check (answers round)
          (counters, (agentHealthFailure counters.localFailures.toNat counters.remoteFailures.toNat
            agentHealthFailureLimit).map fun error => (round, error))

/-! ### When it is due -/

/-- The agent failed in the round before; the start counts as a success. -/
def failedBefore (side : Nat → PortResult Unit) : Nat → Bool
  | 0 => false
  | round + 1 => !(side round).isOk

/-- The agent failed in this round and in the one before. -/
def failedTwice (side : Nat → PortResult Unit) (round : Nat) : Bool :=
  failedBefore side round && failedBefore side (round + 1)

/-- The local agent's answers, and the remote one's. -/
def HealthAnswers.local (answers : HealthAnswers) : Nat → PortResult Unit := fun round => (answers round).1

def HealthAnswers.remote (answers : HealthAnswers) : Nat → PortResult Unit := fun round => (answers round).2

/-- One of the agents has failed twice in a row. -/
def Due (answers : HealthAnswers) (round : Nat) : Prop :=
  failedTwice answers.local round = true ∨ failedTwice answers.remote round = true

/-- The error for a local agent that failed, and for a remote one. -/
def localUnavailable : PortError where
  code := "LOCAL_AGENT_UNAVAILABLE"
  message := "the local omdesky-agent stopped responding"
  retryable := true

def remoteUnavailable : PortError where
  code := "REMOTE_AGENT_UNAVAILABLE"
  message := "the remote omdesky-agent stopped responding"
  retryable := true

/-- The error of a round that is due: the local agent is named when both have failed. -/
def blame (answers : HealthAnswers) (round : Nat) : PortError :=
  if failedTwice answers.local round then localUnavailable else remoteUnavailable

/-! ### The law -/

section Monitor

variable {answers : HealthAnswers}

/-- The counter of an agent that has not failed twice in a row. -/
def streak (failed : Bool) : UInt8 := if failed then 1 else 0

theorem nextFailures_streak (side : Nat → PortResult Unit) (round : Nat) :
    nextFailures (side round) (streak (failedBefore side round)) =
      if failedTwice side round then 2 else streak (failedBefore side (round + 1)) := by
  unfold nextFailures failedTwice streak
  cases failedBefore side round <;> cases alive : (side round).isOk <;> simp [failedBefore, alive]

/-- One round on counters of agents that have not failed twice in a row. -/
theorem agentHealthFailure_check (round : Nat) {counters : HealthCounters}
    (before : counters = ⟨streak (failedBefore answers.local round),
      streak (failedBefore answers.remote round)⟩) :
    let after := counters.check (answers round)
    agentHealthFailure after.localFailures.toNat after.remoteFailures.toNat agentHealthFailureLimit =
      (if failedTwice answers.local round || failedTwice answers.remote round then
        some (blame answers round) else none) ∧
    after.localFailures.toNat ≤ agentHealthFailureLimit ∧
    after.remoteFailures.toNat ≤ agentHealthFailureLimit ∧
    (¬ Due answers round → after = ⟨streak (failedBefore answers.local (round + 1)),
      streak (failedBefore answers.remote (round + 1))⟩) := by
  have first : (counters.check (answers round)).localFailures =
      if failedTwice answers.local round then 2 else streak (failedBefore answers.local (round + 1)) := by
    rw [before]
    exact nextFailures_streak answers.local round
  have second : (counters.check (answers round)).remoteFailures =
      if failedTwice answers.remote round then 2 else streak (failedBefore answers.remote (round + 1)) := by
    rw [before]
    exact nextFailures_streak answers.remote round
  have within (failed : Bool) : (streak failed).toNat < agentHealthFailureLimit := by
    cases failed <;> decide
  have limit : (2 : UInt8).toNat = agentHealthFailureLimit := rfl
  dsimp only
  refine ⟨?_, ?_, ?_, fun quiet => ?_⟩
  · rw [first, second, agentHealthFailure, blame]
    cases failedTwice answers.local round <;> cases failedTwice answers.remote round <;>
      simp [limit, localUnavailable, remoteUnavailable, Nat.not_le.mpr (within _)]
  · rw [first]
    split
    · exact Nat.le_of_eq limit
    · exact Nat.le_of_lt (within _)
  · rw [second]
    split
    · exact Nat.le_of_eq limit
    · exact Nat.le_of_lt (within _)
  · simp only [Due, not_or, Bool.not_eq_true] at quiet
    rw [quiet.1] at first
    rw [quiet.2] at second
    exact HealthCounters.ext first second

/-- **What the loop knows after some rounds**: while it runs, none of them was due and a counter says
whether its agent failed in the last one; when it has returned, it did so in the first one due. -/
inductive Monitored (answers : HealthAnswers) (rounds : Nat) :
    HealthCounters × Option (Nat × PortError) → Prop
  | running (quiet : ∀ earlier < rounds, ¬ Due answers earlier) :
      Monitored answers rounds (⟨streak (failedBefore answers.local rounds),
        streak (failedBefore answers.remote rounds)⟩, none)
  | returned {counters : HealthCounters} {round : Nat} (past : round < rounds) (due : Due answers round)
      (quiet : ∀ earlier < round, ¬ Due answers earlier)
      (first : counters.localFailures.toNat ≤ agentHealthFailureLimit)
      (second : counters.remoteFailures.toNat ≤ agentHealthFailureLimit) :
      Monitored answers rounds (counters, some (round, blame answers round))

theorem monitored_monitorAgents (rounds : Nat) : Monitored answers rounds (monitorAgents answers rounds) := by
  induction rounds with
  | zero => exact .running nofun
  | succ round ih =>
      rw [monitorAgents]
      generalize monitorAgents answers round = reached at ih
      cases ih with
      | returned past due quiet first second =>
          exact .returned (Nat.lt_succ_of_lt past) due quiet first second
      | running quiet =>
          obtain ⟨verdict, first, second, after⟩ := @agentHealthFailure_check answers round _ rfl
          dsimp only
          rw [verdict]
          by_cases due : Due answers round
          · have either : (failedTwice answers.local round || failedTwice answers.remote round) = true :=
              (Bool.or_eq_true _ _).mpr due
            rw [if_pos either]
            exact .returned round.lt_succ_self due quiet first second
          · have neither : ¬ (failedTwice answers.local round || failedTwice answers.remote round) = true :=
              fun either => due ((Bool.or_eq_true _ _).mp either)
            rw [if_neg neither, after due]
            refine .running fun earlier before => ?_
            rcases Nat.lt_succ_iff_lt_or_eq.mp before with less | rfl
            · exact quiet earlier less
            · exact due

/-- The loop returns this error in this round. -/
def Returns (answers : HealthAnswers) (round : Nat) (error : PortError) : Prop :=
  (monitorAgents answers round).2 = none ∧ (monitorAgents answers (round + 1)).2 = some (round, error)

theorem returns_iff (round : Nat) (error : PortError) : Returns answers round error ↔
    Due answers round ∧ (∀ earlier < round, ¬ Due answers earlier) ∧ error = blame answers round := by
  have before := @monitored_monitorAgents answers round
  have after := @monitored_monitorAgents answers (round + 1)
  unfold Returns
  generalize monitorAgents answers round = reached at before
  generalize monitorAgents answers (round + 1) = next at after
  constructor
  · rintro ⟨running, returned⟩
    cases after with
    | running => cases returned
    | returned past due quiet =>
        cases returned
        exact ⟨due, quiet, rfl⟩
  · rintro ⟨due, quiet, rfl⟩
    refine ⟨?_, ?_⟩
    · cases before with
      | running => rfl
      | returned past earlier => exact absurd earlier (quiet _ past)
    · cases after with
      | running none => exact absurd due (none _ round.lt_succ_self)
      | @returned _ other past earlier none =>
          have same : other = round := by
            rcases Nat.lt_succ_iff_lt_or_eq.mp past with less | same
            · exact absurd earlier (quiet _ less)
            · exact same
          rw [same]

/-- The counters stay within the limit. -/
theorem counters_le (rounds : Nat) :
    (monitorAgents answers rounds).1.localFailures.toNat ≤ agentHealthFailureLimit ∧
      (monitorAgents answers rounds).1.remoteFailures.toNat ≤ agentHealthFailureLimit := by
  have within (failed : Bool) : (streak failed).toNat ≤ agentHealthFailureLimit := by
    cases failed <;> decide
  have known := @monitored_monitorAgents answers rounds
  generalize monitorAgents answers rounds = reached at known
  cases known with
  | running => exact ⟨within _, within _⟩
  | returned past due quiet first second => exact ⟨first, second⟩

/-- **The health monitor ends a stream exactly when it should**: it returns in the first round in which an
agent has failed twice in a row, with that agent's error, and its counters stay within the limit. -/
theorem monitor_law (answers : HealthAnswers) :
    (∀ round error, Returns answers round error ↔
      Due answers round ∧ (∀ earlier < round, ¬ Due answers earlier) ∧ error = blame answers round) ∧
    ∀ rounds, (monitorAgents answers rounds).1.localFailures.toNat ≤ agentHealthFailureLimit ∧
      (monitorAgents answers rounds).1.remoteFailures.toNat ≤ agentHealthFailureLimit :=
  ⟨returns_iff, counters_le⟩

end Monitor

end Omdesky.Application
