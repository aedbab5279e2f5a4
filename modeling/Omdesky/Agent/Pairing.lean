/-
**Pairing challenges (`omdesky-agent/src/pairing.rs`).**

A controller asks for a challenge, shows its identifier to the person at the other computer, and the
challenge is consumed when the pairing is approved there.

* `PairingChallenges.admitIssue`, `PairingChallenges.record`, `PairingChallenges.take`: the three
  critical sections, each run under its lock.
* `issue`, `consume`: the two operations, over the requests they make of the clock and the locks.
* `pairingWorld`: the surroundings. The clock answers anything, generated identifiers never repeat,
  and every challenge issued or consumed is logged.
-/

import Omdesky.Collections.Table
import Omdesky.Interaction.World
import Omdesky.Protocol

namespace Omdesky.Agent

open Collections Interaction Interaction.Program

/-! ### The challenges -/

/-- `CHALLENGE_TTL`. -/
def challengeTtl : Duration := .fromSecs 120

/-- `MAX_OUTSTANDING_PER_OWNER`. -/
def maxOutstandingPerOwner : Nat := 2

/-- `MAX_ISSUES_PER_WINDOW`. -/
def maxIssuesPerWindow : Nat := 5

/-- `ISSUE_WINDOW`. -/
def issueWindow : Duration := .fromSecs 300

/-- `MAX_TRACKED_OWNERS`. -/
def maxTrackedOwners : Nat := 256

/-- `PairingError`. -/
inductive PairingError
  | rateLimited
  | unknownChallenge
  deriving DecidableEq, Repr

/-- `PairingError::code`. -/
def PairingError.code : PairingError → ErrorCode
  | .rateLimited => .rateLimited
  | .unknownChallenge => .pairingChallengeInvalid

/-- `PairingError::message`. -/
def PairingError.message : PairingError → String
  | .rateLimited => "Too many pairing attempts. Wait a few minutes and try again."
  | .unknownChallenge => "This pairing attempt is no longer valid. Start pairing again."

/-- `Challenge`. -/
structure Challenge where
  owner : String
  expiresAt : Instant
  deriving DecidableEq, Repr

/-- `IssueCounter`. -/
structure IssueCounter where
  issues : Nat
  windowStartedAt : Option Instant
  deriving DecidableEq, Repr

/-- `IssueCounter::default`. -/
def IssueCounter.default : IssueCounter := { issues := 0, windowStartedAt := none }

/-- The counter's window has not run out. -/
def IssueCounter.running (counter : IssueCounter) (now : Instant) : Bool :=
  counter.windowStartedAt.any fun started => now - started < issueWindow

/-- `PairingChallenges`. -/
structure PairingChallenges where
  issued : Table String Challenge
  counters : Table String IssueCounter
  ttl : Duration

namespace PairingChallenges

/-- `PairingChallenges::new`. -/
def new (ttl : Duration) : PairingChallenges := { issued := ∅, counters := ∅, ttl }

/-- `PairingChallenges::ttl_seconds`. -/
def ttlSeconds (challenges : PairingChallenges) : Nat := challenges.ttl.asSecs

/-- `PairingChallenges::admit_issue`. -/
def admitIssue (challenges : PairingChallenges) (owner : String) (now : Instant) :
    Except PairingError Unit × PairingChallenges :=
  let counters := challenges.counters.retain fun _ counter => counter.running now
  if maxTrackedOwners ≤ counters.size && !(counters.lookup owner).isSome then
    (.error .rateLimited, { challenges with counters })
  else
    let counter := (counters.lookup owner).getD .default
    let counter :=
      if counter.running now then counter else { issues := 0, windowStartedAt := some now }
    if maxIssuesPerWindow ≤ counter.issues then
      (.error .rateLimited, { challenges with counters := counters.insert owner counter })
    else
      let counter := { counter with issues := counter.issues + 1 }
      (.ok (), { challenges with counters := counters.insert owner counter })

/-- The expired challenges dropped, as both critical sections on the challenges begin. -/
def prune (challenges : PairingChallenges) (now : Instant) : PairingChallenges :=
  { challenges with
    issued := challenges.issued.retain fun _ challenge => now < challenge.expiresAt }

/-- The challenges an owner has outstanding. -/
def outstanding (challenges : PairingChallenges) (owner : String) : Nat :=
  challenges.issued.entries.countP fun entry => entry.2.owner == owner

/-- The second critical section of `PairingChallenges::issue`, for the identifier it draws. -/
def record (challenges : PairingChallenges) (owner : String) (now : Instant) (pairingId : String) :
    Except PairingError String × PairingChallenges :=
  let challenges := challenges.prune now
  if maxOutstandingPerOwner ≤ challenges.outstanding owner then
    (.error .rateLimited, challenges)
  else
    let challenge := { owner, expiresAt := now + challenges.ttl }
    (.ok pairingId, { challenges with issued := challenges.issued.insert pairingId challenge })

/-- The critical section of `PairingChallenges::consume`. -/
def take (challenges : PairingChallenges) (owner pairingId : String) (now : Instant) :
    Except PairingError Unit × PairingChallenges :=
  let challenges := challenges.prune now
  match challenges.issued.lookup pairingId with
  | some challenge =>
      if challenge.owner = owner then
        (.ok (), { challenges with issued := challenges.issued.erase pairingId })
      else (.error .unknownChallenge, challenges)
  | none => (.error .unknownChallenge, challenges)

end PairingChallenges

/-- `format!("{byte:02x}")`. -/
def hexByte (byte : UInt8) : List Char :=
  [Nat.digitChar (byte.toNat / 16), Nat.digitChar (byte.toNat % 16)]

/-- `random_challenge_id`, for the sixteen bytes it draws. -/
def randomChallengeId (bytes : Vector UInt8 16) : String :=
  String.ofList (bytes.toList.flatMap hexByte)

/-! ### The critical sections, case by case -/

namespace PairingChallenges

variable {challenges : PairingChallenges} {owner pairingId : String} {now : Instant}

theorem lookup_prune {challenge : Challenge} :
    (challenges.prune now).issued.lookup pairingId = some challenge ↔
      challenges.issued.lookup pairingId = some challenge ∧ now < challenge.expiresAt := by
  unfold prune
  rw [Table.lookup_retain_eq_some, decide_eq_true_eq]

/-- The counters say nothing about the challenges. -/
theorem issued_admitIssue : (challenges.admitIssue owner now).2.issued = challenges.issued ∧
    (challenges.admitIssue owner now).2.ttl = challenges.ttl := by
  unfold admitIssue
  dsimp only
  split_ifs <;> exact ⟨rfl, rfl⟩

/-- A challenge is recorded, or the owner has too many outstanding. -/
theorem record_cases :
    challenges.record owner now pairingId = (.error .rateLimited, challenges.prune now) ∨
    challenges.record owner now pairingId = (.ok pairingId,
      { challenges.prune now with
        issued := (challenges.prune now).issued.insert pairingId
          { owner, expiresAt := now + challenges.ttl } }) := by
  unfold record
  dsimp only
  by_cases full : maxOutstandingPerOwner ≤ (challenges.prune now).outstanding owner
  · rw [if_pos full]
    exact .inl rfl
  · rw [if_neg full]
    exact .inr rfl

/-- A consume is accepted exactly for a challenge of its owner that has not expired. -/
theorem take_cases :
    (∃ challenge, challenges.issued.lookup pairingId = some challenge ∧ challenge.owner = owner ∧
      now < challenge.expiresAt ∧ challenges.take owner pairingId now = (.ok (),
        { challenges.prune now with issued := (challenges.prune now).issued.erase pairingId })) ∨
    ((∀ challenge, challenges.issued.lookup pairingId = some challenge →
      challenge.owner = owner → challenge.expiresAt ≤ now) ∧
      challenges.take owner pairingId now = (.error .unknownChallenge, challenges.prune now)) := by
  unfold take
  dsimp only
  cases looked : (challenges.prune now).issued.lookup pairingId with
  | none =>
      refine .inr ⟨fun challenge stored _ => ?_, rfl⟩
      by_contra live
      rw [lookup_prune.mpr ⟨stored, Nat.lt_of_not_le live⟩] at looked
      cases looked
  | some challenge =>
      have ⟨stored, live⟩ := lookup_prune.mp looked
      dsimp only
      by_cases owned : challenge.owner = owner
      · rw [if_pos owned]
        exact .inl ⟨challenge, stored, owned, live, rfl⟩
      · rw [if_neg owned]
        refine .inr ⟨fun other same mine => ?_, rfl⟩
        rw [stored, Option.some.injEq] at same
        exact absurd (same ▸ mine) owned

end PairingChallenges

/-! ### The operations -/

/-- What the operations ask of their surroundings: a clock reading and the critical sections. -/
inductive PairingRequest
  | instant
  | admitIssue (owner : String) (now : Instant)
  | record (owner : String) (now : Instant)
  | take (owner pairingId : String) (now : Instant)

/-- The answer to each request. -/
abbrev PairingAnswer : PairingRequest → Type
  | .instant => Instant
  | .admitIssue _ _ => Except PairingError Unit
  | .record _ _ => Except PairingError String
  | .take _ _ _ => Except PairingError Unit

/-- A program of the challenges. -/
abbrev PairingM := Program PairingRequest PairingAnswer

/-- One request of the operations. -/
abbrev await (request : PairingRequest) : PairingM (PairingAnswer request) := perform request

/-- `PairingChallenges::issue`. -/
def issue (owner : String) : PairingM (Except PairingError String) := do
  let now ← await .instant
  match ← await (.admitIssue owner now) with
  | .error error => return .error error
  | .ok () => await (.record owner now)

/-- `PairingChallenges::consume`. -/
def consume (owner pairingId : String) : PairingM (Except PairingError Unit) := do
  let now ← await .instant
  await (.take owner pairingId now)

/-! ### The surroundings -/

/-- A challenge that was issued. -/
structure Grant where
  pairingId : String
  owner : String
  issuedAt : Instant
  deriving DecidableEq, Repr

/-- When a grant ends. -/
def Grant.expiresAt (grant : Grant) (ttl : Duration) : Instant := grant.issuedAt + ttl

/-- The challenge a grant leaves. -/
def Grant.challenge (grant : Grant) (ttl : Duration) : Challenge :=
  { owner := grant.owner, expiresAt := grant.expiresAt ttl }

/-- A challenge that was consumed, by whom, and the clock value of the call. -/
structure Use where
  pairingId : String
  owner : String
  usedAt : Instant
  deriving DecidableEq, Repr

/-- The challenges, the latest clock reading, and what was issued and consumed so far. -/
structure PairingState where
  challenges : PairingChallenges
  latest : Instant
  grants : List Grant
  uses : List Use

namespace PairingState

/-- The state before the first call. -/
def new (ttl : Duration) (latest : Instant) : PairingState :=
  { challenges := .new ttl, latest, grants := [], uses := [] }

/-- The clock was read. -/
def tick (state : PairingState) (now : Instant) : PairingState :=
  { state with latest := max state.latest now }

/-- The challenges after a critical section. -/
def become (state : PairingState) (challenges : PairingChallenges) : PairingState :=
  { state with challenges }

/-- One more challenge issued. -/
def granted (state : PairingState) (grant : Grant) : PairingState :=
  { state with grants := grant :: state.grants }

/-- One more challenge consumed. -/
def spent (state : PairingState) (use : Use) : PairingState :=
  { state with uses := use :: state.uses }

end PairingState

/-- The surroundings of the challenges. The clock may answer anything, also less than before. -/
def pairingWorld : World PairingRequest PairingAnswer PairingState
  | .instant, state, now, after => after = state.tick now
  | .admitIssue owner now, state, reply, after =>
      reply = (state.challenges.admitIssue owner now).1 ∧
      after = state.become (state.challenges.admitIssue owner now).2
  | .record owner now, state, reply, after => ∃ bytes,
      randomChallengeId bytes ∉ state.grants.map Grant.pairingId ∧
      match state.challenges.record owner now (randomChallengeId bytes) with
      | (.ok pairingId, challenges) => reply = .ok pairingId ∧
          after = (state.become challenges).granted { pairingId, owner, issuedAt := now }
      | (.error error, challenges) => reply = .error error ∧ after = state.become challenges
  | .take owner pairingId now, state, reply, after =>
      match state.challenges.take owner pairingId now with
      | (.ok (), challenges) => reply = .ok () ∧
          after = (state.become challenges).spent { pairingId, owner, usedAt := now }
      | (.error error, challenges) => reply = .error error ∧ after = state.become challenges

/-! ### Calls -/

/-- A call of one of the operations. -/
inductive PairingCall
  | issue (owner : String)
  | consume (owner pairingId : String)
  deriving DecidableEq, Repr

/-- What a call returns. -/
inductive PairingReply
  | issued (result : Except PairingError String)
  | consumed (result : Except PairingError Unit)

/-- The operation of a call. -/
def PairingCall.serve : PairingCall → PairingM PairingReply
  | .issue owner => do return .issued (← Agent.issue owner)
  | .consume owner pairingId => do return .consumed (← Agent.consume owner pairingId)

end Omdesky.Agent
