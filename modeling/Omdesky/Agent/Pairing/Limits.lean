/-
**Pairing attempts are bounded, owner by owner.**

The calls of any owners take effect one after the other, at moments that do not go back.

* `PairingChallenges.serve`, `served`, `after`: one call at once, what comes of a list of calls, and
  the challenges they leave. `ends_serve` finds them in the operations.
* `PairingChallenges.tracked`: the counter of an owner, which `admitIssue` may have dropped.
* `Alike`: what an owner sees of two states is the same.
* `PairingBounds`, `pairing_bounds`: the limits, and that no owner is in the way of another.
-/

import Omdesky.Agent.Pairing
import Omdesky.Collections.WindowCounter
import Mathlib.Algebra.Order.Group.Nat

namespace Omdesky.Agent

open Collections Interaction Interaction.Program

/-! ### Calls that take effect at once -/

/-- Whose call it is. -/
def PairingCall.owner : PairingCall → String
  | .issue owner | .consume owner _ => owner

/-- A call, the clock value it reads, and the bytes it draws if it draws any. -/
structure TimedCall where
  call : PairingCall
  now : Instant
  bytes : Vector UInt8 16

/-- A call and what came of it: whether it was refused for the number of owners, whether
`admit_issue` let it pass, and what it returned. -/
structure Served where
  timed : TimedCall
  limited : Bool
  admitted : Bool
  reply : PairingReply

namespace Served

/-- The identifier that was issued. -/
def pairingId (served : Served) : Option String :=
  match served.reply with
  | .issued (.ok pairingId) => some pairingId
  | _ => none

/-- A challenge was issued to the owner. -/
def issuedTo (served : Served) (owner : String) : Bool :=
  served.timed.call == .issue owner && served.pairingId.isSome

/-- An attempt of the owner that came to its counter. -/
def counted (served : Served) (owner : String) : Bool :=
  served.timed.call == .issue owner && !served.limited

/-- A call of the owner that was not refused for the number of owners. -/
def own (served : Served) (owner : String) : Bool :=
  served.timed.call.owner == owner && !served.limited

end Served

namespace PairingChallenges

/-- There are too many owners for this one to be tracked. -/
def limited (challenges : PairingChallenges) (owner : String) (now : Instant) : Bool :=
  let counters := challenges.counters.retain fun _ counter => counter.running now
  maxTrackedOwners ≤ counters.size && !(counters.lookup owner).isSome

/-- `PairingChallenges::issue`, at once. -/
def issueAt (challenges : PairingChallenges) (owner : String) (now : Instant)
    (bytes : Vector UInt8 16) : Except PairingError String × PairingChallenges :=
  match challenges.admitIssue owner now with
  | (.error error, challenges) => (.error error, challenges)
  | (.ok (), challenges) => challenges.record owner now (randomChallengeId bytes)

/-- One call at once. -/
def serve (challenges : PairingChallenges) (timed : TimedCall) : Served × PairingChallenges :=
  match timed.call with
  | .issue owner =>
      let (result, after) := challenges.issueAt owner timed.now timed.bytes
      ({ timed, limited := challenges.limited owner timed.now,
         admitted := (challenges.admitIssue owner timed.now).1.isOk, reply := .issued result }, after)
  | .consume owner pairingId =>
      let (result, after) := challenges.take owner pairingId timed.now
      ({ timed, limited := false, admitted := false, reply := .consumed result }, after)

/-- What comes of the calls. -/
def served : PairingChallenges → List TimedCall → List Served
  | _, [] => []
  | challenges, timed :: later => (challenges.serve timed).1 :: (challenges.serve timed).2.served later

/-- The challenges that the calls leave. -/
def after : PairingChallenges → List TimedCall → PairingChallenges
  | challenges, [] => challenges
  | challenges, timed :: later => (challenges.serve timed).2.after later

end PairingChallenges

/-! ### One call -/

namespace PairingChallenges

variable {challenges : PairingChallenges} {owner other pairingId : String} {now : Instant}
  {bytes : Vector UInt8 16} {error : PairingError}

theorem issueAt_of_error (refused : (challenges.admitIssue owner now).1 = .error error) :
    challenges.issueAt owner now bytes = (.error error, (challenges.admitIssue owner now).2) := by
  rw [issueAt, ← Prod.eta (challenges.admitIssue owner now), refused]

theorem issueAt_of_ok (admitted : (challenges.admitIssue owner now).1 = .ok ()) :
    challenges.issueAt owner now bytes =
      (challenges.admitIssue owner now).2.record owner now (randomChallengeId bytes) := by
  rw [issueAt, ← Prod.eta (challenges.admitIssue owner now), admitted]

end PairingChallenges

/-- The surroundings record a challenge for the bytes they draw. -/
theorem record_of_world {owner : String} {now : Instant} {state final : PairingState}
    {reply : Except PairingError String}
    (answered : pairingWorld (.record owner now) state reply final) : ∃ bytes,
      state.challenges.record owner now (randomChallengeId bytes) = (reply, final.challenges) := by
  obtain ⟨bytes, _, recorded⟩ := answered
  refine ⟨bytes, ?_⟩
  rcases @PairingChallenges.record_cases state.challenges owner (randomChallengeId bytes) now with
    same | same
  all_goals
    rw [same] at recorded ⊢
    obtain ⟨rfl, rfl⟩ := recorded
    rfl

theorem take_of_world {owner pairingId : String} {now : Instant} {state final : PairingState}
    {reply : Except PairingError Unit}
    (answered : pairingWorld (.take owner pairingId now) state reply final) :
    state.challenges.take owner pairingId now = (reply, final.challenges) := by
  simp only [pairingWorld] at answered
  rcases @PairingChallenges.take_cases state.challenges owner pairingId now with
    ⟨challenge, _, _, _, same⟩ | ⟨_, same⟩
  all_goals
    rw [same] at answered ⊢
    obtain ⟨rfl, rfl⟩ := answered
    rfl

/-- **The operations without an interruption** are these steps. -/
theorem ends_serve {call : PairingCall} {state final : PairingState} {reply : PairingReply}
    (ends : Ends pairingWorld call.serve state reply final) : ∃ now bytes,
      (state.challenges.serve ⟨call, now, bytes⟩).1.reply = reply ∧
        (state.challenges.serve ⟨call, now, bytes⟩).2 = final.challenges := by
  cases call with
  | issue owner =>
      obtain ⟨now, _, rfl, ends⟩ := ends_ask.mp ends
      obtain ⟨admitted, middle, ⟨answered, rfl⟩, ends⟩ := ends_ask.mp ends
      cases admitted with
      | error error =>
          obtain ⟨rfl, rfl⟩ := ends_done.mp ends
          have refused : state.challenges.issueAt owner now (.replicate 16 0) =
              (.error error, (state.challenges.admitIssue owner now).2) :=
            PairingChallenges.issueAt_of_error answered.symm
          refine ⟨now, .replicate 16 0, ?_⟩
          exact ⟨congrArg PairingReply.issued (congrArg Prod.fst refused), congrArg Prod.snd refused⟩
      | ok _ =>
          obtain ⟨result, final, recorded, ends⟩ := ends_ask.mp ends
          obtain ⟨rfl, rfl⟩ := ends_done.mp ends
          obtain ⟨bytes, recorded⟩ := record_of_world recorded
          have issued : state.challenges.issueAt owner now bytes = (result, final.challenges) :=
            (PairingChallenges.issueAt_of_ok answered.symm).trans recorded
          refine ⟨now, bytes, ?_⟩
          exact ⟨congrArg PairingReply.issued (congrArg Prod.fst issued), congrArg Prod.snd issued⟩
  | consume owner pairingId =>
      obtain ⟨now, _, rfl, ends⟩ := ends_ask.mp ends
      obtain ⟨result, final, taken, ends⟩ := ends_ask.mp ends
      obtain ⟨rfl, rfl⟩ := ends_done.mp ends
      have taken := take_of_world taken
      refine ⟨now, .replicate 16 0, ?_⟩
      exact ⟨congrArg PairingReply.consumed (congrArg Prod.fst taken), congrArg Prod.snd taken⟩

/-! ### The counters -/

/-- The counter as one of the library's. -/
def IssueCounter.window (counter : IssueCounter) : WindowCounter Instant :=
  ⟨counter.issues, counter.windowStartedAt⟩

theorem issueWindow_pos : 0 < issueWindow := by decide

/-- The two ways to say that a window has not run out. -/
theorem before_end_iff {now start width : Nat} (wide : 0 < width) :
    now < start + width ↔ now - start < width := by
  omega

theorem IssueCounter.running_window (counter : IssueCounter) (now : Instant) :
    counter.window.running issueWindow now = counter.running now := by
  unfold window running WindowCounter.running
  congr 1
  funext start
  exact decide_eq_decide.mpr (before_end_iff issueWindow_pos)

/-- The counter of the window that `now` lies in. -/
def IssueCounter.current (counter : IssueCounter) (now : Instant) : IssueCounter :=
  if counter.running now then counter else { issues := 0, windowStartedAt := some now }

theorem IssueCounter.window_current (counter : IssueCounter) (now : Instant) :
    (counter.current now).window = counter.window.current issueWindow now := by
  rw [WindowCounter.current, running_window, current]
  split <;> rfl

namespace PairingChallenges

variable {challenges : PairingChallenges} {owner other pairingId : String} {now : Instant}
  {bytes : Vector UInt8 16} {timed : TimedCall}

/-- The counters whose window has not run out. -/
def runningCounters (challenges : PairingChallenges) (now : Instant) : Table String IssueCounter :=
  challenges.counters.retain fun _ counter => counter.running now

/-- The counter an owner has, if it has one. -/
def counterOf (counters : Table String IssueCounter) (owner : String) : WindowCounter Instant :=
  ((counters.lookup owner).getD .default).window

/-- The counter of an owner. -/
abbrev tracked (challenges : PairingChallenges) (owner : String) : WindowCounter Instant :=
  counterOf challenges.counters owner

/-- A dropped counter is one that was forgotten. -/
theorem counterOf_runningCounters : counterOf (challenges.runningCounters now) owner =
    (challenges.tracked owner).forget issueWindow now := by
  unfold tracked counterOf runningCounters
  rw [Table.lookup_retain]
  cases challenges.counters.lookup owner with
  | none => rfl
  | some counter =>
      rw [WindowCounter.forget, Option.getD_some, IssueCounter.running_window, Option.filter_some]
      cases counter.running now <;> rfl

/-- **An attempt** is refused for the number of owners, or left to the owner's counter. -/
theorem admitIssue_cases :
    (challenges.limited owner now = true ∧ challenges.admitIssue owner now =
      (.error .rateLimited, { challenges with counters := challenges.runningCounters now })) ∨
    (challenges.limited owner now = false ∧ ∃ counter : IssueCounter,
      counter.window =
        ((challenges.tracked owner).attempt maxIssuesPerWindow issueWindow now).2 ∧
      challenges.admitIssue owner now =
        (if ((challenges.tracked owner).attempt maxIssuesPerWindow issueWindow now).1 then .ok ()
          else .error .rateLimited,
        { challenges with
          counters := (challenges.runningCounters now).insert owner counter })) := by
  cases refused : challenges.limited owner now with
  | true => exact .inl ⟨rfl, if_pos refused⟩
  | false =>
      let counter := (((challenges.runningCounters now).lookup owner).getD .default).current now
      let next : IssueCounter := { counter with issues := counter.issues + 1 }
      have decided : (challenges.tracked owner).attempt maxIssuesPerWindow issueWindow now =
          if maxIssuesPerWindow ≤ counter.issues then (false, counter.window)
          else (true, next.window) := by
        rw [← WindowCounter.attempt_forget le_rfl, ← counterOf_runningCounters, counterOf,
          WindowCounter.attempt, ← IssueCounter.window_current]
        rfl
      have opened : challenges.admitIssue owner now =
          if maxIssuesPerWindow ≤ counter.issues then (.error .rateLimited, { challenges with
            counters := (challenges.runningCounters now).insert owner counter })
          else (.ok (), { challenges with
            counters := (challenges.runningCounters now).insert owner next }) :=
        if_neg (Bool.eq_false_iff.mp refused)
      by_cases full : maxIssuesPerWindow ≤ counter.issues
      · rw [if_pos full] at decided opened
        rw [decided, opened]
        exact .inr ⟨rfl, counter, rfl, rfl⟩
      · rw [if_neg full] at decided opened
        rw [decided, opened]
        exact .inr ⟨rfl, _, rfl, rfl⟩

theorem counterOf_insert {counters : Table String IssueCounter} {counter : IssueCounter} :
    counterOf (counters.insert owner counter) owner = counter.window := by
  rw [counterOf, AList.lookup_insert, Option.getD_some]

theorem counterOf_insert_ne {counters : Table String IssueCounter} {counter : IssueCounter}
    (differs : other ≠ owner) :
    counterOf (counters.insert owner counter) other = counterOf counters other := by
  rw [counterOf, AList.lookup_insert_ne differs, counterOf]

theorem counters_record :
    (challenges.record owner now pairingId).2.counters = challenges.counters := by
  rcases @record_cases challenges owner pairingId now with same | same <;> rw [same] <;> rfl

theorem counters_take : (challenges.take owner pairingId now).2.counters = challenges.counters := by
  rcases @take_cases challenges owner pairingId now with ⟨_, _, _, _, same⟩ | ⟨_, same⟩ <;>
    rw [same] <;> rfl

/-- **An attempt to issue**, for an owner that is not tracked, that is out of attempts, or that is
left to the second critical section. -/
theorem issueAt_cases :
    (challenges.limited owner now = true ∧ challenges.issueAt owner now bytes =
      (.error .rateLimited, { challenges with counters := challenges.runningCounters now })) ∨
    (challenges.limited owner now = false ∧ ∃ counter : IssueCounter,
      counter.window = ((challenges.tracked owner).attempt maxIssuesPerWindow issueWindow now).2 ∧
      challenges.issueAt owner now bytes =
        if ((challenges.tracked owner).attempt maxIssuesPerWindow issueWindow now).1 then
          { challenges with counters := (challenges.runningCounters now).insert owner counter }.record
            owner now (randomChallengeId bytes)
        else (.error .rateLimited, { challenges with
          counters := (challenges.runningCounters now).insert owner counter })) := by
  rcases @admitIssue_cases challenges owner now with ⟨refused, same⟩ | ⟨opened, counter, window, same⟩
  · refine .inl ⟨refused, ?_⟩
    rw [issueAt_of_error (congrArg Prod.fst same), same]
  · refine .inr ⟨opened, counter, window, ?_⟩
    by_cases admitted : ((challenges.tracked owner).attempt maxIssuesPerWindow issueWindow now).1 = true
    · rw [if_pos admitted] at same ⊢
      rw [issueAt_of_ok (congrArg Prod.fst same), same]
    · rw [if_neg admitted] at same ⊢
      rw [issueAt_of_error (congrArg Prod.fst same), same]

/-- The counters after an attempt that its counter decided. -/
theorem counters_issueAt (opened : challenges.limited owner now = false) : ∃ counter : IssueCounter,
    counter.window = ((challenges.tracked owner).attempt maxIssuesPerWindow issueWindow now).2 ∧
      (challenges.issueAt owner now bytes).2.counters =
        (challenges.runningCounters now).insert owner counter := by
  rcases @issueAt_cases challenges owner now bytes with ⟨refused, _⟩ | ⟨_, counter, window, same⟩
  · cases refused.symm.trans opened
  · refine ⟨counter, window, ?_⟩
    rw [same]
    split
    · exact counters_record
    · rfl

theorem timed_serve : (challenges.serve timed).1.timed = timed := by
  obtain ⟨call, now, bytes⟩ := timed
  cases call <;> rfl

/-- An attempt that came to the counter is one of the owner, and not refused before. -/
theorem counted_iff : (challenges.serve timed).1.counted owner = true ↔
    timed.call = .issue owner ∧ challenges.limited owner timed.now = false := by
  obtain ⟨call, now, bytes⟩ := timed
  cases call with
  | issue given =>
      change (PairingCall.issue given == .issue owner && !challenges.limited given now) = true ↔ _
      rw [Bool.and_eq_true, beq_iff_eq, Bool.not_eq_true']
      refine and_congr_right fun same => ?_
      cases same
      rfl
  | consume given pairingId =>
      change (PairingCall.consume given pairingId == .issue owner && true) = true ↔ _
      simp

/-- **The owner's counter after an attempt of its own.** -/
theorem tracked_of_counted (counted : (challenges.serve timed).1.counted owner = true) :
    (challenges.serve timed).2.tracked owner =
        ((challenges.tracked owner).attempt maxIssuesPerWindow issueWindow timed.now).2 ∧
      (challenges.serve timed).1.admitted =
        ((challenges.tracked owner).attempt maxIssuesPerWindow issueWindow timed.now).1 := by
  obtain ⟨call, now, bytes⟩ := timed
  obtain ⟨rfl, opened⟩ := counted_iff.mp counted
  constructor
  · obtain ⟨counter, window, counters⟩ := @counters_issueAt challenges owner now bytes opened
    change counterOf (challenges.issueAt owner now bytes).2.counters owner = _
    rw [counters, counterOf_insert, window]
  · change (challenges.admitIssue owner now).1.isOk = _
    rcases @admitIssue_cases challenges owner now with ⟨refused, _⟩ | ⟨_, counter, _, same⟩
    · cases refused.symm.trans opened
    · rw [same]
      cases ((challenges.tracked owner).attempt maxIssuesPerWindow issueWindow now).1 <;> rfl

/-- The owner's counter after any other call. -/
theorem tracked_of_not_counted (passed : (challenges.serve timed).1.counted owner = false) :
    ((challenges.serve timed).2.tracked owner).forget issueWindow timed.now =
      (challenges.tracked owner).forget issueWindow timed.now := by
  obtain ⟨call, now, bytes⟩ := timed
  cases call with
  | consume given pairingId =>
      change (counterOf (challenges.take given pairingId now).2.counters owner).forget _ _ = _
      rw [counters_take]
  | issue given =>
      change (counterOf (challenges.issueAt given now bytes).2.counters owner).forget _ _ = _
      cases refused : challenges.limited given now with
      | true =>
          rcases @issueAt_cases challenges given now bytes with ⟨_, same⟩ | ⟨opened, _⟩
          · rw [same, counterOf_runningCounters, WindowCounter.forget_forget le_rfl]
          · cases refused.symm.trans opened
      | false =>
          obtain ⟨counter, _, counters⟩ := @counters_issueAt challenges given now bytes refused
          have differs : owner ≠ given := fun same =>
            Bool.eq_false_iff.mp passed (counted_iff.mpr ⟨same ▸ rfl, same ▸ refused⟩)
          rw [counters, counterOf_insert_ne differs, counterOf_runningCounters,
            WindowCounter.forget_forget le_rfl]

/-! ### The counters of a run -/

variable {calls : List TimedCall} {clock : Instant} {counter : WindowCounter Instant}

/-- **The admissions of an owner are those of a counter that is never dropped.** -/
theorem admits_served (same : (challenges.tracked owner).forget issueWindow clock =
      counter.forget issueWindow clock)
    (later : ∀ call ∈ calls, clock ≤ call.now)
    (ordered : calls.Pairwise fun first second => first.now ≤ second.now) :
    ((challenges.served calls).filter (·.counted owner)).map Served.admitted =
      counter.admits maxIssuesPerWindow issueWindow
        (((challenges.served calls).filter (·.counted owner)).map (·.timed.now)) := by
  induction calls generalizing challenges clock counter with
  | nil => rfl
  | cons timed calls ih =>
      obtain ⟨next, ordered⟩ := List.pairwise_cons.mp ordered
      have after := later timed List.mem_cons_self
      rw [served]
      cases counted : (challenges.serve timed).1.counted owner with
      | true =>
          obtain ⟨kept, admitted⟩ := tracked_of_counted counted
          rw [WindowCounter.attempt_eq_of_forget same after] at kept admitted
          have rest := ih (congrArg (·.forget issueWindow timed.now) kept) next ordered
          rw [List.filter_cons, if_pos counted, List.map_cons, List.map_cons, WindowCounter.admits,
            admitted, rest, timed_serve]
      | false =>
          rw [List.filter_cons, if_neg (Bool.eq_false_iff.mp counted)]
          exact ih ((tracked_of_not_counted counted).trans
            (WindowCounter.forget_eq_of_forget same after)) next ordered

/-- The challenge that was issued is what the attempt returned. -/
theorem pairingId_serve : (challenges.serve ⟨.issue owner, now, bytes⟩).1.pairingId =
    (challenges.issueAt owner now bytes).1.toOption := by
  change (match PairingReply.issued (challenges.issueAt owner now bytes).1 with
    | .issued (.ok pairingId) => some pairingId
    | _ => none) = _
  cases (challenges.issueAt owner now bytes).1 <;> rfl

/-- A challenge is issued only when the counter admits it. -/
theorem admitted_of_issuedTo (issued : (challenges.serve timed).1.issuedTo owner = true) :
    (challenges.serve timed).1.counted owner = true ∧ (challenges.serve timed).1.admitted = true := by
  obtain ⟨call, now, bytes⟩ := timed
  obtain ⟨called, some⟩ := Bool.and_eq_true_iff.mp issued
  cases call with
  | consume given pairingId => cases called
  | issue given =>
      obtain rfl : given = owner := by
        rw [beq_iff_eq] at called
        exact PairingCall.issue.inj called
      rw [pairingId_serve] at some
      rcases @issueAt_cases challenges given now bytes with ⟨_, same⟩ | ⟨opened, counter, _, same⟩
      · rw [same] at some
        cases some
      · have counted : (challenges.serve ⟨.issue given, now, bytes⟩).1.counted given = true :=
          counted_iff.mpr ⟨rfl, opened⟩
        refine ⟨counted, (tracked_of_counted counted).2.trans ?_⟩
        by_contra refused
        rw [same, if_neg refused] at some
        cases some

theorem map_timed_served (calls : List TimedCall) :
    (challenges.served calls).map Served.timed = calls := by
  induction calls generalizing challenges with
  | nil => rfl
  | cons timed calls ih => rw [served, List.map_cons, timed_serve, ih]

theorem admitted_of_mem_served {served : Served} (member : served ∈ challenges.served calls)
    (issued : served.issuedTo owner = true) :
    served.counted owner = true ∧ served.admitted = true := by
  induction calls generalizing challenges with
  | nil => cases member
  | cons timed calls ih =>
      rcases List.mem_cons.mp member with rfl | member
      · exact admitted_of_issuedTo issued
      · exact ih member

/-- **The challenges issued to an owner in an interval**, each of which its counter admitted. -/
theorem countP_issuedTo_le (same : (challenges.tracked owner).forget issueWindow clock =
      counter.forget issueWindow clock)
    (later : ∀ call ∈ calls, clock ≤ call.now)
    (ordered : calls.Pairwise fun first second => first.now ≤ second.now) (first last : Instant) :
    ((challenges.served calls).countP fun served => served.issuedTo owner &&
      (first ≤ served.timed.now && served.timed.now < last)) ≤
        counter.admittedIn maxIssuesPerWindow issueWindow
          (((challenges.served calls).filter (·.counted owner)).map (·.timed.now)) first last := by
  rw [WindowCounter.admittedIn, ← admits_served same later ordered, List.zip_map', List.countP_map,
    List.countP_filter]
  refine List.countP_mono_left fun served member passes => ?_
  obtain ⟨issued, inside⟩ := Bool.and_eq_true_iff.mp passes
  obtain ⟨counted, admitted⟩ := admitted_of_mem_served member issued
  simp [counted, admitted, inside]

/-! ### The two tables stay small -/

/-- The tables are within their limits. -/
structure Within (challenges : PairingChallenges) : Prop where
  outstanding : ∀ owner, challenges.outstanding owner ≤ maxOutstandingPerOwner
  owners : challenges.counters.size ≤ maxTrackedOwners

theorem outstanding_eq_count : challenges.outstanding owner =
    challenges.issued.count fun _ challenge => challenge.owner == owner := rfl

theorem outstanding_prune_le :
    (challenges.prune now).outstanding owner ≤ challenges.outstanding owner := by
  exact Table.count_retain_le (fun _ challenge => challenge.owner == owner)
    (fun _ challenge => decide (now < challenge.expiresAt)) challenges.issued

theorem Within.prune (within : challenges.Within) (now : Instant) : (challenges.prune now).Within :=
  ⟨fun owner => outstanding_prune_le.trans (within.outstanding owner), within.owners⟩

theorem record_of_full (full : maxOutstandingPerOwner ≤ (challenges.prune now).outstanding owner) :
    challenges.record owner now pairingId = (.error .rateLimited, challenges.prune now) :=
  if_pos full

theorem record_of_room (room : (challenges.prune now).outstanding owner < maxOutstandingPerOwner) :
    challenges.record owner now pairingId = (.ok pairingId, { challenges.prune now with
      issued := (challenges.prune now).issued.insert pairingId
        { owner, expiresAt := now + challenges.ttl } }) :=
  if_neg (Nat.not_le.mpr room)

theorem isOk_record : (challenges.record owner now pairingId).1.isOk = true ↔
    (challenges.prune now).outstanding owner < maxOutstandingPerOwner := by
  rcases Nat.lt_or_ge ((challenges.prune now).outstanding owner) maxOutstandingPerOwner with
    room | full
  · rw [record_of_room room]
    exact iff_of_true rfl room
  · rw [record_of_full full]
    exact iff_of_false Bool.false_ne_true (Nat.not_lt.mpr full)

theorem Within.record (within : challenges.Within) :
    (challenges.record owner now pairingId).2.Within := by
  have pruned := within.prune now
  rcases Nat.lt_or_ge ((challenges.prune now).outstanding owner) maxOutstandingPerOwner with
    room | full
  · rw [record_of_room room]
    refine ⟨fun other => ?_, pruned.owners⟩
    have most := pruned.outstanding other
    have grown := Table.count_insert_le (fun _ challenge => challenge.owner == other) pairingId
      { owner, expiresAt := now + challenges.ttl } (challenges.prune now).issued
    rw [← outstanding_eq_count] at grown
    rw [outstanding_eq_count]
    by_cases mine : owner = other
    · subst mine
      refine grown.trans ?_
      rw [if_pos (beq_self_eq_true _)]
      exact room
    · refine grown.trans ?_
      rw [if_neg (by simpa using mine)]
      exact most
  · rw [record_of_full full]
    exact pruned

theorem Within.take (within : challenges.Within) :
    (challenges.take owner pairingId now).2.Within := by
  rcases @take_cases challenges owner pairingId now with ⟨_, _, _, _, same⟩ | ⟨_, same⟩
  · rw [same]
    refine ⟨fun other => ?_, within.owners⟩
    rw [outstanding_eq_count]
    exact (Table.count_erase_le _ _ _).trans ((within.prune now).outstanding other)
  · rw [same]
    exact within.prune now

/-- A counter is added only while there is room for its owner. -/
theorem Within.count (within : challenges.Within) (opened : challenges.limited owner now = false)
    (counter : IssueCounter) : Within
      { challenges with counters := (challenges.runningCounters now).insert owner counter } := by
  refine ⟨within.outstanding, ?_⟩
  have most : (challenges.runningCounters now).size ≤ maxTrackedOwners :=
    (Table.size_retain_le _ _).trans within.owners
  cases present : ((challenges.runningCounters now).lookup owner).isSome with
  | true => exact (Table.size_insert_of_lookup counter present).trans_le most
  | false =>
      have room : (challenges.runningCounters now).size < maxTrackedOwners := by
        have few := Bool.and_eq_false_iff.mp opened
        rw [decide_eq_false_iff_not, Nat.not_le] at few
        refine few.resolve_right fun absent => ?_
        rw [Bool.not_eq_false'] at absent
        cases present.symm.trans absent
      exact (Table.size_insert_le _ _ _).trans room

theorem Within.issueAt (within : challenges.Within) :
    (challenges.issueAt owner now bytes).2.Within := by
  rcases @issueAt_cases challenges owner now bytes with ⟨_, same⟩ | ⟨opened, counter, _, same⟩
  · rw [same]
    exact ⟨within.outstanding, (Table.size_retain_le _ _).trans within.owners⟩
  · rw [same]
    split
    · exact (within.count opened counter).record
    · exact within.count opened counter

theorem Within.after (within : challenges.Within) (calls : List TimedCall) :
    (challenges.after calls).Within := by
  induction calls generalizing challenges with
  | nil => exact within
  | cons timed calls ih =>
      refine ih ?_
      obtain ⟨call, now, bytes⟩ := timed
      cases call with
      | issue owner => exact within.issueAt
      | consume owner pairingId => exact within.take

/-! ### Other owners -/

theorem ttl_record : (challenges.record owner now pairingId).2.ttl = challenges.ttl := by
  rcases @record_cases challenges owner pairingId now with same | same <;> rw [same] <;> rfl

theorem ttl_serve : (challenges.serve timed).2.ttl = challenges.ttl := by
  obtain ⟨call, now, bytes⟩ := timed
  cases call with
  | issue owner =>
      change (challenges.issueAt owner now bytes).2.ttl = _
      rcases @issueAt_cases challenges owner now bytes with ⟨_, same⟩ | ⟨_, counter, _, same⟩
      · rw [same]
      · rw [same]
        split
        · exact ttl_record
        · rfl
  | consume owner pairingId =>
      change (challenges.take owner pairingId now).2.ttl = _
      rcases @take_cases challenges owner pairingId now with ⟨_, _, _, _, same⟩ | ⟨_, same⟩ <;>
        rw [same] <;> rfl

/-- **What one call does to the challenges**: nothing, or the expired ones go and then one of the
owner's comes or goes. -/
theorem issued_serve :
    (challenges.serve timed).2.issued = challenges.issued ∨
    (challenges.serve timed).2.issued = (challenges.prune timed.now).issued ∨
    (∃ pairingId, (challenges.serve timed).1.pairingId = some pairingId ∧
      (challenges.serve timed).2.issued = (challenges.prune timed.now).issued.insert pairingId
        { owner := timed.call.owner, expiresAt := timed.now + challenges.ttl }) ∨
    (∃ pairingId challenge, challenges.issued.lookup pairingId = some challenge ∧
      challenge.owner = timed.call.owner ∧
        (challenges.serve timed).2.issued = (challenges.prune timed.now).issued.erase pairingId) := by
  obtain ⟨call, now, bytes⟩ := timed
  cases call with
  | issue owner =>
      have reply : (challenges.serve ⟨.issue owner, now, bytes⟩).1.pairingId =
          (challenges.issueAt owner now bytes).1.toOption := pairingId_serve
      change (challenges.issueAt owner now bytes).2.issued = _ ∨
        (challenges.issueAt owner now bytes).2.issued = _ ∨
        (∃ pairingId, _ ∧ (challenges.issueAt owner now bytes).2.issued = _) ∨
        (∃ pairingId challenge, _ ∧ _ ∧ (challenges.issueAt owner now bytes).2.issued = _)
      rw [reply]
      rcases @issueAt_cases challenges owner now bytes with ⟨_, same⟩ | ⟨_, counter, _, same⟩
      · exact .inl (congrArg (·.2.issued) same)
      · rw [same]
        split
        · rcases @record_cases { challenges with counters :=
            (challenges.runningCounters now).insert owner counter } owner (randomChallengeId bytes)
              now with same | same
          · rw [same]
            exact .inr (.inl rfl)
          · rw [same]
            exact .inr (.inr (.inl ⟨_, rfl, rfl⟩))
        · exact .inl rfl
  | consume owner pairingId =>
      rcases @take_cases challenges owner pairingId now with
        ⟨challenge, stored, mine, _, same⟩ | ⟨_, same⟩
      · exact .inr (.inr (.inr ⟨pairingId, challenge, stored, mine, congrArg (·.2.issued) same⟩))
      · exact .inr (.inl (congrArg (·.2.issued) same))

/-- An attempt succeeds when nothing refuses it. -/
theorem isOk_issueAt : (challenges.issueAt owner now bytes).1.isOk = true ↔
    challenges.limited owner now = false ∧
      ((challenges.tracked owner).attempt maxIssuesPerWindow issueWindow now).1 = true ∧
        (challenges.prune now).outstanding owner < maxOutstandingPerOwner := by
  rcases @issueAt_cases challenges owner now bytes with ⟨refused, same⟩ | ⟨opened, counter, _, same⟩
  · rw [same, refused]
    simp [Except.isOk, Except.toBool]
  · rw [same, opened]
    cases ((challenges.tracked owner).attempt maxIssuesPerWindow issueWindow now).1 with
    | false => simp [Except.isOk, Except.toBool]
    | true =>
        rw [if_pos rfl, isOk_record]
        exact ⟨fun room => ⟨rfl, rfl, room⟩, fun ⟨_, _, room⟩ => room⟩

/-- The challenges an owner has at `now`. -/
theorem outstanding_prune : (challenges.prune now).outstanding owner =
    challenges.issued.count fun _ challenge =>
      challenge.owner == owner && decide (now < challenge.expiresAt) :=
  Table.count_retain (fun _ (challenge : Challenge) => challenge.owner == owner)
    (fun _ challenge => decide (now < challenge.expiresAt)) challenges.issued

/-- Another owner's call adds none to the challenges of an owner. -/
theorem outstanding_serve_le (foreign : timed.call.owner ≠ owner) :
    ((challenges.serve timed).2.prune now).outstanding owner ≤
      (challenges.prune now).outstanding owner := by
  have pruned := Table.count_retain_le (fun _ (challenge : Challenge) => challenge.owner == owner &&
    decide (now < challenge.expiresAt)) (fun _ challenge => decide (timed.now < challenge.expiresAt))
      challenges.issued
  rw [outstanding_prune, outstanding_prune]
  rcases @issued_serve challenges timed with
    same | same | ⟨pairingId, _, same⟩ | ⟨pairingId, _, _, _, same⟩
  · exact Nat.le_of_eq (congrArg (Table.count _) same)
  · rw [same]
    exact pruned
  · rw [same]
    refine (Table.count_insert_le _ _ _ _).trans ?_
    rw [if_neg (by simp [foreign])]
    exact pruned
  · rw [same]
    exact (Table.count_erase_le _ _ _).trans pruned

/-- **One call of another owner** makes an attempt fail for the number of owners only. -/
theorem isOk_issueAt_serve (foreign : timed.call.owner ≠ owner) (after : timed.now ≤ now)
    (succeeds : (challenges.issueAt owner now bytes).1.isOk = true) :
    (challenges.serve timed).2.limited owner now = true ∨
      ((challenges.serve timed).2.issueAt owner now bytes).1.isOk = true := by
  obtain ⟨_, admitted, room⟩ := isOk_issueAt.mp succeeds
  cases limit : (challenges.serve timed).2.limited owner now with
  | true => exact .inl rfl
  | false =>
      have uncounted : (challenges.serve timed).1.counted owner = false :=
        Bool.eq_false_iff.mpr fun counted =>
          foreign (congrArg PairingCall.owner (counted_iff.mp counted).1)
      have kept := tracked_of_not_counted uncounted
      refine .inr (isOk_issueAt.mpr ⟨limit, ?_, (outstanding_serve_le foreign).trans_lt room⟩)
      rwa [WindowCounter.attempt_eq_of_forget kept after]

/-! ### An owner alone -/

/-- The table has this challenge of the owner, which has not expired. -/
def Owns (issued : Table String Challenge) (owner : String) (clock : Instant) (pairingId : String)
    (challenge : Challenge) : Prop :=
  issued.lookup pairingId = some challenge ∧ challenge.owner = owner ∧ clock < challenge.expiresAt

section Owns

variable {issued : Table String Challenge} {given : String} {challenge value : Challenge}

theorem owns_prune : Owns (challenges.prune now).issued owner now given challenge ↔
    Owns challenges.issued owner now given challenge := by
  rw [Owns, lookup_prune, Owns]
  exact ⟨fun ⟨⟨stored, live⟩, mine, _⟩ => ⟨stored, mine, live⟩,
    fun ⟨stored, mine, live⟩ => ⟨⟨stored, live⟩, mine, live⟩⟩

theorem owns_insert : Owns (issued.insert pairingId value) owner now given challenge ↔
    (given = pairingId ∧ challenge = value ∧ value.owner = owner ∧ now < value.expiresAt) ∨
      (given ≠ pairingId ∧ Owns issued owner now given challenge) := by
  by_cases same : given = pairingId
  · subst same
    rw [Owns, AList.lookup_insert, Option.some.injEq]
    constructor
    · rintro ⟨rfl, mine, live⟩
      exact .inl ⟨rfl, rfl, mine, live⟩
    · rintro (⟨_, rfl, mine, live⟩ | ⟨differs, _⟩)
      · exact ⟨rfl, mine, live⟩
      · exact absurd rfl differs
  · rw [Owns, AList.lookup_insert_ne same, ← Owns]
    simp [same]

theorem owns_erase : Owns (issued.erase pairingId) owner now given challenge ↔
    given ≠ pairingId ∧ Owns issued owner now given challenge := by
  by_cases same : given = pairingId
  · subst same
    simp [Owns]
  · rw [Owns, AList.lookup_erase_ne same, ← Owns]
    simp [same]

end Owns

/-- **Two states that are alike for an owner**, at `clock` and later. -/
structure Alike (owner : String) (clock : Instant) (first second : PairingChallenges) : Prop where
  counter : (first.tracked owner).forget issueWindow clock =
    (second.tracked owner).forget issueWindow clock
  owns : ∀ pairingId challenge, Owns first.issued owner clock pairingId challenge ↔
    Owns second.issued owner clock pairingId challenge
  ttl : first.ttl = second.ttl

variable {full alone : PairingChallenges}

theorem Alike.later (alike : Alike owner clock full alone) (after : clock ≤ now) :
    Alike owner now full alone where
  counter := WindowCounter.forget_eq_of_forget alike.counter after
  owns pairingId challenge := by
    have narrow (issued : Table String Challenge) : Owns issued owner now pairingId challenge ↔
        Owns issued owner clock pairingId challenge ∧ now < challenge.expiresAt :=
      ⟨fun ⟨stored, mine, live⟩ => ⟨⟨stored, mine, after.trans_lt live⟩, live⟩,
        fun ⟨⟨stored, mine, _⟩, live⟩ => ⟨stored, mine, live⟩⟩
    rw [narrow, narrow, alike.owns]
  ttl := alike.ttl

/-- They have as many challenges of the owner. -/
theorem Alike.outstanding (alike : Alike owner now full alone) :
    (full.prune now).outstanding owner = (alone.prune now).outstanding owner := by
  rw [outstanding_eq_count, outstanding_eq_count]
  refine Table.count_congr fun (pairingId : String) (challenge : Challenge) mine => ?_
  have mine := beq_iff_eq.mp mine
  rw [lookup_prune, lookup_prune]
  constructor
  · exact fun ⟨stored, live⟩ =>
      ⟨((alike.owns pairingId challenge).mp ⟨stored, mine, live⟩).1, live⟩
  · exact fun ⟨stored, live⟩ =>
      ⟨((alike.owns pairingId challenge).mpr ⟨stored, mine, live⟩).1, live⟩

theorem Alike.prune (alike : Alike owner now full alone) :
    Alike owner now (full.prune now) (alone.prune now) where
  counter := alike.counter
  owns _ _ := by rw [owns_prune, owns_prune, alike.owns]
  ttl := alike.ttl

/-- A call that was refused for the number of owners leaves the challenges. -/
theorem issued_of_limited (refused : (challenges.serve timed).1.limited = true) :
    (challenges.serve timed).2.issued = challenges.issued := by
  obtain ⟨call, now, bytes⟩ := timed
  cases call with
  | consume given pairingId => cases refused
  | issue given =>
      rcases @issueAt_cases challenges given now bytes with ⟨_, same⟩ | ⟨opened, _⟩
      · exact congrArg (·.2.issued) same
      · cases opened.symm.trans refused

/-- A call of another owner leaves the challenges of an owner, if the identifier it issues is new. -/
theorem owns_serve {given : String} {challenge : Challenge} (foreign : timed.call.owner ≠ owner)
    (fresh : ∀ pairingId, (challenges.serve timed).1.pairingId = some pairingId →
      challenges.issued.lookup pairingId = none) :
    Owns (challenges.serve timed).2.issued owner timed.now given challenge ↔
      Owns challenges.issued owner timed.now given challenge := by
  rcases @issued_serve challenges timed with
    same | same | ⟨pairingId, issued, same⟩ | ⟨pairingId, taken, stored, theirs, same⟩
  · rw [same]
  · rw [same, owns_prune]
  · rw [same, owns_insert, owns_prune]
    constructor
    · rintro (⟨_, _, mine, _⟩ | ⟨_, owns⟩)
      · exact absurd mine foreign
      · exact owns
    · refine fun owns => .inr ⟨?_, owns⟩
      rintro rfl
      cases (fresh given issued).symm.trans owns.1
  · rw [same, owns_erase, owns_prune]
    refine and_iff_right_of_imp fun owns => ?_
    rintro rfl
    obtain rfl : taken = challenge := Option.some.inj (stored.symm.trans owns.1)
    exact foreign (theirs.symm.trans owns.2.1)

/-- A call of another owner, or one that was refused for the number of owners, changes nothing for
an owner. -/
theorem Alike.foreign (alike : Alike owner clock full alone) (after : clock ≤ timed.now)
    (foreign : (full.serve timed).1.own owner = false)
    (fresh : ∀ pairingId, (full.serve timed).1.pairingId = some pairingId →
      full.issued.lookup pairingId = none) :
    Alike owner timed.now (full.serve timed).2 alone := by
  have alike := alike.later after
  rw [Served.own, timed_serve, Bool.and_eq_false_iff, Bool.not_eq_false'] at foreign
  have uncounted : (full.serve timed).1.counted owner = false := by
    refine Bool.eq_false_iff.mpr fun counted => ?_
    obtain ⟨called, opened⟩ := Bool.and_eq_true_iff.mp counted
    rcases foreign with theirs | refused
    · rw [timed_serve, beq_iff_eq] at called
      rw [called] at theirs
      exact absurd theirs (by simp [PairingCall.owner])
    · rw [refused] at opened
      cases opened
  refine ⟨(tracked_of_not_counted uncounted).trans alike.counter, fun pairingId challenge => ?_,
    ttl_serve.trans alike.ttl⟩
  rw [← alike.owns]
  rcases foreign with theirs | refused
  · exact owns_serve (by simpa using theirs) fresh
  · rw [issued_of_limited refused]

/-- A challenge is recorded in both or in none. -/
theorem Alike.record (alike : Alike owner now full alone) :
    (full.record owner now pairingId).1 = (alone.record owner now pairingId).1 ∧
      Alike owner now (full.record owner now pairingId).2 (alone.record owner now pairingId).2 := by
  have pruned := alike.prune
  rcases Nat.lt_or_ge ((full.prune now).outstanding owner) maxOutstandingPerOwner with room | filled
  · rw [record_of_room room, record_of_room (alike.outstanding ▸ room), alike.ttl]
    refine ⟨rfl, pruned.counter, fun given challenge => ?_, pruned.ttl⟩
    rw [owns_insert, owns_insert, pruned.owns]
  · rw [record_of_full filled, record_of_full (alike.outstanding ▸ filled)]
    exact ⟨rfl, pruned⟩

/-- A challenge is consumed in both or in none. -/
theorem Alike.take (alike : Alike owner now full alone) :
    (full.take owner pairingId now).1 = (alone.take owner pairingId now).1 ∧
      Alike owner now (full.take owner pairingId now).2 (alone.take owner pairingId now).2 := by
  have pruned := alike.prune
  have erased : Alike owner now
      { full.prune now with issued := (full.prune now).issued.erase pairingId }
      { alone.prune now with issued := (alone.prune now).issued.erase pairingId } := by
    refine ⟨pruned.counter, fun given challenge => ?_, pruned.ttl⟩
    rw [owns_erase, owns_erase, pruned.owns]
  rcases @take_cases full owner pairingId now with
      ⟨challenge, stored, mine, live, same⟩ | ⟨expired, same⟩ <;>
    rcases @take_cases alone owner pairingId now with
      ⟨challenge', stored', mine', live', same'⟩ | ⟨expired', same'⟩ <;> rw [same, same']
  · exact ⟨rfl, erased⟩
  · have owns := (alike.owns pairingId challenge).mp ⟨stored, mine, live⟩
    exact absurd live (Nat.not_lt.mpr (expired' challenge owns.1 mine))
  · have owns := (alike.owns pairingId challenge').mpr ⟨stored', mine', live'⟩
    exact absurd live' (Nat.not_lt.mpr (expired challenge' owns.1 mine'))
  · exact ⟨rfl, pruned⟩

/-- An attempt of the owner has the same outcome in both. -/
theorem Alike.issueAt (alike : Alike owner now full alone) (opened : full.limited owner now = false)
    (room : alone.limited owner now = false) :
    (full.issueAt owner now bytes).1 = (alone.issueAt owner now bytes).1 ∧
      Alike owner now (full.issueAt owner now bytes).2 (alone.issueAt owner now bytes).2 := by
  rcases @issueAt_cases full owner now bytes with ⟨refused, _⟩ | ⟨_, first, window, same⟩
  · cases refused.symm.trans opened
  rcases @issueAt_cases alone owner now bytes with ⟨refused, _⟩ | ⟨_, second, window', same'⟩
  · cases refused.symm.trans room
  rw [WindowCounter.attempt_eq_of_forget alike.counter le_rfl] at window same
  have counted : Alike owner now
      { full with counters := (full.runningCounters now).insert owner first }
      { alone with counters := (alone.runningCounters now).insert owner second } := by
    refine ⟨?_, alike.owns, alike.ttl⟩
    rw [tracked, counterOf_insert, tracked, counterOf_insert, window, window']
  rw [same, same']
  split
  · exact counted.record
  · exact ⟨rfl, counted⟩

/-- **A call of the owner** is answered alike. -/
theorem Alike.own (alike : Alike owner clock full alone) (after : clock ≤ timed.now)
    (mine : (full.serve timed).1.own owner = true) (room : alone.limited owner timed.now = false) :
    (full.serve timed).1.reply = (alone.serve timed).1.reply ∧
      Alike owner timed.now (full.serve timed).2 (alone.serve timed).2 := by
  have alike := alike.later after
  rw [Served.own, timed_serve, Bool.and_eq_true, beq_iff_eq, Bool.not_eq_true'] at mine
  obtain ⟨call, now, bytes⟩ := timed
  obtain ⟨rfl, opened⟩ := mine
  cases call with
  | consume owner pairingId =>
      obtain ⟨answer, kept⟩ := @Alike.take _ pairingId _ _ _ alike
      exact ⟨congrArg PairingReply.consumed answer, kept⟩
  | issue owner =>
      obtain ⟨answer, kept⟩ := @Alike.issueAt owner _ bytes _ _ alike opened room
      exact ⟨congrArg PairingReply.issued answer, kept⟩

/-- Only the owner is tracked. -/
def OnlyTracks (challenges : PairingChallenges) (owner : String) : Prop :=
  ∀ other ∈ challenges.counters, other = owner

theorem OnlyTracks.room (only : OnlyTracks alone owner) : alone.limited owner now = false := by
  have few : (alone.runningCounters now).size ≤ 1 :=
    (Table.size_retain_le _ _).trans (Table.size_le_one only)
  have below : ¬ maxTrackedOwners ≤ (alone.runningCounters now).size :=
    Nat.not_le.mpr (few.trans_lt (by decide))
  exact Bool.and_eq_false_iff.mpr (.inl (decide_eq_false below))

theorem OnlyTracks.serve (only : OnlyTracks alone owner) (mine : timed.call.owner = owner) :
    OnlyTracks (alone.serve timed).2 owner := by
  obtain ⟨call, now, bytes⟩ := timed
  intro other member
  cases call with
  | consume given pairingId =>
      change other ∈ (alone.take given pairingId now).2.counters at member
      rw [counters_take] at member
      exact only other member
  | issue given =>
      obtain rfl : given = owner := mine
      obtain ⟨counter, _, counters⟩ := @counters_issueAt alone given now bytes only.room
      change other ∈ (alone.issueAt given now bytes).2.counters at member
      rw [counters, AList.mem_insert] at member
      exact member.elim id fun kept => only other (Table.mem_of_mem_retain kept)

/-- An identifier that was not there is there only when it was issued. -/
theorem lookup_serve_none {given : String} (absent : challenges.issued.lookup given = none)
    (other : (challenges.serve timed).1.pairingId ≠ some given) :
    (challenges.serve timed).2.issued.lookup given = none := by
  have pruned : (challenges.prune timed.now).issued.lookup given = none := by
    rw [prune, Table.lookup_retain, absent]
    rfl
  rcases @issued_serve challenges timed with
    same | same | ⟨pairingId, issued, same⟩ | ⟨pairingId, _, _, _, same⟩
  · rwa [same]
  · rwa [same]
  · rw [issued, ne_eq, Option.some.injEq] at other
    rw [same, AList.lookup_insert_ne (Ne.symm other), pruned]
  · rw [same]
    by_cases erased : given = pairingId
    · rw [erased, AList.lookup_erase]
    · rw [AList.lookup_erase_ne erased, pruned]

/-- **The calls of an owner without those of the others** are answered as they are among them. -/
theorem Alike.served (alike : Alike owner clock full alone) (only : OnlyTracks alone owner)
    (fresh : ∀ pairingId ∈ (full.served calls).filterMap Served.pairingId,
      full.issued.lookup pairingId = none)
    (distinct : ((full.served calls).filterMap Served.pairingId).Nodup)
    (later : ∀ call ∈ calls, clock ≤ call.now)
    (ordered : calls.Pairwise fun first second => first.now ≤ second.now) :
    (alone.served (((full.served calls).filter (·.own owner)).map Served.timed)).map Served.reply =
      ((full.served calls).filter (·.own owner)).map Served.reply := by
  induction calls generalizing full alone clock with
  | nil => rfl
  | cons timed calls ih =>
      obtain ⟨next, ordered⟩ := List.pairwise_cons.mp ordered
      have after := later timed List.mem_cons_self
      rw [PairingChallenges.served] at fresh distinct ⊢
      have issuedNew : ∀ pairingId, (full.serve timed).1.pairingId = some pairingId →
          full.issued.lookup pairingId = none := fun pairingId issued =>
        fresh pairingId (by simp [issued])
      have rest : ∀ pairingId ∈ ((full.serve timed).2.served calls).filterMap Served.pairingId,
          (full.serve timed).2.issued.lookup pairingId = none := by
        intro pairingId member
        refine lookup_serve_none (fresh pairingId ?_) fun issued => ?_
        · rw [List.filterMap_cons]
          split
          · exact member
          · exact List.mem_cons_of_mem _ member
        · rw [List.filterMap_cons_some issued, List.nodup_cons] at distinct
          exact distinct.1 member
      have distinctRest : (((full.serve timed).2.served calls).filterMap Served.pairingId).Nodup := by
        rw [List.filterMap_cons] at distinct
        split at distinct
        · exact distinct
        · exact (List.nodup_cons.mp distinct).2
      cases mine : (full.serve timed).1.own owner with
      | false =>
          rw [List.filter_cons, if_neg (Bool.eq_false_iff.mp mine)]
          exact ih (alike.foreign after mine issuedNew) only rest distinctRest next ordered
      | true =>
          have called : timed.call.owner = owner := by
            rw [Served.own, timed_serve, Bool.and_eq_true, beq_iff_eq] at mine
            exact mine.1
          obtain ⟨answer, kept⟩ := alike.own after mine only.room
          rw [List.filter_cons, if_pos mine, List.map_cons, timed_serve, PairingChallenges.served,
            List.map_cons, List.map_cons, answer,
            ih kept (only.serve called) rest distinctRest next ordered]

end PairingChallenges

/-! ### The limits -/

/-- **The limits of the pairing challenges**, after any calls. An owner has two challenges at any
moment, and gets nine in any interval as long as a window. Few owners are tracked, and to drop a
counter admits no attempt that the counter would not. One call of another owner makes no attempt
fail, and all of them change no reply, but for the number of owners; that one owner's calls stay its
own takes identifiers that do not repeat. -/
structure PairingBounds (ttl : Duration) (calls : List TimedCall) : Prop where
  outstanding : ∀ owner moment,
    (((PairingChallenges.new ttl).after calls).prune moment).outstanding owner ≤ 2
  issues : ∀ owner first, (((PairingChallenges.new ttl).served calls).countP fun served =>
    served.issuedTo owner &&
      (first ≤ served.timed.now && served.timed.now < first + issueWindow)) ≤ 9
  owners : ((PairingChallenges.new ttl).after calls).counters.size ≤ maxTrackedOwners
  unpruned : ∀ owner,
    let attempts := ((PairingChallenges.new ttl).served calls).filter (·.counted owner)
    attempts.map Served.admitted = WindowCounter.fresh.admits maxIssuesPerWindow issueWindow
      (attempts.map (·.timed.now))
  harmless : ∀ timed owner now bytes, timed.call.owner ≠ owner → timed.now ≤ now →
    let before := (PairingChallenges.new ttl).after calls
    (before.issueAt owner now bytes).1.isOk = true →
      (before.serve timed).2.limited owner now = true ∨
        ((before.serve timed).2.issueAt owner now bytes).1.isOk = true
  independent : (((PairingChallenges.new ttl).served calls).filterMap Served.pairingId).Nodup →
    ∀ owner, let own := ((PairingChallenges.new ttl).served calls).filter (·.own owner)
    ((PairingChallenges.new ttl).served (own.map Served.timed)).map Served.reply =
      own.map Served.reply

/-- **Pairing attempts are bounded per owner.** -/
theorem pairing_bounds (ttl : Duration) {calls : List TimedCall}
    (ordered : calls.Pairwise fun first second => first.now ≤ second.now) :
    PairingBounds ttl calls := by
  have within : (PairingChallenges.new ttl).Within :=
    ⟨fun _ => Nat.zero_le _, Nat.zero_le _⟩
  have final := within.after calls
  have start : ∀ call ∈ calls, 0 ≤ call.now := fun _ _ => Nat.zero_le _
  refine ⟨fun owner moment => (final.prune moment).outstanding owner, fun owner first => ?_,
    final.owners, fun owner => PairingChallenges.admits_served rfl start ordered,
    fun timed owner now bytes foreign after succeeds =>
      PairingChallenges.isOk_issueAt_serve foreign after succeeds,
    fun distinct owner => ?_⟩
  · have inOrder : (((PairingChallenges.new ttl).served calls).filter (·.counted owner)).Pairwise
        fun first second => first.timed.now ≤ second.timed.now := by
      rw [← @PairingChallenges.map_timed_served (.new ttl) calls, List.pairwise_map] at ordered
      exact ordered.filter _
    have below := WindowCounter.admittedIn_lt (by decide : 0 < maxIssuesPerWindow)
      WindowCounter.started_fresh (List.pairwise_map.mpr inOrder) (le_refl (first + issueWindow))
    exact (PairingChallenges.countP_issuedTo_le rfl start ordered first _).trans
      (Nat.le_of_lt_succ below)
  · refine PairingChallenges.Alike.served ⟨rfl, fun _ _ => Iff.rfl, rfl⟩ ?_ ?_ distinct start ordered
    · exact fun other member => absurd member (AList.notMem_empty _)
    · exact fun pairingId _ => rfl

/-- Two owners, one of which consumes its first challenge. -/
private def fewCalls : List TimedCall :=
  [⟨.issue "attic", 0, .replicate 16 0⟩, ⟨.issue "barn", 5, .replicate 16 1⟩,
    ⟨.consume "attic" (randomChallengeId (.replicate 16 0)), 9, .replicate 16 0⟩,
    ⟨.issue "attic", 9, .replicate 16 2⟩]

theorem pairing_bounds_few : PairingBounds challengeTtl fewCalls :=
  pairing_bounds challengeTtl (by unfold fewCalls; decide)

end Omdesky.Agent
