/-
**A challenge is consumed at most once, by its owner, before it expires.**

For any interleaving of `issue` and `consume` calls, dropped ones included, and any clock:

* `Accounted`: the invariant. The table holds challenges that were issued and not consumed, and all
  of those no clock reading has passed.
* `Answered`: what a finished call has done.
* `PairingLaw`, `pairing_law`: the law of every reachable pool of calls.
-/

import Omdesky.Agent.Pairing
import Omdesky.Interaction.Pool

namespace Omdesky.Agent

open Collections Interaction Interaction.Program

/-! ### The law -/

/-- A call in progress, or finished. -/
abbrev PairingTask := Task PairingCall PairingRequest PairingAnswer PairingReply

/-- The calls on one `PairingChallenges`. -/
abbrev PairingPool := Pool PairingCall PairingRequest PairingAnswer PairingReply PairingState

/-- A finished `issue` of `owner` that captured `now` and returned the identifier. -/
def Issues (task : PairingTask) (owner pairingId : String) (now : Instant) : Prop :=
  task.input = .issue owner ∧ task.program = .done (.issued (.ok pairingId)) ∧
    ⟨.instant, now⟩ ∈ task.trace

/-- A finished `consume` of `owner` that captured `now` and was accepted. -/
def Accepts (task : PairingTask) (owner pairingId : String) (now : Instant) : Prop :=
  task.input = .consume owner pairingId ∧ task.program = .done (.consumed (.ok ())) ∧
    ⟨.instant, now⟩ ∈ task.trace

/-- The identifier an accepted call consumed. -/
def acceptedId (task : PairingTask) : Option String :=
  match task.input, task.program with
  | .consume _ pairingId, .done (.consumed (.ok ())) => some pairingId
  | _, _ => none

/-- A challenge of this owner was issued under the use's identifier, and had not expired. -/
def Use.Justified (use : Use) (ttl : Duration) (state : PairingState) : Prop :=
  ∃ grant ∈ state.grants, grant.pairingId = use.pairingId ∧ grant.owner = use.owner ∧
    use.usedAt < grant.expiresAt ttl

/-- A grant that was not consumed, and that no clock reading has passed. -/
def PairingState.Live (state : PairingState) (ttl : Duration) (grant : Grant) : Prop :=
  grant ∈ state.grants ∧ grant.pairingId ∉ state.uses.map Use.pairingId ∧
    state.latest < grant.expiresAt ttl

/-- **The law of the pairing challenges.** -/
structure PairingLaw (ttl : Duration) (pool : PairingPool) : Prop where
  issued : ∀ task ∈ pool.tasks, ∀ owner pairingId now, Issues task owner pairingId now →
    { pairingId, owner, issuedAt := now } ∈ pool.shared.grants
  accepted : ∀ task ∈ pool.tasks, ∀ owner pairingId now, Accepts task owner pairingId now →
    { pairingId, owner, usedAt := now } ∈ pool.shared.uses
  justified : ∀ use ∈ pool.shared.uses, use.Justified ttl pool.shared
  usedOnce : (pool.shared.uses.map Use.pairingId).Nodup
  acceptedOnce : (pool.tasks.filterMap acceptedId).Nodup
  bound : ∀ giver ∈ pool.tasks, ∀ taker ∈ pool.tasks, ∀ owner other pairingId issuedAt now,
    Issues giver owner pairingId issuedAt → Accepts taker other pairingId now →
      other = owner ∧ now < issuedAt + ttl
  usable : ∀ grant, pool.shared.Live ttl grant → ∀ now ≤ pool.shared.latest,
    (pool.shared.challenges.take grant.owner grant.pairingId now).1 = .ok ()

/-! ### The invariant -/

/-- **The table against the logs.** -/
structure Accounted (ttl : Duration) (state : PairingState) : Prop where
  lifetime : state.challenges.ttl = ttl
  distinct : (state.grants.map Grant.pairingId).Nodup
  usedOnce : (state.uses.map Use.pairingId).Nodup
  justified : ∀ use ∈ state.uses, use.Justified ttl state
  stored : ∀ pairingId challenge, state.challenges.issued.lookup pairingId = some challenge →
    pairingId ∉ state.uses.map Use.pairingId ∧
      ∃ grant ∈ state.grants, grant.pairingId = pairingId ∧ grant.challenge ttl = challenge
  kept : ∀ grant, state.Live ttl grant →
    state.challenges.issued.lookup grant.pairingId = some (grant.challenge ttl)

/-- The clock readings and the logs only grow. -/
structure PairingState.Grows (first second : PairingState) : Prop where
  latest : first.latest ≤ second.latest
  grants : first.grants ⊆ second.grants
  uses : first.uses ⊆ second.uses

namespace PairingState.Grows

theorem refl (state : PairingState) : Grows state state :=
  ⟨le_refl _, List.Subset.refl _, List.Subset.refl _⟩

theorem trans (first second third : PairingState) (early : Grows first second)
    (late : Grows second third) : Grows first third :=
  ⟨le_trans early.latest late.latest, List.Subset.trans early.grants late.grants,
    List.Subset.trans early.uses late.uses⟩

end PairingState.Grows

theorem Use.Justified.grow {use : Use} {ttl : Duration} {first second : PairingState}
    (justified : use.Justified ttl first) (grants : first.grants ⊆ second.grants) :
    use.Justified ttl second := by
  obtain ⟨grant, member, rest⟩ := justified
  exact ⟨grant, grants member, rest⟩

namespace Accounted

variable {ttl : Duration} {state : PairingState} {now : Instant}

theorem new (ttl : Duration) (latest : Instant) : Accounted ttl (.new ttl latest) where
  lifetime := rfl
  distinct := List.nodup_nil
  usedOnce := List.nodup_nil
  justified := by rintro use ⟨⟩
  stored := by
    intro pairingId challenge found
    rw [PairingState.new, PairingChallenges.new, AList.lookup_empty] at found
    cases found
  kept := by rintro grant ⟨⟨⟩, _⟩

theorem tick (accounted : Accounted ttl state) (now : Instant) :
    Accounted ttl (state.tick now) where
  lifetime := accounted.lifetime
  distinct := accounted.distinct
  usedOnce := accounted.usedOnce
  justified := accounted.justified
  stored := accounted.stored
  kept := by
    rintro grant ⟨member, unused, live⟩
    exact accounted.kept grant ⟨member, unused, lt_of_le_of_lt (le_max_left _ _) live⟩

/-- The counters are nothing to the invariant. -/
theorem admitIssue (accounted : Accounted ttl state) (owner : String) (now : Instant) :
    Accounted ttl (state.become (state.challenges.admitIssue owner now).2) := by
  have ⟨issued, lifetime⟩ := @PairingChallenges.issued_admitIssue state.challenges owner now
  refine ⟨lifetime.trans accounted.lifetime, accounted.distinct, accounted.usedOnce,
    accounted.justified, ?_, ?_⟩
  · intro pairingId challenge found
    exact accounted.stored pairingId challenge ((congrArg _ issued).symm.trans found)
  · intro grant live
    exact (congrArg _ issued).trans (accounted.kept grant live)

/-- **Pruning** removes nothing a reading of the clock has not passed. -/
theorem prune (accounted : Accounted ttl state) (past : now ≤ state.latest) :
    Accounted ttl (state.become (state.challenges.prune now)) where
  lifetime := accounted.lifetime
  distinct := accounted.distinct
  usedOnce := accounted.usedOnce
  justified := accounted.justified
  stored := by
    intro pairingId challenge found
    exact accounted.stored pairingId challenge (PairingChallenges.lookup_prune.mp found).1
  kept := by
    rintro grant ⟨member, unused, live⟩
    have found := accounted.kept grant ⟨member, unused, live⟩
    exact PairingChallenges.lookup_prune.mpr ⟨found, lt_of_le_of_lt past live⟩

/-- What was consumed was issued. -/
theorem used_mem (accounted : Accounted ttl state) {pairingId : String}
    (used : pairingId ∈ state.uses.map Use.pairingId) :
    pairingId ∈ state.grants.map Grant.pairingId := by
  obtain ⟨use, member, rfl⟩ := List.mem_map.mp used
  obtain ⟨grant, granted, same, _⟩ := accounted.justified use member
  exact List.mem_map.mpr ⟨grant, granted, same⟩

/-- A new challenge under a new identifier. -/
theorem grant (accounted : Accounted ttl state) (grant : Grant)
    (fresh : grant.pairingId ∉ state.grants.map Grant.pairingId) :
    Accounted ttl ((state.become { state.challenges with
      issued := state.challenges.issued.insert grant.pairingId (grant.challenge ttl) }).granted
        grant) where
  lifetime := accounted.lifetime
  distinct := List.nodup_cons.mpr ⟨fresh, accounted.distinct⟩
  usedOnce := accounted.usedOnce
  justified := fun use member => (accounted.justified use member).grow (List.subset_cons_self _ _)
  stored := by
    intro pairingId challenge found
    by_cases same : pairingId = grant.pairingId
    · subst same
      have inserted : some (grant.challenge ttl) = some challenge :=
        (AList.lookup_insert _).symm.trans found
      exact ⟨fun used => fresh (accounted.used_mem used), grant, List.mem_cons_self, rfl,
        Option.some.inj inserted⟩
    · have old := (AList.lookup_insert_ne same).symm.trans found
      obtain ⟨unused, earlier, member, rest⟩ := accounted.stored pairingId challenge old
      exact ⟨unused, earlier, List.mem_cons_of_mem _ member, rest⟩
  kept := by
    rintro other ⟨member, unused, live⟩
    rcases List.mem_cons.mp member with rfl | member
    · exact AList.lookup_insert _
    · have different : other.pairingId ≠ grant.pairingId := fun same =>
        fresh (List.mem_map.mpr ⟨other, member, same⟩)
      exact (AList.lookup_insert_ne different).trans (accounted.kept other ⟨member, unused, live⟩)

/-- A stored challenge is consumed. -/
theorem spend (accounted : Accounted ttl state) (use : Use) {challenge : Challenge}
    (found : state.challenges.issued.lookup use.pairingId = some challenge)
    (owned : challenge.owner = use.owner) (live : use.usedAt < challenge.expiresAt) :
    Accounted ttl ((state.become { state.challenges with
      issued := state.challenges.issued.erase use.pairingId }).spent use) := by
  obtain ⟨unused, grant, member, same, rfl⟩ := accounted.stored _ _ found
  refine ⟨accounted.lifetime, accounted.distinct,
    List.nodup_cons.mpr ⟨unused, accounted.usedOnce⟩, ?_, ?_, ?_⟩
  · intro other used
    rcases List.mem_cons.mp used with rfl | used
    · exact ⟨grant, member, same, owned, live⟩
    · exact accounted.justified other used
  · intro pairingId challenge stored
    by_cases same : pairingId = use.pairingId
    · subst same
      have erased := (AList.lookup_erase _ _).symm.trans stored
      cases erased
    · have old := (AList.lookup_erase_ne same).symm.trans stored
      obtain ⟨before, rest⟩ := accounted.stored pairingId challenge old
      refine ⟨fun used => ?_, rest⟩
      rcases List.mem_cons.mp used with rfl | used
      · exact same rfl
      · exact before used
  · rintro other ⟨member, unspent, live⟩
    have different : other.pairingId ≠ use.pairingId := fun same =>
      unspent (List.mem_cons.mpr (.inl same))
    have before : other.pairingId ∉ state.uses.map Use.pairingId := fun used =>
      unspent (List.mem_cons_of_mem _ used)
    exact (AList.lookup_erase_ne different).trans (accounted.kept other ⟨member, before, live⟩)

/-- A live challenge is accepted, for its owner. -/
theorem usable (accounted : Accounted ttl state) {grant : Grant} (live : state.Live ttl grant)
    (past : now ≤ state.latest) :
    (state.challenges.take grant.owner grant.pairingId now).1 = .ok () := by
  have found := accounted.kept grant live
  rcases @PairingChallenges.take_cases state.challenges grant.owner grant.pairingId now with
    ⟨challenge, _, _, _, taken⟩ | ⟨refused, _⟩
  · rw [taken]
  · have expired := refused _ found rfl
    exact absurd (lt_of_le_of_lt past live.2.2) (Nat.not_lt_of_le expired)

end Accounted

/-! ### One request -/

section Requests

variable {ttl : Duration} {state after : PairingState} {owner pairingId : String} {now : Instant}

/-- Readings of the clock and of the counters. -/
theorem Accounted.read (accounted : Accounted ttl state) :
    Accounted ttl (state.tick now) ∧ state.Grows (state.tick now) :=
  ⟨accounted.tick now, le_max_left _ _, List.Subset.refl _, List.Subset.refl _⟩

/-- A challenge is recorded and returned, or nothing is. -/
theorem Accounted.recorded (accounted : Accounted ttl state) (past : now ≤ state.latest)
    {reply : Except PairingError String}
    (answered : pairingWorld (.record owner now) state reply after) :
    (Accounted ttl after ∧ state.Grows after) ∧ ∀ pairingId, reply = .ok pairingId →
      { pairingId, owner, issuedAt := now } ∈ after.grants := by
  obtain ⟨bytes, fresh, answered⟩ := answered
  rcases @PairingChallenges.record_cases state.challenges owner (randomChallengeId bytes) now with
    recorded | recorded
  · rw [recorded] at answered
    obtain ⟨rfl, rfl⟩ := answered
    exact ⟨⟨accounted.prune past, le_refl _, List.Subset.refl _, List.Subset.refl _⟩, nofun⟩
  · rw [recorded] at answered
    obtain ⟨rfl, rfl⟩ := answered
    have granted := (accounted.prune past).grant
      { pairingId := randomChallengeId bytes, owner, issuedAt := now } fresh
    refine ⟨⟨?_, le_refl _, List.subset_cons_self _ _, List.Subset.refl _⟩, ?_⟩
    · rw [accounted.lifetime]
      exact granted
    · rintro _ ⟨⟩
      exact List.mem_cons_self

/-- A challenge is consumed, or nothing is. -/
theorem Accounted.taken (accounted : Accounted ttl state) (past : now ≤ state.latest)
    {reply : Except PairingError Unit}
    (answered : pairingWorld (.take owner pairingId now) state reply after) :
    (Accounted ttl after ∧ state.Grows after) ∧
      (reply = .ok () → { pairingId, owner, usedAt := now } ∈ after.uses) := by
  dsimp only [pairingWorld] at answered
  rcases @PairingChallenges.take_cases state.challenges owner pairingId now with
    ⟨challenge, found, owned, live, taken⟩ | ⟨_, taken⟩
  · rw [taken] at answered
    obtain ⟨rfl, rfl⟩ := answered
    have stored := PairingChallenges.lookup_prune.mpr ⟨found, live⟩
    have spent := (accounted.prune past).spend { pairingId, owner, usedAt := now } stored owned live
    exact ⟨⟨spent, le_refl _, List.Subset.refl _, List.subset_cons_self _ _⟩,
      fun _ => List.mem_cons_self⟩
  · rw [taken] at answered
    obtain ⟨rfl, rfl⟩ := answered
    exact ⟨⟨accounted.prune past, le_refl _, List.Subset.refl _, List.Subset.refl _⟩, nofun⟩

end Requests

/-! ### One call -/

/-- What a finished call has done. -/
def Answered : PairingCall → List (Event PairingRequest PairingAnswer) → PairingReply →
    PairingState → Prop
  | .issue owner, trace, .issued (.ok pairingId), state => ∃ now,
      trace = [⟨.instant, now⟩, ⟨.admitIssue owner now, .ok ()⟩,
        ⟨.record owner now, .ok pairingId⟩] ∧
      { pairingId, owner, issuedAt := now } ∈ state.grants
  | .consume owner pairingId, trace, .consumed (.ok ()), state => ∃ now,
      trace = [⟨.instant, now⟩, ⟨.take owner pairingId now, .ok ()⟩] ∧
      { pairingId, owner, usedAt := now } ∈ state.uses
  | _, _, _, _ => True

theorem Answered.grow {call : PairingCall} {trace : List (Event PairingRequest PairingAnswer)}
    {reply : PairingReply} {first second : PairingState} (grows : first.Grows second)
    (answered : Answered call trace reply first) : Answered call trace reply second := by
  rcases call with owner | ⟨owner, pairingId⟩ <;>
    rcases reply with (error | pairingId) | (error | _) <;> try exact trivial
  · obtain ⟨now, whole, member⟩ := answered
    exact ⟨now, whole, grows.grants member⟩
  · obtain ⟨now, whole, member⟩ := answered
    exact ⟨now, whole, grows.uses member⟩

/-- `issue`: what the clock read first is no later than any reading after it. -/
theorem sound_issue (ttl : Duration) (owner : String) (state : PairingState) :
    Sound pairingWorld (Accounted ttl) PairingState.Grows (Answered (.issue owner)) []
      (PairingCall.issue owner).serve state := by
  simp only [PairingCall.serve, issue, await, perform_bind, ask_bind]
  rintro before now _ _ accounted rfl
  obtain ⟨kept, grows⟩ := accounted.read
  refine ⟨kept, grows, ?_⟩
  rintro middle reply _ grown accounted ⟨rfl, rfl⟩
  refine ⟨accounted.admitIssue owner now, ⟨le_refl _, List.Subset.refl _, List.Subset.refl _⟩, ?_⟩
  cases admitted : (middle.challenges.admitIssue owner now).1 with
  | error error => exact trivial
  | ok value =>
      rintro last reply after later accounted answered
      have past : now ≤ last.latest :=
        le_trans (le_max_right _ _) (le_trans grown.latest later.latest)
      obtain ⟨⟨kept, grows⟩, granted⟩ := accounted.recorded past answered
      refine ⟨kept, grows, ?_⟩
      cases reply with
      | error error => exact trivial
      | ok pairingId => exact ⟨now, rfl, granted pairingId rfl⟩

/-- `consume`. -/
theorem sound_consume (ttl : Duration) (owner pairingId : String) (state : PairingState) :
    Sound pairingWorld (Accounted ttl) PairingState.Grows (Answered (.consume owner pairingId)) []
      (PairingCall.consume owner pairingId).serve state := by
  simp only [PairingCall.serve, consume, await, perform_bind, ask_bind]
  rintro before now _ _ accounted rfl
  obtain ⟨kept, grows⟩ := accounted.read
  refine ⟨kept, grows, ?_⟩
  rintro middle reply after grown accounted answered
  have past : now ≤ middle.latest := le_trans (le_max_right _ _) grown.latest
  obtain ⟨⟨kept, grows⟩, used⟩ := accounted.taken past answered
  refine ⟨kept, grows, ?_⟩
  cases reply with
  | error error => exact trivial
  | ok value => exact ⟨now, rfl, used rfl⟩

/-- Nothing else touches the challenges. -/
def undisturbed (_ _ : PairingState) : Prop := False

/-- Every call is sound in any company. -/
theorem disciplined_pairing (ttl : Duration) :
    Disciplined PairingCall.serve pairingWorld undisturbed (Accounted ttl) PairingState.Grows
      Answered where
  refl := PairingState.Grows.refl
  trans := PairingState.Grows.trans
  stable := fun _ _ _ _ _ grows answered => answered.grow grows
  acts := by rintro first second _ ⟨⟩
  sound := by
    rintro (owner | ⟨owner, pairingId⟩) state
    · exact sound_issue ttl owner state
    · exact sound_consume ttl owner pairingId state

/-! ### Every reachable pool -/

/-- An accepted `take` of the identifier. -/
def takes (target : String) : Event PairingRequest PairingAnswer → Bool
  | ⟨.take _ pairingId _, .ok ()⟩ => pairingId == target
  | _ => false

/-- Every accepted `take` is logged. -/
theorem credit_takes (target : String) (request : PairingRequest) (state : PairingState)
    (answer : PairingAnswer request) (after : PairingState)
    (answered : pairingWorld request state answer after) :
    (state.uses.map Use.pairingId).count target + [⟨request, answer⟩].countP (takes target) ≤
      (after.uses.map Use.pairingId).count target := by
  rw [List.countP_singleton]
  cases request with
  | instant =>
      obtain rfl := answered
      exact le_refl _
  | admitIssue owner now =>
      obtain ⟨-, rfl⟩ := answered
      exact le_refl _
  | record owner now =>
      obtain ⟨bytes, _, answered⟩ := answered
      split at answered <;> obtain ⟨-, rfl⟩ := answered <;> exact le_refl _
  | take owner pairingId now =>
      dsimp only [pairingWorld] at answered
      split at answered
      · obtain ⟨rfl, rfl⟩ := answered
        show _ ≤ List.count target (pairingId :: _)
        rw [List.count_cons]
        exact le_refl _
      · obtain ⟨rfl, rfl⟩ := answered
        exact le_refl _

section Reachable

variable {ttl : Duration} {began : Instant} {pool : PairingPool}

/-- No identifier is consumed by two finished calls. -/
theorem acceptedOnce_of_reachable
    (reached : pool.Reachable PairingCall.serve pairingWorld undisturbed (.new ttl began)) :
    (pool.tasks.filterMap acceptedId).Nodup := by
  have disciplined := disciplined_pairing ttl
  obtain ⟨accounted, _⟩ := disciplined.reachable (Accounted.new ttl began) reached
  rw [List.nodup_iff_count_le_one]
  intro target
  -- an accepted call took the challenge in its own critical section
  have counted : ∀ task ∈ pool.tasks, (acceptedId task == some target) = true →
      0 < task.trace.countP (takes target) := by
    intro task member accepted
    obtain ⟨input, trace, program⟩ := task
    unfold acceptedId at accepted
    dsimp only at accepted
    split at accepted <;> rename_i owner pairingId
    · obtain rfl : pairingId = target := by simpa using accepted
      obtain ⟨now, rfl, _⟩ :=
        disciplined.finished (Accounted.new ttl began) reached member rfl
      simp [takes]
    · simp at accepted
  calc (pool.tasks.filterMap acceptedId).count target
      = pool.tasks.countP fun task => acceptedId task == some target := List.count_filterMap
    _ ≤ pool.tally (takes target) := Pool.countP_le_tally counted
    _ ≤ (pool.shared.uses.map Use.pairingId).count target :=
        Pool.tally_le (credit_takes target) (by rintro first second ⟨⟩) reached
    _ ≤ 1 := List.nodup_iff_count_le_one.mp accounted.usedOnce target

/-- **Pairing challenges are single-use, bound to their owner and expiring**, whatever calls run
together, are dropped or fail, and whatever the clock reads. -/
theorem pairing_law
    (reached : pool.Reachable PairingCall.serve pairingWorld undisturbed (.new ttl began)) :
    PairingLaw ttl pool := by
  have disciplined := disciplined_pairing ttl
  obtain ⟨accounted, _⟩ := disciplined.reachable (Accounted.new ttl began) reached
  have issued : ∀ task ∈ pool.tasks, ∀ owner pairingId now, Issues task owner pairingId now →
      { pairingId, owner, issuedAt := now } ∈ pool.shared.grants := by
    rintro ⟨input, trace, program⟩ member owner pairingId now ⟨rfl, rfl, read⟩
    obtain ⟨captured, rfl, granted⟩ :=
      disciplined.finished (Accounted.new ttl began) reached member rfl
    obtain rfl : now = captured := by simpa using read
    exact granted
  have accepted : ∀ task ∈ pool.tasks, ∀ owner pairingId now, Accepts task owner pairingId now →
      { pairingId, owner, usedAt := now } ∈ pool.shared.uses := by
    rintro ⟨input, trace, program⟩ member owner pairingId now ⟨rfl, rfl, read⟩
    obtain ⟨captured, rfl, used⟩ :=
      disciplined.finished (Accounted.new ttl began) reached member rfl
    obtain rfl : now = captured := by simpa using read
    exact used
  refine ⟨issued, accepted, accounted.justified, accounted.usedOnce,
    acceptedOnce_of_reachable reached, ?_, fun grant live now past => accounted.usable live past⟩
  intro giver gave taker took owner other pairingId issuedAt now issues accepts
  have granted := issued giver gave owner pairingId issuedAt issues
  obtain ⟨grant, member, same, owned, live⟩ :=
    accounted.justified _ (accepted taker took other pairingId now accepts)
  obtain rfl : grant = { pairingId, owner, issuedAt } :=
    List.inj_on_of_nodup_map accounted.distinct member granted same
  exact ⟨owned.symm, live⟩

end Reachable

/-- The law once a challenge was issued and consumed a minute later. -/
theorem pairing_law_paired :
    let pairingId := randomChallengeId (.replicate 16 7)
    ∃ pool : PairingPool,
      (∃ task ∈ pool.tasks, Issues task "desk" pairingId 0) ∧
      (∃ task ∈ pool.tasks, Accepts task "desk" pairingId (Duration.fromSecs 60)) ∧
      PairingLaw challengeTtl pool := by
  intro pairingId
  have ⟨middle, issued, final, consumed⟩ : ∃ middle,
      Runs pairingWorld (PairingCall.issue "desk").serve (.new challengeTtl 0)
        [⟨.instant, (0 : Nat)⟩, ⟨.admitIssue "desk" 0, .ok ()⟩, ⟨.record "desk" 0, .ok pairingId⟩]
        (.issued (.ok pairingId)) middle ∧ ∃ final,
      Runs pairingWorld (PairingCall.consume "desk" pairingId).serve middle
        [⟨.instant, Duration.fromSecs 60⟩, ⟨.take "desk" pairingId (Duration.fromSecs 60), .ok ()⟩]
        (.consumed (.ok ())) final :=
    ⟨_, ⟨(0 : Nat), _, _, rfl, rfl,
      .ok (), _, _, rfl, ⟨rfl, rfl⟩,
      .ok pairingId, _, _, rfl, ⟨.replicate 16 7, List.not_mem_nil, rfl, rfl⟩, rfl, rfl, rfl⟩,
    _, ⟨Duration.fromSecs 60, _, _, rfl, rfl,
      .ok (), _, _, rfl, ⟨rfl, rfl⟩, rfl, rfl, rfl⟩⟩
  exact ⟨_, ⟨_, List.mem_cons_of_mem _ List.mem_cons_self, rfl, rfl, List.mem_cons_self⟩,
    ⟨_, List.mem_cons_self, rfl, rfl, List.mem_cons_self⟩,
    pairing_law ((Pool.Reachable.call .refl issued).call consumed)⟩

end Omdesky.Agent
