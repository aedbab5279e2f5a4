/-
**The heartbeat of a session and its lease (`omdesky-application/src/services.rs`).**

A controller renews the lease of its session at a fixed interval. The coordinator that holds the
session is on another computer, and renewals get lost on the way.

* `renewalInterval`, `SessionHeartbeat.spawn`: the task, over its ticks and its renewals.
* `Beat`: one step of the task, of the coordinator or of time. No two renewals in a row are lost, and
  the others are read from the clock within a `delay` of their tick.
* `Ahead`: how far the deadline is away at each point of the task.
* `session_lasts`: the session never lapses, and the task goes on until its turns are used up.
-/

import Omdesky.Agent.Session.Fencing
import Mathlib.Logic.Relation
import Mathlib.Tactic.Ring

namespace Omdesky.Heartbeat

open Interaction Interaction.Program Agent

/-! ### The task -/

/-- `MIN_RENEWAL_INTERVAL`. -/
def minRenewalInterval : Duration := .fromSecs 2

/-- `renewal_interval`. -/
def renewalInterval (leaseSeconds : Nat) : Duration :=
  max (.fromSecs (max leaseSeconds 1 / 3)) minRenewalInterval

/-- What the task waits for: a tick of its ticker, or the answer to a renewal. -/
inductive HeartbeatRequest
  | tick
  | renewSession (claim : SessionClaim)

/-- The answer to each. -/
abbrev HeartbeatAnswer : HeartbeatRequest → Type
  | .tick => Unit
  | .renewSession _ => PortResult CommandResponse

/-- A program of the task. -/
abbrev HeartbeatM := Program HeartbeatRequest HeartbeatAnswer

/-- The loop of the task, for as many turns. A renewal that fails is only logged. -/
def beats (grant : SessionGrant) : Nat → HeartbeatM Unit
  | 0 => return
  | turns + 1 => do
      perform HeartbeatRequest.tick
      let _ ← perform (HeartbeatRequest.renewSession grant.claim)
      beats grant turns

/-- The task of `SessionHeartbeat::spawn`. The first tick is there at once. -/
def SessionHeartbeat.spawn (grant : SessionGrant) (turns : Nat) : HeartbeatM Unit := do
  perform HeartbeatRequest.tick
  beats grant turns

/-! ### The task and the coordinator -/

/-- The coordinator, what is left of the task, its last tick and its next one, whether the last renewal
was lost, and how many turns are over. -/
structure Beating where
  desk : Desk
  task : HeartbeatM Unit
  ticked : Instant
  due : Instant
  missed : Bool
  turned : Nat

/-- A heartbeat that is spawned now and whose first tick is due after `wait`. -/
def Beating.spawned (desk : Desk) (grant : SessionGrant) (wait : Duration) (turns : Nat) : Beating where
  desk := desk
  task := SessionHeartbeat.spawn grant turns
  ticked := desk.clock
  due := desk.clock + wait
  missed := false
  turned := 0

/-- The last moment before the task goes on: the tick it waits for is there, or the renewal it sent
has been read from the clock, within the `delay` and before the next tick. -/
def Beating.latest (state : Beating) (delay : Duration) : Instant :=
  match state.task with
  | .done _ => state.desk.clock
  | .ask .tick _ => state.due
  | .ask (.renewSession _) _ => min state.due (state.ticked + delay)

/-- A call that may come at any time: it is no owner's, or another one's. -/
def Foreign (owner : String) : Call → Prop
  | .snapshot | .expireDue => True
  | .attach other _ _ _ | .detach other _ | .renew other _ => other ≠ owner
  | .reconcile | .release => False

/-- **One step**, of time, of the coordinator, of the ticker, or of a renewal. -/
inductive Beat (lease : Duration) (owner : String) (interval delay : Duration) :
    Beating → Beating → Prop
  | passes {state now} (later : state.desk.clock ≤ now) (inTime : now ≤ state.latest delay) :
      Beat lease owner interval delay state { state with desk := state.desk.tick now }
  | calls {state call reply after} (foreign : Foreign owner call)
      (performs : Performs lease anyEffect state.desk call reply after)
      (inTime : after.clock ≤ state.latest delay) :
      Beat lease owner interval delay state { state with desk := after }
  | ticks {state next} (waits : state.task = .ask .tick next)
      (later : state.desk.clock ≤ state.due) :
      Beat lease owner interval delay state { state with
        desk := state.desk.tick state.due
        task := next ()
        ticked := state.due
        due := state.due + interval }
  | lost {state claim next} (sends : state.task = .ask (.renewSession claim) next)
      (first : state.missed = false) (error : PortError) :
      Beat lease owner interval delay state { state with
        task := next (.error error)
        missed := true
        turned := state.turned + 1 }
  | arrives {state claim next reply after} (sends : state.task = .ask (.renewSession claim) next)
      (performs : Performs lease anyEffect state.desk (.renew owner claim) reply after)
      (inTime : after.clock ≤ state.latest delay) (answer : PortResult CommandResponse) :
      Beat lease owner interval delay state { state with
        desk := after
        task := next answer
        missed := false
        turned := state.turned + 1 }

/-- **The session lives**: whenever the coordinator is asked for it, it is there, the renewal that is on its
way succeeds, and the task goes on until its turns are over. -/
structure Lives (lease : Duration) (owner : String) (delay : Duration) (grant : SessionGrant)
    (turns : Nat) (state : Beating) : Prop where
  shown : ∀ {reply after}, Performs lease anyEffect state.desk .snapshot reply after →
    after.clock ≤ state.latest delay → ∃ session, reply = .snapshot (some session) ∧
      session.owner = owner ∧ session.claim = grant.claim
  renewed : ∀ {claim next reply after}, state.task = .ask (.renewSession claim) next →
    Performs lease anyEffect state.desk (.renew owner claim) reply after →
      after.clock ≤ state.latest delay → reply = .renewed (.ok grant)
  goesOn : state.turned < turns → ∃ request next, state.task = .ask request next

/-! ### A tenure before its deadline -/

section Before

variable {lease : Duration} {possible : Effect → Prop} {held : Tenure} {desk after : Desk}
  {now : Instant} {call : Call} {reply : Reply}

/-- No call turns the clock back. -/
theorem clock_le (outcome : Outcome lease possible desk call reply after) :
    desk.clock ≤ after.clock := by
  cases outcome with
  | snapshotted later | refused later | granted later | rolledBack later | renewLate _ _ _ later
  | renewed _ _ _ later | expireEarly _ later | expireFailed _ later | expired _ later => exact later
  | _ => exact le_rfl

theorem live_of_tenure (holds : desk.state.tenure = some held) (before : now < held.deadline) :
    leaseElapsed desk.state now = false := by
  obtain ⟨_, _, _, _, expiresAt⟩ := tenure_eq_some.mp holds
  exact leaseElapsed_eq_false.mpr ⟨held.deadline, expiresAt, before⟩

/-- **No call of anybody else** touches the session before its deadline. -/
theorem tenure_of_foreign (holds : desk.state.tenure = some held)
    (foreign : Foreign held.owner call)
    (outcome : Outcome lease possible desk call reply after) (before : after.clock < held.deadline) :
    after.state.tenure = some held := by
  obtain ⟨session, active, own, current, expiresAt⟩ := tenure_eq_some.mp holds
  have mine {other : ActiveSession} (same : desk.state.active = some other) :
      other.owner = held.owner := by
    cases active.symm.trans same
    exact own
  cases outcome with
  | reconciled | released | releaseIdle => exact foreign.elim
  | granted _ free | rolledBack _ free =>
      exact (Bool.eq_false_iff.mp free
        (heldByOther_iff.mpr ⟨held, holds, Ne.symm foreign, before⟩)).elim
  | detached same theirs | renewed same theirs =>
      exact absurd (theirs.symm.trans (mine same)) foreign
  | expired same _ elapsed =>
      exact (Bool.eq_false_iff.mp (live_of_tenure holds before) elapsed).elim
  | _ => exact holds

/-- An attach that succeeds begins a tenure of a whole lease, and says how long that is. -/
theorem tenure_of_granted {owner : String} {role : SessionRole} {controller : Option AgentEndpoint}
    {window : WindowSelector} {grant : SessionGrant}
    (outcome : Outcome lease possible desk (.attach owner role controller window)
      (.attached (.ok grant)) after) :
    after.state.tenure = some ⟨owner, grant.claim, after.clock + lease⟩ ∧
      grant.leaseSeconds = lease.asSecs := by
  cases outcome with
  | granted => exact ⟨rfl, rfl⟩

/-- **A renewal before the deadline** succeeds, and moves it. -/
theorem renewed_of_tenure (holds : desk.state.tenure = some held)
    (outcome : Outcome lease possible desk (.renew held.owner held.claim) reply after)
    (before : after.clock < held.deadline) :
    after.state.tenure = some { held with deadline := after.clock + lease } ∧
      reply = .renewed (.ok { id := held.claim.id, generation := held.claim.generation,
                              leaseSeconds := lease.asSecs }) := by
  obtain ⟨session, active, own, current, expiresAt⟩ := tenure_eq_some.mp holds
  cases outcome with
  | renewIdle idle => cases active.symm.trans idle
  | renewForeign same foreign =>
      cases active.symm.trans same
      exact absurd own foreign
  | renewStale same _ stale =>
      cases active.symm.trans same
      exact absurd current stale
  | renewLate _ _ _ _ elapsed =>
      rw [Desk.tick_clock] at before
      rw [live_of_tenure holds before] at elapsed
      cases elapsed
  | renewed same =>
      cases active.symm.trans same
      refine ⟨tenure_eq_some.mpr ⟨session, active, own, current, rfl⟩, ?_⟩
      rw [← current]
      rfl

end Before

/-! ### The deadline stays ahead -/

/-- **How far ahead the deadline is**: at the start of the task, while it waits for a tick, and while a
renewal is on its way. The turns that are over and those that are left are all turns. -/
inductive Ahead (grant : SessionGrant) (interval delay : Duration) (deadline : Instant) (turns : Nat) :
    Beating → Prop
  | opens {state} (opens : state.task = SessionHeartbeat.spawn grant turns)
      (first : state.missed = false) (far : state.due + 2 * interval + delay < deadline)
      (counts : state.turned = 0) : Ahead grant interval delay deadline turns state
  | waits {state left} (waits : state.task = beats grant left)
      (far : state.due + (if state.missed then 0 else interval) + delay < deadline)
      (counts : state.turned + left = turns) : Ahead grant interval delay deadline turns state
  | sends {state left}
      (sends : state.task = .ask (.renewSession grant.claim) fun _ => beats grant left)
      (ticked : state.ticked ≤ state.desk.clock) (next : state.due = state.ticked + interval)
      (far : state.ticked + (if state.missed then 0 else interval) + delay < deadline)
      (counts : state.turned + 1 + left = turns) : Ahead grant interval delay deadline turns state

/-- Only a task whose renewal is on its way sends one. -/
theorem Ahead.sent {grant : SessionGrant} {interval delay : Duration} {deadline : Instant} {turns : Nat}
    {state : Beating} (ahead : Ahead grant interval delay deadline turns state) {claim : SessionClaim}
    {next} (sends : state.task = .ask (.renewSession claim) next) :
    ∃ left, claim = grant.claim ∧ (next = fun _ => beats grant left) ∧
      state.ticked ≤ state.desk.clock ∧ state.due = state.ticked + interval ∧
        state.ticked + (if state.missed then 0 else interval) + delay < deadline ∧
          state.turned + 1 + left = turns := by
  cases ahead with
  | opens opens => cases opens.symm.trans sends
  | @waits left waits => cases left <;> cases waits.symm.trans sends
  | @sends left asks ticked due far counts =>
      cases asks.symm.trans sends
      exact ⟨left, rfl, rfl, ticked, due, far, counts⟩

/-- A task that has turns left goes on. -/
theorem Ahead.goesOn {grant : SessionGrant} {interval delay : Duration} {deadline : Instant} {turns : Nat}
    {state : Beating} (ahead : Ahead grant interval delay deadline turns state)
    (unfinished : state.turned < turns) : ∃ request next, state.task = .ask request next := by
  cases ahead with
  | opens opens => exact ⟨_, _, opens⟩
  | @waits left waits _ counts =>
      cases left with
      | zero => omega
      | succ left => exact ⟨_, _, waits⟩
  | sends sends => exact ⟨_, _, sends⟩

/-- **The invariant**: the coordinator holds the session, and its deadline is ahead. -/
structure Lasts (owner : String) (grant : SessionGrant) (interval delay : Duration) (turns : Nat)
    (state : Beating) (deadline : Instant) : Prop where
  holds : state.desk.state.tenure = some ⟨owner, grant.claim, deadline⟩
  now : state.desk.clock < deadline
  ahead : Ahead grant interval delay deadline turns state

section Lasts

variable {lease : Duration} {owner : String} {grant : SessionGrant} {interval delay : Duration}
  {turns : Nat} {state next : Beating} {deadline : Instant}

theorem le_add_add (first second third : Nat) : first ≤ first + second + third := by
  omega

/-- The deadline comes after all that is waited for. -/
theorem Lasts.latest_lt (lasts : Lasts owner grant interval delay turns state deadline) :
    state.latest delay < deadline := by
  cases lasts.ahead with
  | opens opens first far =>
      have latest : state.latest delay = state.due := by rw [Beating.latest, opens]; rfl
      rw [latest]
      exact (le_add_add _ _ _).trans_lt far
  | @waits left waits far =>
      cases left with
      | zero =>
          have latest : state.latest delay = state.desk.clock := by rw [Beating.latest, waits]; rfl
          rw [latest]
          exact lasts.now
      | succ left =>
          have latest : state.latest delay = state.due := by rw [Beating.latest, waits]; rfl
          rw [latest]
          exact (le_add_add _ _ _).trans_lt far
  | sends sends ticked next far =>
      have latest : state.latest delay = min state.due (state.ticked + delay) := by
        rw [Beating.latest, sends]
      have within : state.ticked + delay ≤
          state.ticked + (if state.missed then 0 else interval) + delay :=
        Nat.add_le_add_right (Nat.le_add_right _ _) _
      rw [latest]
      exact (Nat.min_le_right _ _).trans_lt (within.trans_lt far)

/-- A step that leaves the task leaves the deadline as far ahead. -/
theorem Ahead.stay (ahead : Ahead grant interval delay deadline turns state) {desk : Desk}
    (later : state.desk.clock ≤ desk.clock) :
    Ahead grant interval delay deadline turns { state with desk } := by
  cases ahead with
  | opens opens first far counts => exact .opens opens first far counts
  | waits waits far counts => exact .waits waits far counts
  | sends sends ticked next far counts => exact .sends sends (ticked.trans later) next far counts

/-- **One step** keeps the session, and a renewal moves its deadline. -/
theorem lasts_step (often : 2 * interval + delay < lease)
    (lasts : Lasts owner grant interval delay turns state deadline)
    (beat : Beat lease owner interval delay state next) :
    ∃ deadline, Lasts owner grant interval delay turns next deadline := by
  cases beat with
  | passes later inTime =>
      exact ⟨deadline, lasts.holds, inTime.trans_lt lasts.latest_lt, lasts.ahead.stay later⟩
  | calls foreign performs inTime =>
      have outcome := performs_iff.mp performs
      have before := inTime.trans_lt lasts.latest_lt
      exact ⟨deadline, tenure_of_foreign lasts.holds foreign outcome before, before,
        lasts.ahead.stay (clock_le outcome)⟩
  | @ticks next waits later =>
      cases lasts.ahead with
      | opens opens first far counts =>
          cases opens.symm.trans waits
          refine ⟨deadline, lasts.holds, (le_add_add _ _ _).trans_lt far, .waits rfl ?_ (by simp [counts])⟩
          have same : state.due + interval + (if state.missed then 0 else interval) + delay =
              state.due + 2 * interval + delay := by
            rw [first, if_neg Bool.false_ne_true]
            ring
          exact same ▸ far
      | @waits left waits' far counts =>
          cases left with
          | zero => cases waits'.symm.trans waits
          | succ left =>
              cases waits'.symm.trans waits
              have same : state.turned + 1 + left = turns := by omega
              exact ⟨deadline, lasts.holds, (le_add_add _ _ _).trans_lt far, .sends rfl le_rfl rfl far same⟩
      | sends sends => cases sends.symm.trans waits
  | @lost claim next sends first error =>
      obtain ⟨left, rfl, rfl, _, due, far, counts⟩ := lasts.ahead.sent sends
      refine ⟨deadline, lasts.holds, lasts.now, .waits rfl ?_ counts⟩
      rw [first, if_neg Bool.false_ne_true] at far
      rw [if_pos rfl, due]
      exact far
  | @arrives claim next reply after sends performs inTime answer =>
      obtain ⟨left, rfl, rfl, ticked, due, _, counts⟩ := lasts.ahead.sent sends
      have outcome := performs_iff.mp performs
      have before := inTime.trans_lt lasts.latest_lt
      obtain ⟨holds, _⟩ := renewed_of_tenure lasts.holds outcome before
      refine ⟨after.clock + lease, holds, Nat.lt_add_of_pos_right ?_, .waits rfl ?_ counts⟩
      · exact (Nat.zero_le _).trans_lt often
      · calc state.due + interval + delay = state.ticked + (2 * interval + delay) := by
              rw [due]
              ring
          _ ≤ after.clock + (2 * interval + delay) :=
              Nat.add_le_add_right (ticked.trans (clock_le outcome)) _
          _ < after.clock + lease := Nat.add_lt_add_left often _

/-- A session that lasts lives. -/
theorem Lasts.lives (lasts : Lasts owner grant interval delay turns state deadline)
    (whole : grant.leaseSeconds = lease.asSecs) : Lives lease owner delay grant turns state where
  shown performs inTime := by
    obtain ⟨session, active, own, current, _⟩ := tenure_eq_some.mp lasts.holds
    have outcome := performs_iff.mp performs
    cases outcome with
    | snapshotted later =>
        have live := live_of_tenure lasts.holds (inTime.trans_lt lasts.latest_lt)
        rw [Desk.tick_clock] at live
        rw [live, active]
        exact ⟨session, rfl, own, current⟩
  renewed sends performs inTime := by
    obtain ⟨_, rfl, _⟩ := lasts.ahead.sent sends
    obtain ⟨_, granted⟩ := renewed_of_tenure lasts.holds (performs_iff.mp performs)
      (inTime.trans_lt lasts.latest_lt)
    rw [granted, ← whole]
    rfl
  goesOn := lasts.ahead.goesOn

end Lasts

/-! ### The whole run -/

/-- A step from any session that lasts, as often as one likes. -/
theorem lasts_steps {lease : Duration} {owner : String} {grant : SessionGrant}
    {interval delay : Duration} {turns : Nat} {state next : Beating} {deadline : Instant}
    (often : 2 * interval + delay < lease)
    (lasts : Lasts owner grant interval delay turns state deadline)
    (steps : Relation.ReflTransGen (Beat lease owner interval delay) state next) :
    ∃ deadline, Lasts owner grant interval delay turns next deadline := by
  induction steps with
  | refl => exact ⟨deadline, lasts⟩
  | tail _ beat ih =>
      obtain ⟨_, lasts⟩ := ih
      exact lasts_step often lasts beat

/-- The whole seconds of a lease are no more than the lease. -/
theorem fromSecs_asSecs_le (lease : Duration) : Duration.fromSecs lease.asSecs ≤ lease :=
  Nat.div_mul_le_self _ _

/-- **The heartbeat keeps its session alive**, if the lease outlasts the `wait` for the first tick and
two intervals, and the `delay` of the second renewal. Nothing else is asked of the later renewals:
without the wait they have more time. -/
theorem session_lasts {lease wait delay : Duration} {owner : String} {role : SessionRole}
    {controller : Option AgentEndpoint} {window : WindowSelector} {grant : SessionGrant}
    {before desk : Desk}
    (granted : Performs lease anyEffect before (.attach owner role controller window)
      (.attached (.ok grant)) desk)
    (often : wait + 2 * renewalInterval lease.asSecs + delay < .fromSecs lease.asSecs)
    {turns : Nat} {state : Beating}
    (steps : Relation.ReflTransGen (Beat lease owner (renewalInterval grant.leaseSeconds) delay)
      (.spawned desk grant wait turns) state) : Lives lease owner delay grant turns state := by
  obtain ⟨holds, whole⟩ := tenure_of_granted (performs_iff.mp granted)
  have enough := often.trans_le (fromSecs_asSecs_le lease)
  have start : Lasts owner grant (renewalInterval lease.asSecs) delay turns
      (.spawned desk grant wait turns) (desk.clock + lease) := by
    refine ⟨holds, Nat.lt_add_of_pos_right ((Nat.zero_le _).trans_lt enough), .opens rfl rfl ?_ rfl⟩
    calc desk.clock + wait + 2 * renewalInterval lease.asSecs + delay
        = desk.clock + (wait + 2 * renewalInterval lease.asSecs + delay) := by ring
      _ < desk.clock + lease := Nat.add_lt_add_left enough _
  have steady : 2 * renewalInterval lease.asSecs + delay < lease :=
    (Nat.add_le_add_right (Nat.le_add_left _ _) _).trans_lt enough
  rw [whole] at steps
  obtain ⟨_, lasts⟩ := lasts_steps steady start steps
  exact lasts.lives whole

/-- A heartbeat whose first renewal was lost and whose second one is on its way. -/
private theorem second_renewal (lease : Duration) (owner : String) (interval delay : Duration)
    (desk : Desk) (grant : SessionGrant) (wait : Duration) : ∃ state next,
      Relation.ReflTransGen (Beat lease owner interval delay) (.spawned desk grant wait 2) state ∧
        state.missed = true ∧ state.desk.clock = desk.clock + wait + interval + interval ∧
          state.task = .ask (.renewSession grant.claim) next := by
  have begins : Relation.ReflTransGen (Beat lease owner interval delay)
    (.spawned desk grant wait 2) _ := .refl
  have opens := begins.tail (.ticks rfl (Nat.le_add_right _ _))
  have sends := opens.tail (.ticks rfl (Nat.le_add_right _ _))
  have misses := sends.tail (.lost rfl rfl ⟨"TRANSPORT", "unreachable", true⟩)
  exact ⟨_, _, misses.tail (.ticks rfl (Nat.le_add_right _ _)), rfl, rfl, rfl⟩

theorem session_lasts_lost : ∃ desk grant state next,
    Performs defaultLease anyEffect .started (.attach "tower" .remote none .activeWindow)
      (.attached (.ok grant)) desk ∧
    Relation.ReflTransGen (Beat defaultLease "tower" (renewalInterval grant.leaseSeconds) (.fromSecs 2))
      (.spawned desk grant (.fromSecs 1) 2) state ∧
    state.task = .ask (.renewSession grant.claim) next ∧ state.missed = true ∧
    state.desk.clock = Duration.fromSecs 31 ∧
      Lives defaultLease "tower" (.fromSecs 2) grant 2 state := by
  have outcome := @Outcome.granted defaultLease anyEffect .started "tower" .remote none .activeWindow 0
    ⟨0⟩ (.ok ()) le_rfl rfl List.not_mem_nil trivial trivial
  obtain ⟨state, next, steps, missed, clock, task⟩ := second_renewal defaultLease "tower"
    (renewalInterval 45) (.fromSecs 2) _ _ (.fromSecs 1)
  refine ⟨_, _, state, next, outcome.performs, steps, task, missed, ?_,
    session_lasts outcome.performs (by decide) steps⟩
  exact clock.trans (by decide)

end Omdesky.Heartbeat
