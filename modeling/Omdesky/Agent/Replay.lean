/-
**The replay guard (`omdesky-agent/src/replay.rs`).**

`ReplayGuard.admitRequest` accepts a request whose issue time is within the skew of the wall clock, unless
its identifier was recorded less than a window ago.

* `Delivery`, `guardAfter`, `reply`: a run of deliveries on one guard, the wall and the monotonic
  clock advancing together.
* `admit_ok_iff`: a delivery is admitted exactly when it is fresh, there is room, and none of its
  identifier was recorded within the window before it.
* `single_use_of_remembered`: a run admits no request twice if every repeated delivery finds its
  identifier remembered; `remembered_of_single_use` is the converse for runs in which an identifier
  keeps one issue time. `remembered_of_past`: requests issued before they arrive are safe.
* `admitted_twice`: a request issued a minute ahead, admitted twice.
-/

import Omdesky.Collections.Table
import Omdesky.Protocol

namespace Omdesky.Agent

open Collections

/-! ### The guard -/

/-- `REQUEST_WINDOW`. -/
def requestWindow : Duration := .fromSecs 120

/-- `MAX_CLOCK_SKEW`. -/
def maxClockSkew : Duration := .fromSecs 120

/-- `MAX_TRACKED_REQUESTS`. -/
def maxTrackedRequests : Nat := 4096

/-- `FreshnessError`. -/
inductive FreshnessError
  | stale
  | replayed
  | saturated
  deriving DecidableEq, Repr

/-- `FreshnessError::code`. -/
def FreshnessError.code : FreshnessError → ErrorCode
  | .stale => .requestStale
  | .replayed => .requestReplayed
  | .saturated => .rateLimited

/-- `FreshnessError::message`. -/
def FreshnessError.message : FreshnessError → String
  | .stale => "This request is too old to apply."
  | .replayed => "This request was already applied."
  | .saturated => "Too many requests are in flight. Please try again."

/-- `ReplayGuard`. -/
structure ReplayGuard where
  seen : Table Uuid Instant
  window : Duration
  skew : Duration
  capacity : Nat

namespace ReplayGuard

/-- `ReplayGuard::new`. -/
def new (window skew : Duration) (capacity : Nat) : ReplayGuard :=
  { seen := ∅, window, skew, capacity }

/-- `ReplayGuard::default`. -/
def default : ReplayGuard := new requestWindow maxClockSkew maxTrackedRequests

/-- The identifiers recorded less than a window before `now`. -/
def pruned (guard : ReplayGuard) (now : Instant) : Table Uuid Instant :=
  guard.seen.retain fun _ recorded => now - recorded < guard.window

/-- `ReplayGuard::admit`, with the wall clock and the monotonic clock it reads. -/
def admitRequest (guard : ReplayGuard) (requestId : Uuid) (issuedAt nowUtc : Int) (now : Instant) :
    Except FreshnessError Unit × ReplayGuard :=
  let age := nowUtc - issuedAt
  if guard.skew < age.natAbs then
    (.error .stale, guard)
  else
    let seen := guard.pruned now
    if guard.capacity ≤ seen.size then
      (.error .saturated, { guard with seen })
    else
      let known := seen.lookup requestId
      let guard := { guard with seen := seen.insert requestId now }
      if known.isSome then (.error .replayed, guard) else (.ok (), guard)

/-- The guard with another table. -/
def track (guard : ReplayGuard) (seen : Table Uuid Instant) : ReplayGuard := { guard with seen }

theorem admit_eq (guard : ReplayGuard) (requestId : Uuid) (issuedAt nowUtc : Int)
    (now : Instant) :
    guard.admitRequest requestId issuedAt nowUtc now =
      if (nowUtc - issuedAt).natAbs ≤ guard.skew then
        if (guard.pruned now).size < guard.capacity then
          (if ((guard.pruned now).lookup requestId).isSome then .error .replayed else .ok (),
            guard.track ((guard.pruned now).insert requestId now))
        else (.error .saturated, guard.track (guard.pruned now))
      else (.error .stale, guard) := by
  unfold admitRequest
  by_cases fresh : (nowUtc - issuedAt).natAbs ≤ guard.skew
  · rw [if_neg (Nat.not_lt.mpr fresh), if_pos fresh]
    by_cases room : (guard.pruned now).size < guard.capacity
    · rw [if_neg (Nat.not_le.mpr room), if_pos room]
      dsimp only
      split <;> rfl
    · rw [if_pos (Nat.not_lt.mp room), if_neg room]
      rfl
  · rw [if_pos (Nat.lt_of_not_le fresh), if_neg fresh]

end ReplayGuard

/-! ### Runs -/

/-- One call of `admitRequest`, at a reading of the monotonic clock. -/
structure Delivery where
  requestId : Uuid
  issuedAt : Int
  time : Instant
  deriving DecidableEq, Repr

/-- The request a delivery carries. -/
def Delivery.request (delivery : Delivery) : Uuid × Int := (delivery.requestId, delivery.issuedAt)

variable (epoch : Int)

/-- The call on a guard, when the wall clock read `epoch` at the origin of the monotonic clock. -/
def Delivery.admitRequest (delivery : Delivery) (guard : ReplayGuard) :
    Except FreshnessError Unit × ReplayGuard :=
  guard.admitRequest delivery.requestId delivery.issuedAt (epoch + delivery.time) delivery.time

/-- The default guard after a run of deliveries, newest first. -/
def guardAfter : List Delivery → ReplayGuard
  | [] => .default
  | delivery :: past => (delivery.admitRequest epoch (guardAfter past)).2

/-- What a delivery is answered after a run. -/
def reply (past : List Delivery) (delivery : Delivery) : Except FreshnessError Unit :=
  (delivery.admitRequest epoch (guardAfter epoch past)).1

/-- The requests a run admits, newest first. -/
def admitted : List Delivery → List (Uuid × Int)
  | [] => []
  | delivery :: past =>
      if reply epoch past delivery = .ok () then delivery.request :: admitted past
      else admitted past

/-- No request is admitted twice. -/
def SingleUse (run : List Delivery) : Prop := (admitted epoch run).Nodup

/-- The deliveries come at non-decreasing times. -/
def Ordered (run : List Delivery) : Prop :=
  run.Pairwise fun later earlier => earlier.time ≤ later.time

/-! ### What is recorded -/

/-- The issue time is within the skew of the wall clock. -/
def Delivery.fresh (delivery : Delivery) : Bool :=
  (epoch + delivery.time - delivery.issuedAt).natAbs ≤ maxClockSkew

/-- The guard is below its capacity when the delivery comes. -/
def hasRoom (past : List Delivery) (delivery : Delivery) : Bool :=
  ((guardAfter epoch past).pruned delivery.time).size < maxTrackedRequests

/-- The deliveries of a run whose identifiers the guard records: the fresh ones that find room. -/
def recorded : List Delivery → List Delivery
  | [] => []
  | delivery :: past =>
      if delivery.fresh epoch && hasRoom epoch past delivery then delivery :: recorded past
      else recorded past

/-- The identifier was recorded within the window before the delivery. -/
def Recent (past : List Delivery) (delivery : Delivery) : Prop :=
  ∃ earlier ∈ recorded epoch past, earlier.requestId = delivery.requestId ∧
    delivery.time - earlier.time < requestWindow

variable {epoch}

theorem guardAfter_config (run : List Delivery) :
    (guardAfter epoch run).window = requestWindow ∧ (guardAfter epoch run).skew = maxClockSkew ∧
      (guardAfter epoch run).capacity = maxTrackedRequests := by
  induction run with
  | nil => exact ⟨rfl, rfl, rfl⟩
  | cons delivery past ih =>
      rw [guardAfter, Delivery.admitRequest, ReplayGuard.admit_eq]
      split
      · split <;> exact ih
      · exact ih

/-- The identifiers a delivery finds. -/
def found (epoch : Int) (past : List Delivery) (delivery : Delivery) : Table Uuid Instant :=
  (guardAfter epoch past).pruned delivery.time

/-- One delivery, by what it meets. -/
theorem admit_eq (past : List Delivery) (delivery : Delivery) :
    delivery.admitRequest epoch (guardAfter epoch past) =
      if delivery.fresh epoch then
        if hasRoom epoch past delivery then
          (if ((found epoch past delivery).lookup delivery.requestId).isSome then .error .replayed
            else .ok (),
            (guardAfter epoch past).track
              ((found epoch past delivery).insert delivery.requestId delivery.time))
        else (.error .saturated, (guardAfter epoch past).track (found epoch past delivery))
      else (.error .stale, guardAfter epoch past) := by
  obtain ⟨_, skew, capacity⟩ := @guardAfter_config epoch past
  unfold Delivery.admitRequest Delivery.fresh hasRoom found
  rw [ReplayGuard.admit_eq]
  by_cases fresh : (epoch + delivery.time - delivery.issuedAt).natAbs ≤ maxClockSkew
  · by_cases room : ((guardAfter epoch past).pruned delivery.time).size < maxTrackedRequests
    · simp only [skew, capacity, fresh, room, decide_true, if_true]
    · simp only [skew, capacity, fresh, room, decide_true, decide_false, if_true, if_false,
        Bool.false_eq_true]
  · simp only [skew, fresh, decide_false, if_false, Bool.false_eq_true]

theorem reply_eq_ok {past : List Delivery} {delivery : Delivery} :
    reply epoch past delivery = .ok () ↔ delivery.fresh epoch = true ∧
      hasRoom epoch past delivery = true ∧
        (found epoch past delivery).lookup delivery.requestId = none := by
  rw [reply, admit_eq]
  by_cases fresh : delivery.fresh epoch = true
  · by_cases room : hasRoom epoch past delivery = true
    · cases known : (found epoch past delivery).lookup delivery.requestId <;> simp [fresh, room]
    · simp [fresh, room]
  · simp [fresh]

theorem seen_cons (past : List Delivery) (delivery : Delivery) :
    (guardAfter epoch (delivery :: past)).seen =
      if delivery.fresh epoch then
        if hasRoom epoch past delivery then
          (found epoch past delivery).insert delivery.requestId delivery.time
        else found epoch past delivery
      else (guardAfter epoch past).seen := by
  rw [guardAfter, admit_eq]
  split
  · split <;> rfl
  · rfl

/-! ### The table and the recorded deliveries -/

theorem mem_of_recorded {run : List Delivery} {delivery : Delivery}
    (member : delivery ∈ recorded epoch run) : delivery ∈ run := by
  induction run with
  | nil => exact member
  | cons newest past ih =>
      unfold recorded at member
      split at member
      · obtain rfl | member := List.mem_cons.mp member
        · exact List.mem_cons_self
        · exact List.mem_cons_of_mem _ (ih member)
      · exact List.mem_cons_of_mem _ (ih member)

/-- Pruning at the time of a delivery drops nothing that is still young later. -/
theorem lookup_found_iff {past : List Delivery} {delivery : Delivery} {now : Instant}
    (here : delivery.time ≤ now) (requestId : Uuid) :
    (∃ time, (found epoch past delivery).lookup requestId = some time ∧
        now - time < requestWindow) ↔
      ∃ time, (guardAfter epoch past).seen.lookup requestId = some time ∧
        now - time < requestWindow := by
  refine exists_congr fun time => ?_
  rw [found, ReplayGuard.pruned, Table.lookup_retain_eq_some, (guardAfter_config past).1,
    decide_eq_true_eq]
  constructor
  · rintro ⟨⟨found, _⟩, young⟩
    exact ⟨found, young⟩
  · rintro ⟨found, young⟩
    exact ⟨⟨found, lt_of_le_of_lt (Nat.sub_le_sub_right here time) young⟩, young⟩

/-- **What the table remembers.** At any later time, an identifier has an entry younger than the
window exactly when a recorded delivery of it is. -/
theorem remembers_iff {run : List Delivery} (ordered : Ordered run) {now : Instant}
    (before : ∀ delivery ∈ run, delivery.time ≤ now) (requestId : Uuid) :
    (∃ time, (guardAfter epoch run).seen.lookup requestId = some time ∧
        now - time < requestWindow) ↔
      ∃ delivery ∈ recorded epoch run, delivery.requestId = requestId ∧
        now - delivery.time < requestWindow := by
  induction run with
  | nil => simp [guardAfter, ReplayGuard.default, ReplayGuard.new, recorded]
  | cons delivery past ih =>
      obtain ⟨newest, ordered⟩ := List.pairwise_cons.mp ordered
      obtain ⟨here, before⟩ := List.forall_mem_cons.mp before
      have earlier := ih ordered before
      have kept := @lookup_found_iff epoch past delivery now here requestId
      rw [seen_cons]
      unfold recorded
      by_cases fresh : delivery.fresh epoch = true
      · by_cases room : hasRoom epoch past delivery = true
        · simp only [fresh, room, if_true, Bool.and_self]
          by_cases same : requestId = delivery.requestId
          · subst same
            rw [AList.lookup_insert]
            constructor
            · rintro ⟨time, ⟨⟩, young⟩
              exact ⟨delivery, List.mem_cons_self, rfl, young⟩
            · rintro ⟨recent, member, _, young⟩
              refine ⟨delivery.time, rfl, lt_of_le_of_lt (Nat.sub_le_sub_left ?_ now) young⟩
              obtain rfl | member := List.mem_cons.mp member
              · exact le_refl _
              · exact newest recent (mem_of_recorded member)
          · rw [AList.lookup_insert_ne same, kept, earlier]
            constructor
            · rintro ⟨recent, member, rest⟩
              exact ⟨recent, List.mem_cons_of_mem _ member, rest⟩
            · rintro ⟨recent, member, rfl, young⟩
              obtain rfl | member := List.mem_cons.mp member
              · exact absurd rfl same
              · exact ⟨recent, member, rfl, young⟩
        · simp only [fresh, room, if_true, if_false, Bool.false_eq_true, Bool.and_false]
          exact kept.trans earlier
      · simp only [fresh, if_false, Bool.false_eq_true, Bool.false_and]
        exact earlier

/-- **Admission**: the delivery is fresh, finds room, and its identifier is not recent. -/
theorem reply_eq_ok_iff {past : List Delivery} {delivery : Delivery}
    (ordered : Ordered (delivery :: past)) :
    reply epoch past delivery = .ok () ↔ delivery.fresh epoch = true ∧
      hasRoom epoch past delivery = true ∧ ¬ Recent epoch past delivery := by
  obtain ⟨before, ordered⟩ := List.pairwise_cons.mp ordered
  rw [reply_eq_ok, Recent, ← remembers_iff ordered before]
  have forgotten : (found epoch past delivery).lookup delivery.requestId = none ↔
      ¬ ∃ time, (guardAfter epoch past).seen.lookup delivery.requestId = some time ∧
        delivery.time - time < requestWindow := by
    rw [Option.eq_none_iff_forall_ne_some, not_exists]
    refine forall_congr' fun time => not_congr ?_
    rw [found, ReplayGuard.pruned, Table.lookup_retain_eq_some, (guardAfter_config past).1,
      decide_eq_true_eq]
  rw [forgotten]

/-! ### When no request is admitted twice -/

/-- Every delivery that is recorded, and whose very request was recorded before, finds its
identifier recent. -/
def Remembered (epoch : Int) : List Delivery → Prop
  | [] => True
  | delivery :: past =>
      (delivery.fresh epoch = true → hasRoom epoch past delivery = true →
        (∃ earlier ∈ recorded epoch past, earlier.request = delivery.request) →
          Recent epoch past delivery) ∧ Remembered epoch past

/-- Every identifier keeps one issue time. -/
def OneIssueTime (run : List Delivery) : Prop :=
  ∀ first ∈ run, ∀ second ∈ run, first.requestId = second.requestId →
    first.issuedAt = second.issuedAt

theorem recorded_of_admitted {run : List Delivery} {request : Uuid × Int}
    (member : request ∈ admitted epoch run) :
    ∃ delivery ∈ recorded epoch run, delivery.request = request := by
  induction run with
  | nil => cases member
  | cons newest past ih =>
      unfold admitted at member
      unfold recorded
      by_cases ok : reply epoch past newest = .ok ()
      · obtain ⟨fresh, room, _⟩ := reply_eq_ok.mp ok
        rw [if_pos ok] at member
        simp only [fresh, room, Bool.and_self, if_true]
        obtain rfl | member := List.mem_cons.mp member
        · exact ⟨newest, List.mem_cons_self, rfl⟩
        · obtain ⟨delivery, found, same⟩ := ih member
          exact ⟨delivery, List.mem_cons_of_mem _ found, same⟩
      · rw [if_neg ok] at member
        obtain ⟨delivery, found, same⟩ := ih member
        refine ⟨delivery, ?_, same⟩
        split
        · exact List.mem_cons_of_mem _ found
        · exact found

theorem mem_admitted_cons {past : List Delivery} {newest : Delivery} {request : Uuid × Int}
    (member : request ∈ admitted epoch past) : request ∈ admitted epoch (newest :: past) := by
  unfold admitted
  split
  · exact List.mem_cons_of_mem _ member
  · exact member

/-- The first recorded delivery of an identifier is admitted. -/
theorem admitted_of_recorded {run : List Delivery} (ordered : Ordered run) {requestId : Uuid}
    (known : ∃ delivery ∈ recorded epoch run, delivery.requestId = requestId) :
    ∃ first ∈ run, first.requestId = requestId ∧ first.request ∈ admitted epoch run := by
  induction run with
  | nil =>
      obtain ⟨delivery, member, _⟩ := known
      cases member
  | cons newest past ih =>
      have tail : Ordered past := (List.pairwise_cons.mp ordered).2
      by_cases earlier : ∃ delivery ∈ recorded epoch past, delivery.requestId = requestId
      · obtain ⟨first, member, same, ok⟩ := ih tail earlier
        exact ⟨first, List.mem_cons_of_mem _ member, same, mem_admitted_cons ok⟩
      · -- nothing of the identifier was recorded before, so the newest delivery is the first
        obtain ⟨delivery, member, same⟩ := known
        unfold recorded at member
        split at member <;> rename_i meets
        · obtain rfl | member := List.mem_cons.mp member
          · rw [Bool.and_eq_true] at meets
            have unseen : ¬ Recent epoch past delivery := by
              rintro ⟨recent, found, own, _⟩
              exact earlier ⟨recent, found, own.trans same⟩
            have ok := (reply_eq_ok_iff ordered).mpr ⟨meets.1, meets.2, unseen⟩
            refine ⟨delivery, List.mem_cons_self, same, ?_⟩
            unfold admitted
            rw [if_pos ok]
            exact List.mem_cons_self
          · exact absurd ⟨delivery, member, same⟩ earlier
        · exact absurd ⟨delivery, member, same⟩ earlier

/-- **A run admits no request twice if every repeated delivery finds its identifier recent.** -/
theorem single_use_of_remembered {run : List Delivery} (ordered : Ordered run)
    (remembered : Remembered epoch run) : SingleUse epoch run := by
  induction run with
  | nil => exact List.nodup_nil
  | cons newest past ih =>
      obtain ⟨repeats, remembered⟩ := remembered
      have tail := ih (List.pairwise_cons.mp ordered).2 remembered
      unfold SingleUse admitted
      split <;> rename_i ok
      · refine List.nodup_cons.mpr ⟨fun member => ?_, tail⟩
        obtain ⟨fresh, room, forgotten⟩ := (reply_eq_ok_iff ordered).mp ok
        exact forgotten (repeats fresh room (recorded_of_admitted member))
      · exact tail

/-- The converse, when every identifier keeps one issue time. -/
theorem remembered_of_single_use {run : List Delivery} (ordered : Ordered run)
    (oneIssueTime : OneIssueTime run) (single : SingleUse epoch run) : Remembered epoch run := by
  induction run with
  | nil => trivial
  | cons newest past ih =>
      have tail : Ordered past := (List.pairwise_cons.mp ordered).2
      have issued : OneIssueTime past := fun first member second other =>
        oneIssueTime first (List.mem_cons_of_mem _ member) second (List.mem_cons_of_mem _ other)
      unfold SingleUse admitted at single
      refine ⟨fun fresh room known => ?_, ih tail issued ?_⟩
      · by_contra forgotten
        rw [if_pos ((reply_eq_ok_iff ordered).mpr ⟨fresh, room, forgotten⟩)] at single
        obtain ⟨earlier, member, same⟩ := known
        obtain ⟨first, inside, own, ok⟩ :=
          admitted_of_recorded tail ⟨earlier, member, congrArg Prod.fst same⟩
        have again : first.request = newest.request := Prod.ext own
          (oneIssueTime first (List.mem_cons_of_mem _ inside) newest List.mem_cons_self own)
        exact (List.nodup_cons.mp single).1 (again ▸ ok)
      · split at single
        · exact (List.nodup_cons.mp single).2
        · exact single

/-- **Single use.** No request is admitted twice in a run whose repeated deliveries find their
identifiers recent; and where identifiers keep one issue time, in no other run. -/
theorem single_use_iff {run : List Delivery} (ordered : Ordered run) :
    (Remembered epoch run → SingleUse epoch run) ∧
      (OneIssueTime run → (SingleUse epoch run ↔ Remembered epoch run)) :=
  ⟨single_use_of_remembered ordered, fun oneIssueTime =>
    ⟨remembered_of_single_use ordered oneIssueTime, single_use_of_remembered ordered⟩⟩

/-- A request that was issued before its first arrival is fresh for less than the skew after it. -/
theorem sub_lt_of_fresh {issued : Int} {earlier now skew : Nat} (positive : 0 < skew)
    (before : issued < epoch + earlier) (within : (epoch + now - issued).natAbs ≤ skew) :
    now - earlier < skew := by
  omega

/-- Requests that were issued before they arrive are remembered for as long as they are fresh. -/
theorem remembered_of_past {run : List Delivery}
    (past : ∀ delivery ∈ run, delivery.issuedAt < epoch + delivery.time) :
    Remembered epoch run := by
  induction run with
  | nil => trivial
  | cons newest rest ih =>
      refine ⟨fun fresh _ known => ?_, ih fun delivery member =>
        past delivery (List.mem_cons_of_mem _ member)⟩
      obtain ⟨earlier, member, same⟩ := known
      have own : earlier.requestId = newest.requestId := congrArg Prod.fst same
      have issued : earlier.issuedAt = newest.issuedAt := congrArg Prod.snd same
      have before := past earlier (List.mem_cons_of_mem _ (mem_of_recorded member))
      rw [issued] at before
      have young := sub_lt_of_fresh (by decide) before (of_decide_eq_true fresh)
      exact ⟨earlier, member, own, young⟩

/-- The law at two deliveries a minute apart. -/
theorem single_use_iff_prompt :
    let run : List Delivery := [⟨7, 5, 60000000000⟩, ⟨7, 5, 5⟩]
    SingleUse 0 run ↔ Remembered 0 run :=
  (single_use_iff (by unfold Ordered; decide)).2 (by unfold OneIssueTime; decide)

/-- **A request issued a minute ahead is admitted twice**, at once and when the window has passed:
it is still fresh when its identifier is forgotten. -/
theorem admitted_twice :
    let run : List Delivery := [⟨7, 60000000000, 120000000000⟩, ⟨7, 60000000000, 0⟩]
    Ordered run ∧ ¬ SingleUse 0 run := by
  refine ⟨by unfold Ordered; decide, ?_⟩
  unfold SingleUse
  decide

end Omdesky.Agent
