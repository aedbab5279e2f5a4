/-
**The rate limit of a source.**

The limiter keeps a bucket for each source it tracks. It forgets full buckets when it runs out of
room and turns a new source away when it finds none, so that what a source gets must not depend on
what was forgotten.

* `Decision`, `decisions`: the calls of a run and what became of them.
* `take`, `takes`: the same limiter without the capacity and without pruning.
* `Follows`: a source's bucket has the level of a `TokenBucket` that nobody prunes. A source
  without a bucket has a full one, which is why a full bucket may be forgotten (`Follows.prune`).
* `limits_of_calls`: the window bound, the capacity, and the agreement with the limiter that never
  forgets.
-/

import Omdesky.Agent.Authorize
import Omdesky.Collections.TokenBucket

namespace Omdesky.Agent

open Collections

/-! ### Runs of the limiter -/

/-- A call of `RateLimiter::admit`. -/
structure Arrival where
  source : IpAddr
  now : Instant
  deriving DecidableEq, Repr

/-- A call and what became of it: refused for want of room, or decided by a bucket. -/
structure Decision where
  arrival : Arrival
  crowded : Bool
  admitted : Bool
  deriving DecidableEq, Repr

namespace RateLimiter

/-- The limiter after the pruning that `admit` begins with. -/
def pruned (limiter : RateLimiter) (arrival : Arrival) : RateLimiter :=
  if limiter.full arrival.source then limiter.prune arrival.now else limiter

/-- One call with its outcome. -/
def decide (limiter : RateLimiter) (arrival : Arrival) : Decision where
  arrival := arrival
  crowded := (limiter.pruned arrival).full arrival.source
  admitted := (limiter.admitSource arrival.source arrival.now).1

/-- The limiter after these calls, oldest first. -/
def after (limiter : RateLimiter) (arrivals : List Arrival) : RateLimiter :=
  arrivals.foldl (fun limiter arrival => (limiter.admitSource arrival.source arrival.now).2) limiter

/-- What becomes of these calls, oldest first. -/
def decisions : RateLimiter → List Arrival → List Decision
  | _, [] => []
  | limiter, arrival :: later =>
      limiter.decide arrival :: (limiter.admitSource arrival.source arrival.now).2.decisions later

/-- `RateLimiter::admit` without the capacity and without pruning. -/
def take (limiter : RateLimiter) (source : IpAddr) (now : Instant) : Bool × RateLimiter :=
  let bucket := (limiter.buckets.lookup source).getD { tokens := limiter.burst, updatedAt := now }
  let tokens := min (bucket.refilled limiter.perSecond now) limiter.burst
  if tokens < 1 then
    (false, { limiter with buckets := limiter.buckets.insert source ⟨tokens, now⟩ })
  else
    (true, { limiter with buckets := limiter.buckets.insert source ⟨tokens - 1, now⟩ })

/-- What the limiter without capacity and pruning answers one source. -/
def takes (source : IpAddr) : RateLimiter → List Instant → List Bool
  | _, [] => []
  | limiter, now :: later => (limiter.take source now).1 :: takes source (limiter.take source now).2 later

theorem admit_eq (limiter : RateLimiter) (arrival : Arrival) :
    limiter.admitSource arrival.source arrival.now =
      if (limiter.pruned arrival).full arrival.source then (false, limiter.pruned arrival)
      else (limiter.pruned arrival).take arrival.source arrival.now := rfl

/-! ### The capacity -/

theorem size_pruned_le (limiter : RateLimiter) (arrival : Arrival) :
    (limiter.pruned arrival).buckets.size ≤ limiter.buckets.size := by
  unfold pruned
  split
  · exact Table.size_retain_le _ _
  · exact Nat.le_refl _

theorem capacity_pruned (limiter : RateLimiter) (arrival : Arrival) :
    (limiter.pruned arrival).capacity = limiter.capacity := by
  unfold pruned
  split <;> rfl

/-- A bucket is added only where there is room for it. -/
theorem size_take_le {limiter : RateLimiter} {source : IpAddr} {now : Instant}
    (within : limiter.buckets.size ≤ limiter.capacity) (room : limiter.full source = false) :
    (limiter.take source now).2.buckets.size ≤ limiter.capacity := by
  have inserted (bucket : Bucket) :
      Table.size (limiter.buckets.insert source bucket) ≤ limiter.capacity := by
    cases known : (limiter.buckets.lookup source).isSome with
    | true =>
        rw [Table.size_insert_of_lookup bucket known]
        exact within
    | false =>
        have below : limiter.buckets.size < limiter.capacity := by
          simpa [full, known] using room
        exact Nat.le_trans (Table.size_insert_le source bucket _) below
  simp only [take]
  split
  · exact inserted _
  · exact inserted _

theorem size_admit_le {limiter : RateLimiter} (arrival : Arrival)
    (within : limiter.buckets.size ≤ limiter.capacity) :
    (limiter.admitSource arrival.source arrival.now).2.buckets.size ≤ limiter.capacity ∧
      (limiter.admitSource arrival.source arrival.now).2.capacity = limiter.capacity := by
  have pruned := Nat.le_trans (limiter.size_pruned_le arrival) within
  rw [admit_eq]
  split <;> rename_i room
  · exact ⟨pruned, limiter.capacity_pruned arrival⟩
  · rw [Bool.not_eq_true] at room
    rw [← limiter.capacity_pruned arrival] at pruned ⊢
    refine ⟨size_take_le pruned room, ?_⟩
    simp only [take]
    split <;> rfl

/-- **The sources tracked never exceed the capacity.** -/
theorem size_after_le {limiter : RateLimiter} (arrivals : List Arrival)
    (within : limiter.buckets.size ≤ limiter.capacity) :
    (limiter.after arrivals).buckets.size ≤ limiter.capacity := by
  induction arrivals generalizing limiter with
  | nil => exact within
  | cons arrival arrivals ih =>
      obtain ⟨size, capacity⟩ := size_admit_le arrival within
      rw [← capacity] at size ⊢
      exact ih size

/-! ### A bucket that is never forgotten -/

/-- The moment of an instant, in seconds. -/
def seconds (now : Instant) : Rat := Duration.asSecsExact now

theorem seconds_le_iff {first second : Instant} : seconds first ≤ seconds second ↔ first ≤ second := by
  unfold seconds Duration.asSecsExact
  rw [div_le_div_iff_of_pos_right (by norm_num), Nat.cast_le]

theorem asSecsExact_sub {first second : Instant} (ordered : first ≤ second) :
    Duration.asSecsExact (second - first) = seconds second - seconds first := by
  unfold seconds Duration.asSecsExact
  rw [Nat.cast_sub ordered, sub_div]

/-- What a source has at `now`: its bucket refilled, or a full one. -/
def level (limiter : RateLimiter) (source : IpAddr) (now : Instant) : Rat :=
  match limiter.buckets.lookup source with
  | some bucket => min (bucket.refilled limiter.perSecond now) limiter.burst
  | none => limiter.burst

/-- From `clock` on, the source has what the ideal bucket has. -/
structure Follows (cap rate : Rat) (source : IpAddr) (clock : Instant)
    (ideal : TokenBucket Rat) (limiter : RateLimiter) : Prop where
  burst : limiter.burst = cap
  perSecond : limiter.perSecond = rate
  levels : ∀ now, clock ≤ now → limiter.level source now = ideal.level cap rate (seconds now)

section Follows

variable {cap rate : Rat} {source other : IpAddr} {clock now : Instant} {ideal : TokenBucket Rat}
  {limiter : RateLimiter}

theorem follows_new {burst capacity : Nat} (grows : 0 ≤ rate) :
    Follows burst rate source clock (.full burst (seconds clock)) (.new burst rate capacity) where
  burst := rfl
  perSecond := rfl
  levels now later := by
    rw [TokenBucket.level_full grows (seconds_le_iff.mpr later)]
    rfl

theorem Follows.later (follows : Follows cap rate source clock ideal limiter)
    (after : clock ≤ now) : Follows cap rate source now ideal limiter where
  burst := follows.burst
  perSecond := follows.perSecond
  levels moment late := follows.levels moment (Nat.le_trans after late)

/-- A refill only grows. -/
theorem refilled_mono {bucket : Bucket} {first second : Instant} (grows : 0 ≤ rate)
    (ordered : first ≤ second) : bucket.refilled rate first ≤ bucket.refilled rate second := by
  unfold Bucket.refilled Duration.asSecsExact
  have longer : ((first - bucket.updatedAt : Nat) : Rat) ≤ (second - bucket.updatedAt : Nat) :=
    Nat.cast_le.mpr (Nat.sub_le_sub_right ordered _)
  gcongr

/-- **Pruning forgets full buckets only.** -/
theorem Follows.prune (follows : Follows cap rate source now ideal limiter) (grows : 0 ≤ rate) :
    Follows cap rate source now ideal (limiter.prune now) where
  burst := follows.burst
  perSecond := follows.perSecond
  levels moment late := by
    rw [← follows.levels moment late]
    simp only [level, RateLimiter.prune, Table.lookup_retain]
    cases known : limiter.buckets.lookup source with
    | none => rfl
    | some bucket =>
        by_cases kept : bucket.refilled limiter.perSecond now < limiter.burst
        · simp [Option.filter, kept]
        · -- a forgotten bucket was full, and stays so
          have full := le_trans (not_lt.mp kept)
            (refilled_mono (follows.perSecond ▸ grows) late)
          simp [Option.filter, kept, min_eq_right full]

theorem Follows.pruned (follows : Follows cap rate source clock ideal limiter) (grows : 0 ≤ rate)
    (arrival : Arrival) (after : clock ≤ arrival.now) :
    Follows cap rate source arrival.now ideal (limiter.pruned arrival) := by
  unfold RateLimiter.pruned
  split
  · exact (follows.later after).prune grows
  · exact follows.later after

/-- What `take` finds is the level. -/
theorem take_eq (limiter : RateLimiter) (source : IpAddr) (now : Instant) :
    limiter.take source now =
      if limiter.level source now < 1 then
        (false, { limiter with
          buckets := limiter.buckets.insert source ⟨limiter.level source now, now⟩ })
      else
        (true, { limiter with
          buckets := limiter.buckets.insert source ⟨limiter.level source now - 1, now⟩ }) := by
  have found : min (((limiter.buckets.lookup source).getD
      { tokens := limiter.burst, updatedAt := now }).refilled limiter.perSecond now) limiter.burst =
        limiter.level source now := by
    unfold level
    cases limiter.buckets.lookup source with
    | none => simp [Bucket.refilled, Duration.asSecsExact]
    | some bucket => rfl
  simp only [take, found]

/-- A bucket written at `now`. -/
theorem Follows.insert (follows : Follows cap rate source clock ideal limiter) (tokens : Rat) :
    Follows cap rate source now ⟨tokens, seconds now⟩
      { limiter with buckets := limiter.buckets.insert source ⟨tokens, now⟩ } where
  burst := follows.burst
  perSecond := follows.perSecond
  levels moment late := by
    simp only [level, AList.lookup_insert, follows.burst, follows.perSecond, Bucket.refilled,
      asSecsExact_sub late, TokenBucket.level]

/-- The bucket of another source. -/
theorem Follows.frame (follows : Follows cap rate source clock ideal limiter)
    (different : source ≠ other) (bucket : Bucket) : Follows cap rate source clock ideal
      { limiter with buckets := limiter.buckets.insert other bucket } where
  burst := follows.burst
  perSecond := follows.perSecond
  levels moment late := by
    rw [← follows.levels moment late]
    simp only [level, AList.lookup_insert_ne different]

/-- **A call decided by the source's bucket is a draw from the ideal one.** -/
theorem Follows.take (follows : Follows cap rate source now ideal limiter) :
    (limiter.take source now).1 = (ideal.draw cap rate (seconds now)).1 ∧
      Follows cap rate source now (ideal.draw cap rate (seconds now)).2
        (limiter.take source now).2 := by
  rw [take_eq, follows.levels now (Nat.le_refl now)]
  unfold TokenBucket.draw
  split
  · exact ⟨rfl, follows.insert _⟩
  · exact ⟨rfl, follows.insert _⟩

theorem Follows.take_other (follows : Follows cap rate source now ideal limiter)
    (different : source ≠ other) :
    Follows cap rate source now ideal (limiter.take other now).2 := by
  rw [take_eq]
  split
  · exact follows.frame different _
  · exact follows.frame different _

end Follows

/-! ### Whole runs -/

/-- The calls of one source that were not refused for want of room. -/
def heard (source : IpAddr) (decisions : List Decision) : List Decision :=
  decisions.filter fun decision => decision.arrival.source == source && !decision.crowded

/-- The times of these calls do not decrease. -/
def Ordered (arrivals : List Arrival) : Prop :=
  arrivals.Pairwise fun first second => first.now ≤ second.now

section Runs

variable {cap rate : Rat} {source : IpAddr} {clock : Instant} {ideal : TokenBucket Rat}
  {limiter : RateLimiter} {arrivals : List Arrival}

/-- **The calls heard are draws from a bucket that is never forgotten.** -/
theorem Follows.decisions (follows : Follows cap rate source clock ideal limiter)
    (grows : 0 ≤ rate) (ordered : Ordered arrivals)
    (begins : ∀ arrival ∈ arrivals, clock ≤ arrival.now) :
    (heard source (limiter.decisions arrivals)).map Decision.admitted =
      ideal.draws cap rate ((heard source (limiter.decisions arrivals)).map
        fun decision => seconds decision.arrival.now) := by
  induction arrivals generalizing limiter clock ideal with
  | nil => rfl
  | cons arrival arrivals ih =>
      obtain ⟨later, ordered⟩ := List.pairwise_cons.mp ordered
      have current := follows.pruned grows arrival (begins arrival List.mem_cons_self)
      have answer : (limiter.decide arrival).admitted =
          (limiter.admitSource arrival.source arrival.now).1 := rfl
      simp only [RateLimiter.decisions, heard, List.filter_cons]
      cases crowded : (limiter.pruned arrival).full arrival.source with
      | true =>
          have refused : limiter.admitSource arrival.source arrival.now = (false, limiter.pruned arrival) := by
            rw [admit_eq, if_pos crowded]
          simp only [RateLimiter.decide, crowded, Bool.not_true, Bool.and_false, Bool.false_eq_true,
            if_false, refused]
          exact ih current ordered later
      | false =>
          have taken : limiter.admitSource arrival.source arrival.now =
              (limiter.pruned arrival).take arrival.source arrival.now := by
            rw [admit_eq, crowded, if_neg Bool.false_ne_true]
          simp only [RateLimiter.decide, crowded, Bool.not_false, Bool.and_true, taken]
          by_cases own : arrival.source = source
          · subst own
            obtain ⟨same, next⟩ := current.take
            simp only [beq_self_eq_true, if_true, List.map_cons, TokenBucket.draws, same]
            exact congrArg _ (ih next ordered later)
          · have next := current.take_other (Ne.symm own)
            simp only [beq_eq_false_iff_ne.mpr own, Bool.false_eq_true, if_false]
            exact ih next ordered later

/-- The same of the limiter that has no capacity and never prunes. -/
theorem Follows.takes (follows : Follows cap rate source clock ideal limiter) {moments : List Instant}
    (ordered : moments.Pairwise (· ≤ ·)) (begins : ∀ moment ∈ moments, clock ≤ moment) :
    limiter.takes source moments = ideal.draws cap rate (moments.map seconds) := by
  induction moments generalizing limiter clock ideal with
  | nil => rfl
  | cons moment moments ih =>
      obtain ⟨later, ordered⟩ := List.pairwise_cons.mp ordered
      obtain ⟨same, next⟩ := (follows.later (begins moment List.mem_cons_self)).take
      simp only [RateLimiter.takes, List.map_cons, TokenBucket.draws, same]
      exact congrArg _ (ih next ordered later)

end Runs

/-! ### The law -/

/-- The calls of a source admitted from `first` to `last`. -/
def admittedWithin (source : IpAddr) (first last : Instant) (decisions : List Decision) : Nat :=
  decisions.countP fun decision => decision.arrival.source == source && decision.admitted &&
    (first ≤ decision.arrival.now && decision.arrival.now ≤ last)

/-- **The rate limit**: what any sequence of calls gets. -/
structure Limits (burst : Nat) (rate : Rat) (capacity : Nat) (arrivals : List Arrival) : Prop where
  /-- In every interval a source is admitted at most `burst` times, and `rate` more times for each
  second of its length. -/
  window : ∀ source first last, first ≤ last →
    (admittedWithin source first last ((new burst rate capacity).decisions arrivals) : Rat) ≤
      burst + rate * Duration.asSecsExact (last - first)
  /-- The sources tracked never exceed the capacity. -/
  tracked : ((new burst rate capacity).after arrivals).buckets.size ≤ capacity
  /-- The calls of a source that were not refused for want of room are answered as by the limiter
  that has no capacity and never prunes. -/
  unpruned : ∀ source, let decided := heard source ((new burst rate capacity).decisions arrivals)
    decided.map Decision.admitted =
      (new burst rate capacity).takes source (decided.map fun decision => decision.arrival.now)

theorem decisions_map_arrival (limiter : RateLimiter) (arrivals : List Arrival) :
    (limiter.decisions arrivals).map Decision.arrival = arrivals := by
  induction arrivals generalizing limiter with
  | nil => rfl
  | cons arrival arrivals ih => exact congrArg _ (ih _)

/-- A call refused for want of room is not admitted. -/
theorem admitted_of_crowded {limiter : RateLimiter} {arrivals : List Arrival} {decision : Decision}
    (member : decision ∈ limiter.decisions arrivals) (crowded : decision.crowded = true) :
    decision.admitted = false := by
  induction arrivals generalizing limiter with
  | nil => cases member
  | cons arrival arrivals ih =>
      rcases List.mem_cons.mp member with rfl | later
      · simp only [decide] at crowded ⊢
        rw [admit_eq, if_pos crowded]
      · exact ih later

/-- The calls heard come in the order of time. -/
theorem ordered_heard (limiter : RateLimiter) {arrivals : List Arrival} (source : IpAddr)
    (ordered : Ordered arrivals) : ((heard source (limiter.decisions arrivals)).map
      fun decision => decision.arrival.now).Pairwise (· ≤ ·) := by
  rw [Ordered, ← decisions_map_arrival limiter arrivals] at ordered
  exact List.pairwise_map.mpr ((List.pairwise_map.mp ordered).filter _)

/-- The admitted calls of a source are the admitted ones among those heard. -/
theorem admittedWithin_eq {limiter : RateLimiter} {arrivals : List Arrival} {source : IpAddr}
    {first last : Instant} : admittedWithin source first last (limiter.decisions arrivals) =
      (heard source (limiter.decisions arrivals)).countP fun decision => decision.admitted &&
        (seconds first ≤ seconds decision.arrival.now ∧
          seconds decision.arrival.now ≤ seconds last) := by
  unfold admittedWithin heard
  rw [List.countP_filter]
  refine List.countP_congr fun decision member => ?_
  have refused := admitted_of_crowded member
  simp only [seconds_le_iff, Bool.and_eq_true, decide_eq_true_eq, Bool.not_eq_true']
  constructor
  · rintro ⟨⟨own, admitted⟩, inside⟩
    refine ⟨⟨admitted, inside⟩, own, Bool.eq_false_iff.mpr fun crowded => ?_⟩
    rw [refused crowded] at admitted
    cases admitted
  · rintro ⟨⟨admitted, inside⟩, own, _⟩
    exact ⟨⟨own, admitted⟩, inside⟩

/-- **The rate limit holds in every run.** -/
theorem limits_of_calls {burst capacity : Nat} {rate : Rat} {arrivals : List Arrival}
    (grows : 0 ≤ rate) (ordered : Ordered arrivals) : Limits burst rate capacity arrivals where
  window source first last opened := by
    have follows := @follows_new rate source 0 burst capacity grows
    have times := ordered_heard (new burst rate capacity) source ordered
    have drawn : admittedWithin source first last ((new burst rate capacity).decisions arrivals) =
        (TokenBucket.full (burst : Rat) (seconds 0)).drawn (burst : Rat) rate
          ((heard source ((new burst rate capacity).decisions arrivals)).map
            fun decision => seconds decision.arrival.now) (seconds first) (seconds last) := by
      rw [admittedWithin_eq, TokenBucket.drawn,
        ← follows.decisions grows ordered fun _ _ => Nat.zero_le _, List.zip_map', List.countP_map]
      simp only [Function.comp_def, Bool.decide_and]
    have holds : 0 ≤ (TokenBucket.full (burst : Rat) (seconds 0)).level (burst : Rat) rate
        (seconds 0) := by
      rw [TokenBucket.level_full grows le_rfl]
      exact Nat.cast_nonneg burst
    rw [drawn, asSecsExact_sub opened]
    refine TokenBucket.drawn_le grows (Nat.cast_nonneg burst) holds ?_ (seconds_le_iff.mpr opened)
    refine List.pairwise_cons.mpr ⟨fun moment member => ?_, ?_⟩
    · obtain ⟨decision, _, rfl⟩ := List.mem_map.mp member
      exact seconds_le_iff.mpr (Nat.zero_le _)
    · refine List.pairwise_map.mpr ((List.pairwise_map.mp times).imp fun before => ?_)
      exact seconds_le_iff.mpr before
  tracked := size_after_le arrivals (Nat.zero_le _)
  unpruned source := by
    have follows := @follows_new rate source 0 burst capacity grows
    have times := ordered_heard (new burst rate capacity) source ordered
    dsimp only
    rw [follows.decisions grows ordered fun _ _ => Nat.zero_le _,
      follows.takes times fun _ _ => Nat.zero_le _, List.map_map]
    rfl

/-- The law for a limiter with room for one source: the second source gets in once the first
one's bucket is full again. -/
theorem limits_of_calls_two_sources :
    Limits 2 1 1 [⟨.v4 100 64 0 1, 0⟩, ⟨.v4 100 64 0 2, 0⟩, ⟨.v4 100 64 0 2, 1000000000⟩] :=
  limits_of_calls (by decide) (by simp [Ordered])

end RateLimiter

end Omdesky.Agent
