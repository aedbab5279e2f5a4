/-
**One token bucket.**

A bucket holds at most `cap` tokens, gains `rate` of them per unit of time and gives one away for
each draw that succeeds.

* `TokenBucket.level`, `draw`, `draws`: the tokens at a moment, one draw, and the outcomes of draws
  at a list of moments.
* `TokenBucket.drawn_le`: in any window of time, at most `cap` draws succeed, and `rate` more for
  each unit of its length.
* `TokenBucket.level_draw`: a draw pays for itself.
-/

import Mathlib.Algebra.Order.Field.Basic
import Mathlib.Tactic.Linarith
import Mathlib.Tactic.Ring

namespace Collections

/-- Tokens, as counted at some moment. -/
structure TokenBucket (Quantity : Type) where
  tokens : Quantity
  since : Quantity
  deriving DecidableEq, Repr

namespace TokenBucket

variable {Quantity : Type} [Field Quantity] [LinearOrder Quantity] (cap rate : Quantity)

/-- The tokens at `now`. -/
def level (bucket : TokenBucket Quantity) (now : Quantity) : Quantity :=
  min (bucket.tokens + (now - bucket.since) * rate) cap

/-- A draw at `now`: whether it succeeds, and the bucket it leaves. -/
def draw (bucket : TokenBucket Quantity) (now : Quantity) : Bool × TokenBucket Quantity :=
  if bucket.level cap rate now < 1 then (false, ⟨bucket.level cap rate now, now⟩)
  else (true, ⟨bucket.level cap rate now - 1, now⟩)

/-- The outcomes of draws at these moments. -/
def draws : TokenBucket Quantity → List Quantity → List Bool
  | _, [] => []
  | bucket, now :: later => (bucket.draw cap rate now).1 :: (bucket.draw cap rate now).2.draws later

/-- How many draws succeed from `first` to `last`. -/
def drawn (bucket : TokenBucket Quantity) (moments : List Quantity) (first last : Quantity) : Nat :=
  (moments.zip (bucket.draws cap rate moments)).countP fun outcome =>
    outcome.2 && (first ≤ outcome.1 && outcome.1 ≤ last)

/-- A full bucket. -/
def full (now : Quantity) : TokenBucket Quantity := ⟨cap, now⟩

variable {cap rate} {bucket : TokenBucket Quantity} {now later : Quantity}

/-! ### The level -/

theorem level_le : bucket.level cap rate now ≤ cap := min_le_right _ _

/-- The level at the moment of counting. -/
theorem level_since (tokens : Quantity) : level cap rate ⟨tokens, now⟩ now = min tokens cap := by
  simp [level]

theorem drawn_cons {moments : List Quantity} {first last : Quantity} :
    bucket.drawn cap rate (now :: moments) first last =
      (bucket.draw cap rate now).2.drawn cap rate moments first last +
        if (bucket.draw cap rate now).1 && (first ≤ now && now ≤ last) then 1 else 0 := by
  simp only [drawn, draws, List.zip_cons_cons, List.countP_cons]

/-- Nothing is drawn in a window that has closed. -/
theorem drawn_eq_zero {moments : List Quantity} {first last : Quantity}
    (ordered : (now :: moments).Pairwise (· ≤ ·)) (closed : last < now) :
    bucket.drawn cap rate (now :: moments) first last = 0 := by
  have late : ∀ moment ∈ now :: moments, last < moment :=
    List.forall_mem_cons.mpr ⟨closed, fun moment member =>
      lt_of_lt_of_le closed ((List.pairwise_cons.mp ordered).1 moment member)⟩
  refine List.countP_eq_zero.mpr ?_
  rintro ⟨moment, success⟩ member
  simp [not_le.mpr (late moment (List.of_mem_zip member).1)]

variable [IsStrictOrderedRing Quantity]

/-- The level rises by at most the rate. -/
theorem level_later (grows : 0 ≤ rate) (after : now ≤ later) :
    bucket.level cap rate later ≤ bucket.level cap rate now + rate * (later - now) := by
  have gained : 0 ≤ rate * (later - now) := mul_nonneg grows (sub_nonneg.mpr after)
  unfold level
  rcases min_choice (bucket.tokens + (now - bucket.since) * rate) cap with same | same
  · rw [same]
    refine le_trans (min_le_left _ _) (le_of_eq ?_)
    ring
  · rw [same]
    exact le_trans (min_le_right _ _) (by linarith)

/-- Waiting in two steps is waiting once. -/
theorem level_level (grows : 0 ≤ rate) (after : now ≤ later) :
    level cap rate ⟨bucket.level cap rate now, now⟩ later = bucket.level cap rate later := by
  have gained : 0 ≤ (later - now) * rate := mul_nonneg (sub_nonneg.mpr after) grows
  have split : bucket.tokens + (later - bucket.since) * rate =
      bucket.tokens + (now - bucket.since) * rate + (later - now) * rate := by ring
  unfold level
  rw [split]
  generalize bucket.tokens + (now - bucket.since) * rate = before
  rcases le_total before cap with below | above
  · rw [min_eq_left below]
  · rw [min_eq_right above, min_eq_right (by linarith), min_eq_right (by linarith)]

theorem level_full (grows : 0 ≤ rate) (after : now ≤ later) :
    (full cap now).level cap rate later = cap := by
  have gained : 0 ≤ (later - now) * rate := mul_nonneg (sub_nonneg.mpr after) grows
  exact min_eq_right (le_add_of_nonneg_right gained)

/-! ### Draws -/

/-- **One draw pays for itself**: what is left and what was drawn make up the level. -/
theorem level_draw : (bucket.draw cap rate now).2.level cap rate now +
    (if (bucket.draw cap rate now).1 then 1 else 0) = bucket.level cap rate now := by
  have most : bucket.level cap rate now ≤ cap := level_le
  unfold draw
  split
  · rw [level_since, min_eq_left most, if_neg Bool.false_ne_true, add_zero]
  · rw [level_since, min_eq_left (by linarith), if_pos rfl, sub_add_cancel]

/-- The level is never negative. -/
theorem level_draw_nonneg (holds : 0 ≤ bucket.level cap rate now) :
    0 ≤ (bucket.draw cap rate now).2.level cap rate now := by
  have most : bucket.level cap rate now ≤ cap := level_le
  unfold draw
  split <;> rename_i low
  · rw [level_since, min_eq_left most]
    exact holds
  · rw [level_since, min_eq_left (by linarith)]
    linarith

theorem level_nonneg_later (grows : 0 ≤ rate) (room : 0 ≤ cap) (after : now ≤ later)
    (holds : 0 ≤ bucket.level cap rate now) : 0 ≤ bucket.level cap rate later := by
  have gained : 0 ≤ (later - now) * rate := mul_nonneg (sub_nonneg.mpr after) grows
  rw [← level_level grows after]
  exact le_min (by simpa using add_nonneg holds gained) room

/-- From any moment on, the draws take no more than the level and what is gained until the window
closes. -/
theorem drawn_le_level (grows : 0 ≤ rate) (room : 0 ≤ cap) {moments : List Quantity}
    {first last : Quantity} (holds : 0 ≤ bucket.level cap rate now)
    (ordered : (now :: moments).Pairwise (· ≤ ·)) (opened : now ≤ last) :
    (bucket.drawn cap rate moments first last : Quantity) ≤
      bucket.level cap rate now + rate * (last - now) := by
  induction moments generalizing bucket now with
  | nil =>
      have gained : 0 ≤ rate * (last - now) := mul_nonneg grows (sub_nonneg.mpr opened)
      simpa [drawn, draws] using add_nonneg holds gained
  | cons next moments ih =>
      obtain ⟨before, ordered⟩ := List.pairwise_cons.mp ordered
      have after := before next List.mem_cons_self
      rcases le_or_gt next last with inside | outside
      · have rest := ih (level_draw_nonneg (level_nonneg_later grows room after holds)) ordered inside
        have paid := @level_draw _ _ _ cap rate bucket next _
        have rises := @level_later _ _ _ cap rate bucket now next _ grows after
        have counted : ((if (bucket.draw cap rate next).1 && (first ≤ next && next ≤ last) then 1
            else 0 : Nat) : Quantity) ≤ if (bucket.draw cap rate next).1 then 1 else 0 := by
          cases (bucket.draw cap rate next).1 <;> simp
          split <;> simp
        calc (bucket.drawn cap rate (next :: moments) first last : Quantity)
            ≤ (bucket.draw cap rate next).2.level cap rate next + rate * (last - next) +
                (if (bucket.draw cap rate next).1 then 1 else 0) := by
              rw [drawn_cons, Nat.cast_add]
              exact add_le_add rest counted
          _ = bucket.level cap rate next + rate * (last - next) := by
              rw [← paid]
              ring
          _ ≤ bucket.level cap rate now + rate * (next - now) + rate * (last - next) := by
              exact add_le_add rises le_rfl
          _ = bucket.level cap rate now + rate * (last - now) := by ring
      · have gained : 0 ≤ rate * (last - now) := mul_nonneg grows (sub_nonneg.mpr opened)
        rw [drawn_eq_zero ordered outside, Nat.cast_zero]
        exact add_nonneg holds gained

/-- **No window gives more than a full bucket and what is gained in it.** -/
theorem drawn_le (grows : 0 ≤ rate) (room : 0 ≤ cap) {moments : List Quantity}
    {first last : Quantity} (holds : 0 ≤ bucket.level cap rate now)
    (ordered : (now :: moments).Pairwise (· ≤ ·)) (window : first ≤ last) :
    (bucket.drawn cap rate moments first last : Quantity) ≤ cap + rate * (last - first) := by
  have gained : 0 ≤ rate * (last - first) := mul_nonneg grows (sub_nonneg.mpr window)
  induction moments generalizing bucket now with
  | nil => simpa [drawn, draws] using add_nonneg room gained
  | cons next moments ih =>
      obtain ⟨before, ordered⟩ := List.pairwise_cons.mp ordered
      have after := before next List.mem_cons_self
      have level := level_nonneg_later grows room after holds
      rcases lt_or_ge next first with early | inside
      · -- the window has not opened
        rw [drawn_cons, decide_eq_false (not_le.mpr early)]
        simpa using ih (level_draw_nonneg level) ordered
      · rcases le_or_gt next last with inside' | outside
        · have repeated : (next :: next :: moments).Pairwise (· ≤ ·) :=
            List.pairwise_cons.mpr ⟨List.forall_mem_cons.mpr
              ⟨le_rfl, (List.pairwise_cons.mp ordered).1⟩, ordered⟩
          calc (bucket.drawn cap rate (next :: moments) first last : Quantity)
              ≤ bucket.level cap rate next + rate * (last - next) :=
                drawn_le_level grows room level repeated inside'
            _ ≤ cap + rate * (last - first) := by
                refine add_le_add level_le (mul_le_mul_of_nonneg_left ?_ grows)
                exact sub_le_sub_left inside last
        · rw [drawn_eq_zero ordered outside, Nat.cast_zero]
          exact add_nonneg room gained

end TokenBucket

end Collections
