/-
**Turning through a list of values.**

* `cycleIndex`, `turn`: the place after or before one, round the end; and the value there.
* `mem_turn`: a turn ends on a listed value.
* `turn_turn`: **opposite turns undo each other**, from a listed value.
-/

import Mathlib.Data.List.GetD

namespace Collections.Turning

/-- The next place in a list of this length, or the one before. -/
def cycleIndex (current length : Nat) (direction : Int) : Nat :=
  if direction < 0 then (current + length - 1) % length else (current + 1) % length

/-- Directions of which exactly one is backwards. -/
def Opposite (first second : Int) : Prop := second < 0 ↔ ¬ first < 0

variable {α : Type*} [DecidableEq α]

/-- Where a value is listed, or the place that stands for the values that are not. -/
def place (values : List α) (fallback : Nat) (value : α) : Nat :=
  if value ∈ values then values.idxOf value else fallback

/-- The value at the next place. -/
def turn (values : List α) (fallback : Nat) (direction : Int) (value : α) : α :=
  values.getD (cycleIndex (place values fallback value) values.length direction) value

theorem cycleIndex_lt {length : Nat} (current : Nat) (direction : Int) (filled : 0 < length) :
    cycleIndex current length direction < length := by
  unfold cycleIndex
  split
  · exact Nat.mod_lt _ filled
  · exact Nat.mod_lt _ filled

/-- Forward and back, and back and forward. -/
theorem cycleIndex_cycleIndex {current length : Nat} {first second : Int}
    (opposite : Opposite first second) (inside : current < length) :
    cycleIndex (cycleIndex current length first) length second = current := by
  unfold cycleIndex
  by_cases back : first < 0
  · have forward : ¬ second < 0 := fun below => opposite.mp below back
    rw [if_pos back, if_neg forward, Nat.mod_add_mod]
    have round : current + length - 1 + 1 = current + length := by omega
    rw [round, Nat.add_mod_right, Nat.mod_eq_of_lt inside]
  · rw [if_neg back, if_pos (opposite.mpr back)]
    rcases Nat.lt_or_ge (current + 1) length with within | last
    · have round : current + 1 + length - 1 = current + length := by omega
      rw [Nat.mod_eq_of_lt within, round, Nat.add_mod_right, Nat.mod_eq_of_lt inside]
    · have whole : current + 1 = length := by omega
      rw [whole, Nat.mod_self, Nat.zero_add, ← whole, Nat.add_sub_cancel]
      exact Nat.mod_eq_of_lt (Nat.lt_succ_self current)

section Listed

variable {values : List α} {fallback : Nat} {direction : Int} {value : α}

theorem turn_eq (filled : values ≠ []) :
    turn values fallback direction value =
      values.get ⟨cycleIndex (place values fallback value) values.length direction,
        cycleIndex_lt _ _ (List.length_pos_iff.mpr filled)⟩ := by
  rw [turn, List.getD_eq_getElem _ _ (cycleIndex_lt _ _ (List.length_pos_iff.mpr filled))]
  rfl

/-- A turn ends on a listed value. -/
theorem mem_turn (filled : values ≠ []) : turn values fallback direction value ∈ values := by
  rw [turn_eq filled]
  exact List.get_mem _ _

/-- **Opposite turns undo each other.** -/
theorem turn_turn {back : Int} (nodup : values.Nodup) (listed : value ∈ values)
    (opposite : Opposite direction back) :
    turn values fallback back (turn values fallback direction value) = value := by
  have filled : values ≠ [] := List.ne_nil_of_mem listed
  have there : place values fallback (turn values fallback direction value) =
      cycleIndex (place values fallback value) values.length direction := by
    rw [place, if_pos (mem_turn filled), turn_eq filled]
    exact nodup.idxOf_getElem _ _
  have before : place values fallback value < values.length := by
    rw [place, if_pos listed]
    exact List.idxOf_lt_length_of_mem listed
  have round := cycleIndex_cycleIndex opposite before
  rw [turn, there, round, List.getD_eq_getElem _ _ before]
  simp only [place, if_pos listed]
  exact List.getElem_idxOf _

end Listed

end Collections.Turning
