/-
**A text gathered from chunks, within a limit.**

A loop takes one item in a turn. It returns, or it goes on with what it has gathered, and the item stays
in its buffer up to the next one.

* `Loop`, `Loop.step`: a loop, and what one step makes of its state; `Loop.run`: what it returns.
* `Loop.State.held`: how much it holds.
* `Loop.iterate_remaining`: every state of a loop leads to what the loop returns.
* `Gathers`: a loop that keeps a chunk if it fits into the limit, and gives up if it does not.
  `Gathers.run_eq`: what it returns does not depend on the cuts. `Gathers.held_le`: it never holds more
  than the limit and one chunk.
-/

import Mathlib.Data.List.Basic
import Mathlib.Logic.Function.Iterate
import Mathlib.Tactic.Common

namespace Collections

/-- How a turn of a loop ends: the loop returns, or it goes on with what it has gathered. -/
inductive Turn (α ε : Type)
  | returned (result : Except ε (List α))
  | again (gathered : List α)

/-- A loop: what it does with an item, and what it returns when there are no more. -/
structure Loop (α ι ε : Type) where
  turn : List α → ι → Turn α ε
  finish : List α → Except ε (List α)

namespace Loop

variable {α ι ε : Type}

/-- A loop at its head, with an item in its buffer, or at its end. -/
inductive State (α ι ε : Type)
  | waiting (gathered : List α) (buffer : Option ι) (coming : List ι)
  | taken (gathered : List α) (buffer : ι) (coming : List ι)
  | returned (result : Except ε (List α))

/-- How much a loop holds, for items of these sizes. What it has gathered stays in the buffer too. -/
def State.held (size : ι → Nat) : State α ι ε → Nat
  | .waiting gathered buffer _ => gathered.length + buffer.elim 0 size
  | .taken gathered buffer _ => gathered.length + size buffer
  | .returned result => (result.toOption.getD []).length

/-- How often a loop still steps, at most. -/
def State.remaining : State α ι ε → Nat
  | .waiting _ _ coming => 2 * coming.length + 1
  | .taken _ _ coming => 2 * coming.length + 2
  | .returned _ => 0

/-- A loop before its first turn. -/
def start (items : List ι) : State α ι ε := .waiting [] none items

variable (loop : Loop α ι ε)

/-- One step: the next item is taken, or a turn is made with it. -/
def step : State α ι ε → State α ι ε
  | .waiting gathered _ [] => .returned (loop.finish gathered)
  | .waiting gathered _ (item :: coming) => .taken gathered item coming
  | .taken gathered item coming =>
      match loop.turn gathered item with
      | .returned result => .returned result
      | .again more => .waiting more (some item) coming
  | .returned result => .returned result

/-- What a loop returns, after what it has gathered. -/
def run (gathered : List α) : List ι → Except ε (List α)
  | [] => loop.finish gathered
  | item :: coming =>
      match loop.turn gathered item with
      | .returned result => result
      | .again more => run more coming

/-- What a loop has still to return. -/
def pending : State α ι ε → Except ε (List α)
  | .waiting gathered _ coming => loop.run gathered coming
  | .taken gathered item coming => loop.run gathered (item :: coming)
  | .returned result => result

/-- The states that a loop comes through with these items. -/
def Visits (items : List ι) (state : State α ι ε) : Prop :=
  ∃ steps, loop.step^[steps] (start items) = state

variable {loop} {state : State α ι ε} {items : List ι}

/-! ### Steps -/

/-- No step changes what is returned in the end. -/
theorem pending_step (state : State α ι ε) : loop.pending (loop.step state) = loop.pending state := by
  cases state with
  | waiting gathered buffer coming =>
      cases coming with
      | nil => rfl
      | cons item coming => rfl
  | taken gathered item coming =>
      cases ends : loop.turn gathered item with
      | returned result => simp only [step, pending, run, ends]
      | again more => simp only [step, pending, run, ends]
  | returned result => rfl

/-- Each step of a loop that has not returned leaves fewer of them. -/
theorem remaining_step (state : State α ι ε) : (loop.step state).remaining ≤ state.remaining - 1 := by
  cases state with
  | waiting gathered buffer coming =>
      cases coming with
      | nil => exact Nat.zero_le _
      | cons item coming =>
          simp only [step, State.remaining, List.length_cons]
          omega
  | taken gathered item coming =>
      simp only [step]
      split
      · exact Nat.zero_le _
      · exact Nat.le_refl _
  | returned result => exact Nat.zero_le _

theorem eq_returned_of_remaining (none : state.remaining = 0) : state = .returned (loop.pending state) := by
  cases state with
  | waiting gathered buffer coming => cases none
  | taken gathered item coming => cases none
  | returned result => rfl

/-- **A loop returns**, from each of its states. -/
theorem iterate_remaining (state : State α ι ε) :
    loop.step^[state.remaining] state = .returned (loop.pending state) := by
  have steps (count : Nat) : (loop.step^[count] state).remaining ≤ state.remaining - count ∧
      loop.pending (loop.step^[count] state) = loop.pending state := by
    induction count with
    | zero => exact ⟨Nat.le_refl _, rfl⟩
    | succ count ih =>
        rw [Function.iterate_succ_apply']
        have fewer := @remaining_step _ _ _ loop (loop.step^[count] state)
        refine ⟨?_, (pending_step _).trans ih.2⟩
        omega
  obtain ⟨less, same⟩ := steps state.remaining
  rw [Nat.sub_self, Nat.le_zero] at less
  rw [← same]
  exact eq_returned_of_remaining less

theorem pending_of_visits (visits : loop.Visits items state) :
    loop.pending state = loop.run [] items := by
  obtain ⟨steps, rfl⟩ := visits
  induction steps with
  | zero => rfl
  | succ steps ih => rw [Function.iterate_succ_apply', pending_step, ih]

/-- A property of the states that no step loses holds of every state a loop comes through. -/
theorem Visits.induct {holds : State α ι ε → Prop} (visits : loop.Visits items state)
    (first : holds (start items)) (kept : ∀ state, holds state → holds (loop.step state)) :
    holds state := by
  obtain ⟨steps, rfl⟩ := visits
  induction steps with
  | zero => exact first
  | succ steps ih =>
      rw [Function.iterate_succ_apply']
      exact kept _ ih

end Loop

/-! ### Loops with a limit -/

/-- Of the items made of a chunk that it takes, a loop keeps those that fit into its limit, and gives up
with this error at the first that does not. -/
structure Gathers {α ι ε : Type} (limit : Nat) (into : List α → ι) (taken : List α → Prop) (error : ε)
    (loop : Loop α ι ε) : Prop where
  ended : ∀ gathered, loop.finish gathered = .ok gathered
  kept : ∀ gathered chunk, taken chunk → gathered.length + chunk.length ≤ limit →
    loop.turn gathered (into chunk) = .again (gathered ++ chunk)
  refused : ∀ gathered chunk, taken chunk → limit < gathered.length + chunk.length →
    loop.turn gathered (into chunk) = .returned (.error error)

namespace Gathers

variable {α ι ε : Type} {limit : Nat} {into : List α → ι} {taken : List α → Prop} {error : ε}
  {loop : Loop α ι ε} {chunks : List (List α)}

/-- **A loop in closed form**: only the text matters. -/
theorem run_eq (gathers : Gathers limit into taken error loop) {gathered : List α}
    (room : gathered.length ≤ limit) (each : ∀ chunk ∈ chunks, taken chunk) :
    loop.run gathered (chunks.map into) =
      if (gathered ++ chunks.flatten).length ≤ limit then .ok (gathered ++ chunks.flatten)
      else .error error := by
  induction chunks generalizing gathered with
  | nil =>
      rw [List.flatten_nil, List.append_nil, if_pos room]
      exact gathers.ended gathered
  | cons chunk chunks ih =>
      obtain ⟨own, others⟩ := List.forall_mem_cons.mp each
      rw [List.map_cons, Loop.run, List.flatten_cons, ← List.append_assoc]
      rcases Nat.lt_or_ge limit (gathered.length + chunk.length) with past | fits
      · rw [gathers.refused gathered chunk own past, if_neg]
        simp only [List.length_append]
        omega
      · rw [gathers.kept gathered chunk own fits]
        exact ih (List.length_append ▸ fits) others

/-- A loop over these chunks: what it has gathered fits, and its buffer is one of them. -/
def Sound (limit : Nat) (into : List α → ι) (chunks : List (List α)) : Loop.State α ι ε → Prop
  | .waiting gathered buffer coming =>
      gathered.length ≤ limit ∧ (∀ item ∈ buffer, item ∈ chunks.map into) ∧ coming ⊆ chunks.map into
  | .taken gathered item coming =>
      gathered.length ≤ limit ∧ item ∈ chunks.map into ∧ coming ⊆ chunks.map into
  | .returned result => ∀ text, result = .ok text → text.length ≤ limit

theorem sound_step (gathers : Gathers limit into taken error loop)
    (each : ∀ chunk ∈ chunks, taken chunk) {state : Loop.State α ι ε}
    (sound : Sound limit into chunks state) : Sound limit into chunks (loop.step state) := by
  cases state with
  | waiting gathered buffer coming =>
      obtain ⟨fits, _, known⟩ := sound
      cases coming with
      | nil =>
          rintro text same
          rw [gathers.ended] at same
          exact Except.ok.inj same ▸ fits
      | cons item coming =>
          obtain ⟨first, others⟩ := List.cons_subset.mp known
          exact ⟨fits, first, others⟩
  | taken gathered item coming =>
      obtain ⟨_, member, known⟩ := sound
      obtain ⟨chunk, listed, rfl⟩ := List.mem_map.mp member
      rcases Nat.lt_or_ge limit (gathered.length + chunk.length) with past | fits
      · rw [Loop.step, gathers.refused gathered chunk (each chunk listed) past]
        exact fun _ same => nomatch same
      · rw [Loop.step, gathers.kept gathered chunk (each chunk listed) fits]
        refine ⟨List.length_append ▸ fits, ?_, known⟩
        rintro _ ⟨⟩
        exact member
  | returned result => exact sound

/-- **A loop never holds more than its limit and one chunk.** -/
theorem held_le (gathers : Gathers limit into taken error loop) (each : ∀ chunk ∈ chunks, taken chunk)
    {size : ι → Nat} (sized : ∀ chunk ∈ chunks, size (into chunk) = chunk.length)
    {state : Loop.State α ι ε} (visits : loop.Visits (chunks.map into) state) :
    ∃ chunk ∈ [] :: chunks, state.held size ≤ limit + chunk.length := by
  have sound : Sound limit into chunks state :=
    visits.induct ⟨Nat.zero_le _, nofun, List.Subset.refl _⟩ fun _ => gathers.sound_step each
  cases state with
  | waiting gathered buffer coming =>
      cases buffer with
      | none => exact ⟨[], List.mem_cons_self, sound.1⟩
      | some item =>
          obtain ⟨chunk, listed, rfl⟩ := List.mem_map.mp (sound.2.1 item rfl)
          refine ⟨chunk, List.mem_cons_of_mem _ listed, ?_⟩
          exact (sized chunk listed) ▸ Nat.add_le_add_right sound.1 _
  | taken gathered item coming =>
      obtain ⟨chunk, listed, rfl⟩ := List.mem_map.mp sound.2.1
      refine ⟨chunk, List.mem_cons_of_mem _ listed, ?_⟩
      exact (sized chunk listed) ▸ Nat.add_le_add_right sound.1 _
  | returned result =>
      refine ⟨[], List.mem_cons_self, ?_⟩
      cases result with
      | error error => exact Nat.zero_le _
      | ok text => exact sound text rfl

end Gathers

end Collections
