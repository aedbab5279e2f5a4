/-
**What the tasks of a pool have done, in its order.**

A pool forgets a task that is cancelled. Its journal does not: it lists every event of every task, with
the input of the task, in the order in which they happened.

* `Journal`: the reachable pools with their journals; `exists_journal`.
* `Journal.sublist`, `Journal.along`: what a task has done is in the journal, and what it can still do
  obeys the rule it started under.
* `Journal.entry`: the pool in which an event happened; `Journal.justified`: the rule it obeyed.
* `Journal.keeps`: an invariant of the state and the journal, from one that every event keeps.
* `Journal.frugal`: **tasks that spend only what they have earned never spend more than was earned**,
  the cancelled ones among them.
-/

import Omdesky.Interaction.Pool

namespace Interaction

variable {Input Request State : Type} {Answer : Request → Type} {α : Type}

/-- An event, and the input of the task it is of. -/
abbrev Entry (Input Request : Type) (Answer : Request → Type) := Input × Event Request Answer

section Journal

variable (start : Input → Program Request Answer α) (world : World Request Answer State)
  (environment : State → State → Prop) (initial : State)

/-- The pools that are reached, each with everything that has happened on the way. -/
inductive Journal : List (Entry Input Request Answer) → Pool Input Request Answer α State → Prop
  | opened : Journal [] ⟨initial, []⟩
  | spawned {journal shared tasks} (input : Input) (earlier : Journal journal ⟨shared, tasks⟩) :
      Journal journal ⟨shared, ⟨input, [], start input⟩ :: tasks⟩
  | happened {journal shared after before later input trace request next answer}
      (earlier : Journal journal ⟨shared, before ++ ⟨input, trace, .ask request next⟩ :: later⟩)
      (answered : world request shared answer after) :
      Journal (journal ++ [(input, ⟨request, answer⟩)])
        ⟨after, before ++ ⟨input, trace ++ [⟨request, answer⟩], next answer⟩ :: later⟩
  | cancelled {journal shared before task later}
      (earlier : Journal journal ⟨shared, before ++ task :: later⟩) :
      Journal journal ⟨shared, before ++ later⟩
  | acted {journal shared after tasks} (earlier : Journal journal ⟨shared, tasks⟩)
      (acts : environment shared after) : Journal journal ⟨after, tasks⟩

end Journal

variable {start : Input → Program Request Answer α} {world : World Request Answer State}
  {environment : State → State → Prop} {initial : State}
  {journal : List (Entry Input Request Answer)} {pool : Pool Input Request Answer α State}

/-- Every pool that is reached has a journal. -/
theorem exists_journal : pool.Reachable start world environment initial ↔
    ∃ journal, Journal start world environment initial journal pool := by
  constructor
  · intro reached
    induction reached with
    | refl => exact ⟨[], .opened⟩
    | tail _ step ih =>
        obtain ⟨journal, earlier⟩ := ih
        cases step with
        | spawn input => exact ⟨_, .spawned input earlier⟩
        | run answered => exact ⟨_, .happened earlier answered⟩
        | cancel => exact ⟨_, .cancelled earlier⟩
        | surroundings acts => exact ⟨_, .acted earlier acts⟩
  · rintro ⟨journal, kept⟩
    induction kept with
    | opened => exact .refl
    | spawned input _ ih => exact ih.tail (.spawn input)
    | happened _ answered ih => exact ih.tail (.run answered)
    | cancelled _ ih => exact ih.tail .cancel
    | acted _ acts ih => exact ih.tail (.surroundings acts)

namespace Journal

/-- One more task that runs to its end while the others wait. -/
theorem call {input : Input} {state final : State} {value : α}
    {others : List (Task Input Request Answer α)} {trace : List (Event Request Answer)}
    (earlier : Journal start world environment initial journal ⟨state, others⟩)
    (run : (start input).Runs world state trace value final) :
    Journal start world environment initial (journal ++ trace.map (Prod.mk input))
      ⟨final, ⟨input, trace, .done value⟩ :: others⟩ := by
  have from_here (program : Program Request Answer α) : ∀ {journal state before trace},
      Journal start world environment initial journal ⟨state, ⟨input, before, program⟩ :: others⟩ →
        program.Runs world state trace value final →
          Journal start world environment initial (journal ++ trace.map (Prod.mk input))
            ⟨final, ⟨input, before ++ trace, .done value⟩ :: others⟩ := by
    induction program with
    | done result =>
        rintro journal state before trace earlier ⟨rfl, rfl, rfl⟩
        rwa [List.map_nil, List.append_nil, List.append_nil]
    | ask request next ih =>
        rintro journal state before trace earlier ⟨answer, middle, rest, rfl, answered, run⟩
        have step : Journal start world environment initial (journal ++ [(input, ⟨request, answer⟩)])
            ⟨middle, ⟨input, before ++ [⟨request, answer⟩], next answer⟩ :: others⟩ :=
          @Journal.happened _ _ _ _ _ _ _ _ _ _ _ _ [] others _ _ _ _ _ earlier answered
        rw [List.map_cons, List.append_cons, List.append_cons before]
        exact ih answer step run
  exact from_here _ (.spawned input earlier) run

/-! ### One task -/

section Tasks

variable {Item : Type} {before later : List Item} {old new : Item} {holds : Item → Prop}

theorem forall_removed (all : ∀ item ∈ before ++ old :: later, holds item) :
    ∀ item ∈ before ++ later, holds item := by
  rw [List.forall_mem_append, List.forall_mem_cons] at all
  exact List.forall_mem_append.mpr ⟨all.1, all.2.2⟩

theorem forall_replaced (all : ∀ item ∈ before ++ old :: later, holds item) (here : holds new) :
    ∀ item ∈ before ++ new :: later, holds item := by
  rw [List.forall_mem_append, List.forall_mem_cons] at all
  exact List.forall_mem_append.mpr ⟨all.1, List.forall_mem_cons.mpr ⟨here, all.2.2⟩⟩

theorem mem_middle : old ∈ before ++ old :: later := List.mem_append_right _ List.mem_cons_self

end Tasks

/-- What a task has done is in the journal, in its order. -/
theorem sublist (kept : Journal start world environment initial journal pool) :
    ∀ task ∈ pool.tasks, (task.trace.map (Prod.mk task.input)).Sublist journal := by
  induction kept with
  | opened => exact fun task member => by cases member
  | spawned input _ ih => exact List.forall_mem_cons.mpr ⟨List.nil_sublist _, ih⟩
  | acted _ _ ih => exact ih
  | cancelled _ ih => exact forall_removed ih
  | @happened journal _ _ before later input trace request next answer _ _ ih =>
      have longer : ∀ task ∈ before ++ ⟨input, trace, .ask request next⟩ :: later,
          (task.trace.map (Prod.mk task.input)).Sublist (journal ++ [(input, ⟨request, answer⟩)]) :=
        fun task member => (ih task member).trans (List.sublist_append_left _ _)
      refine forall_replaced longer ?_
      rw [List.map_append]
      exact (ih _ mem_middle).append (List.Sublist.refl _)

/-- What is left of a task obeys the rule the task started under. -/
theorem along {allowed : Input → List (Event Request Answer) → Event Request Answer → Prop}
    (begins : ∀ input, Program.Along (allowed input) [] (start input))
    (kept : Journal start world environment initial journal pool) :
    ∀ task ∈ pool.tasks, Program.Along (allowed task.input) task.trace task.program := by
  induction kept with
  | opened => exact fun task member => by cases member
  | spawned input _ ih => exact List.forall_mem_cons.mpr ⟨begins input, ih⟩
  | acted _ _ ih => exact ih
  | cancelled _ ih => exact forall_removed ih
  | happened _ _ ih => exact forall_replaced ih (ih _ mem_middle _).2

/-! ### One event -/

/-- The pool in which an event happened, and what it did to the state. -/
theorem entry {before after : List (Entry Input Request Answer)} {input : Input}
    {event : Event Request Answer} (kept : Journal start world environment initial journal pool)
    (split : journal = before ++ (input, event) :: after) :
    ∃ earlier : Pool Input Request Answer α State, ∃ trace next final,
      Journal start world environment initial before earlier ∧
        ⟨input, trace, .ask event.1 next⟩ ∈ earlier.tasks ∧
          world event.1 earlier.shared event.2 final := by
  induction kept generalizing after with
  | opened => simp at split
  | spawned _ _ ih => exact ih split
  | acted _ _ ih => exact ih split
  | cancelled _ ih => exact ih split
  | @happened journal shared final early late other trace request next answer earlier answered ih =>
      rcases List.eq_nil_or_concat after with rfl | ⟨shorter, last, rfl⟩
      · obtain ⟨rfl, same⟩ := List.append_inj' split rfl
        obtain ⟨rfl, rfl⟩ := Prod.mk.inj (List.singleton_inj.mp same)
        exact ⟨_, trace, next, final, earlier, List.mem_append_right _ List.mem_cons_self, answered⟩
      · refine @ih shorter ?_
        have whole : journal ++ [(other, ⟨request, answer⟩)] =
            (before ++ (input, event) :: shorter) ++ [last] := by
          rw [split, List.concat_eq_append, List.append_assoc, List.cons_append]
        exact (List.append_inj' whole rfl).1

/-- **The rule an event obeyed**, after those events of its task that are in the journal before it. -/
theorem justified {allowed : Input → List (Event Request Answer) → Event Request Answer → Prop}
    {before after : List (Entry Input Request Answer)} {input : Input}
    {event : Event Request Answer}
    (begins : ∀ input, Program.Along (allowed input) [] (start input))
    (kept : Journal start world environment initial journal pool)
    (split : journal = before ++ (input, event) :: after) :
    ∃ past, (past.map (Prod.mk input)).Sublist before ∧ allowed input past event := by
  obtain ⟨earlier, trace, next, _, journaled, member, _⟩ := kept.entry split
  exact ⟨trace, journaled.sublist _ member, (journaled.along begins _ member event.2).1⟩

/-! ### Invariants -/

/-- Every event keeps the invariant, given what the earlier events of its task have told about the
state; and what an event has told stays true. -/
structure Keeps (world : World Request Answer State) (environment : State → State → Prop)
    (allowed : Input → List (Event Request Answer) → Event Request Answer → Prop)
    (inv : List (Entry Input Request Answer) → State → Prop)
    (told : State → Event Request Answer → Prop) : Prop where
  event : ∀ {journal state input past request answer after}, inv journal state →
    (∀ event ∈ past, told state event) → allowed input past ⟨request, answer⟩ →
      world request state answer after →
        inv (journal ++ [(input, ⟨request, answer⟩)]) after ∧ told after ⟨request, answer⟩ ∧
          ∀ event, told state event → told after event
  acts : ∀ {journal state after}, inv journal state → environment state after →
    inv journal after ∧ ∀ event, told state event → told after event

/-- **The invariant of the state and the journal.** -/
theorem keeps {allowed : Input → List (Event Request Answer) → Event Request Answer → Prop}
    {inv : List (Entry Input Request Answer) → State → Prop}
    {told : State → Event Request Answer → Prop} (keeps : Keeps world environment allowed inv told)
    (begins : ∀ input, Program.Along (allowed input) [] (start input)) (opens : inv [] initial)
    (kept : Journal start world environment initial journal pool) :
    inv journal pool.shared ∧ ∀ task ∈ pool.tasks, ∀ event ∈ task.trace, told pool.shared event := by
  induction kept with
  | opened => exact ⟨opens, fun task member => by cases member⟩
  | spawned input _ ih =>
      exact ⟨ih.1, List.forall_mem_cons.mpr ⟨List.forall_mem_nil _, ih.2⟩⟩
  | acted _ acts ih =>
      obtain ⟨holds, stays⟩ := keeps.acts ih.1 acts
      exact ⟨holds, fun task member event done => stays event (ih.2 task member event done)⟩
  | cancelled _ ih => exact ⟨ih.1, forall_removed ih.2⟩
  | @happened journal _ _ before later input trace request next answer earlier answered ih =>
      have allows := (earlier.along begins _ mem_middle answer).1
      obtain ⟨holds, tells, stays⟩ := keeps.event ih.1 (ih.2 _ mem_middle) allows answered
      refine ⟨holds, forall_replaced (fun task member event done =>
        stays event (ih.2 task member event done)) ?_⟩
      exact List.forall_mem_append.mpr
        ⟨fun event done => stays event (ih.2 _ mem_middle event done),
          List.forall_mem_singleton.mpr tells⟩

/-! ### Spending what was earned -/

/-- A task spends only what it has earned and not spent yet. -/
def Frugal (earns spends : Event Request Answer → Bool) (past : List (Event Request Answer))
    (event : Event Request Answer) : Prop :=
  spends event = true → past.countP spends < past.countP earns

section Frugal

variable {earns spends : Input → Event Request Answer → Bool}

/-- What a task has earned and not spent. -/
def purse (earns spends : Input → Event Request Answer → Bool) (task : Task Input Request Answer α) :
    Nat :=
  task.trace.countP (earns task.input) - task.trace.countP (spends task.input)

/-- No task is in debt. -/
theorem solvent
    (begins : ∀ input, Program.Along (Frugal (earns input) (spends input)) [] (start input))
    (kept : Journal start world environment initial journal pool) :
    ∀ task ∈ pool.tasks,
      task.trace.countP (spends task.input) ≤ task.trace.countP (earns task.input) := by
  induction kept with
  | opened => exact fun task member => by cases member
  | spawned input _ ih => exact List.forall_mem_cons.mpr ⟨Nat.le_refl _, ih⟩
  | acted _ _ ih => exact ih
  | cancelled _ ih => exact forall_removed ih
  | @happened journal _ _ before later input trace request next answer earlier _ ih =>
      refine forall_replaced ih ?_
      have frugal : Frugal (earns input) (spends input) trace ⟨request, answer⟩ :=
        (earlier.along begins _ mem_middle answer).1
      have covered : trace.countP (spends input) ≤ trace.countP (earns input) := ih _ mem_middle
      simp only [List.countP_append, List.countP_singleton]
      by_cases spending : spends input ⟨request, answer⟩ = true
      · have left := frugal spending
        rw [if_pos spending]
        omega
      · rw [if_neg spending]
        omega

/-- **What was spent, and what the tasks still have, is no more than what was earned.** -/
theorem spent_add_purses_le
    (begins : ∀ input, Program.Along (Frugal (earns input) (spends input)) [] (start input))
    (kept : Journal start world environment initial journal pool) :
    (journal.countP fun entry => spends entry.1 entry.2) +
        (pool.tasks.map (purse earns spends)).sum ≤
      journal.countP fun entry => earns entry.1 entry.2 := by
  induction kept with
  | opened => exact Nat.le_refl _
  | spawned input _ ih => simpa [purse] using ih
  | acted _ _ ih => exact ih
  | cancelled _ ih =>
      simp only [List.map_append, List.map_cons, List.sum_append, List.sum_cons] at ih ⊢
      omega
  | @happened journal _ _ before later input trace request next answer earlier _ ih =>
      have frugal : Frugal (earns input) (spends input) trace ⟨request, answer⟩ :=
        (earlier.along begins _ mem_middle answer).1
      have covered : trace.countP (spends input) ≤ trace.countP (earns input) :=
        earlier.solvent begins _ mem_middle
      simp only [List.map_append, List.map_cons, List.sum_append, List.sum_cons, purse,
        List.countP_append, List.countP_singleton] at ih ⊢
      by_cases spending : spends input ⟨request, answer⟩ = true
      · have left := frugal spending
        rw [if_pos spending]
        split <;> omega
      · rw [if_neg spending]
        split <;> omega

/-- **Never more is spent than was earned.** -/
theorem frugal
    (begins : ∀ input, Program.Along (Frugal (earns input) (spends input)) [] (start input))
    (kept : Journal start world environment initial journal pool) :
    (journal.countP fun entry => spends entry.1 entry.2) ≤
      journal.countP fun entry => earns entry.1 entry.2 :=
  Nat.le_trans (Nat.le_add_right _ _) (kept.spent_add_purses_le begins)

end Frugal

end Journal

end Interaction
