/-
**Programs whose requests are programs.**

* `Program.expand`: every request of a program is carried out by a program of its own.
* `sound_expand`: a program among others is sound if the program of each request is, knowing what the
  requests before it have led to.
* `Expands`: the events of the whole, for those of the inner program.
* `along_expand`: a rule that holds along the whole, from what each request does after those before it.
-/

import Omdesky.Interaction.Pool

namespace Interaction

namespace Program

variable {Request : Type} {Answer : Request → Type} {Outer : Type} {Reply : Outer → Type} {α : Type}

/-- The program with `handler request` in the place of every request. -/
def expand (handler : ∀ request, Program Outer Reply (Answer request)) :
    Program Request Answer α → Program Outer Reply α
  | .done value => .done value
  | .ask request next => handler request >>= fun answer => expand handler (next answer)

end Program

section Sound

variable {Request : Type} {Answer : Request → Type} {Outer : Type} {Reply : Outer → Type} {α State : Type}
  {world : World Outer Reply State} {inv : State → Prop} {grows : State → State → Prop}
  {handler : ∀ request, Program Outer Reply (Answer request)}

open Program

/-- **Soundness of the whole from the requests.** After the requests of `past` the state is `known`, and
the program asks only what is allowed after them. -/
theorem sound_expand {allowed : List (Event Request Answer) → Event Request Answer → Prop}
    {known : List (Event Request Answer) → State → Prop}
    (handles : ∀ past request trace state, (∀ answer, allowed past ⟨request, answer⟩) →
      known past state → Sound world inv grows
        (fun _ answer final => known (past ++ [⟨request, answer⟩]) final) trace (handler request) state)
    {program : Program Request Answer α} :
    ∀ {past : List (Event Request Answer)} {trace : List (Event Outer Reply)} {state : State},
      Along allowed past program → known past state →
        Sound world inv grows (fun _ _ _ => True) trace (expand handler program) state := by
  induction program with
  | done value => exact fun _ _ => trivial
  | ask request next ih =>
      intro past trace state along knows
      refine sound_bind ?_
      refine (handles past request trace state (fun answer => (along answer).1) knows).weaken ?_
      exact fun trace answer final knows => ih answer (along answer).2 knows

end Sound

section Events

variable {Request : Type} {Answer : Request → Type} {Outer : Type} {Reply : Outer → Type} {α : Type}
  {handler : ∀ request, Program Outer Reply (Answer request)}

open Program

/-- The events of the whole: for every event of the inner program, a run of its own program. -/
inductive Expands (handler : ∀ request, Program Outer Reply (Answer request)) :
    List (Event Request Answer) → List (Event Outer Reply) → Prop
  | nil : Expands handler [] []
  | event {past trace request answer run} (earlier : Expands handler past trace)
      (handled : Traces (handler request) run answer) :
      Expands handler (past ++ [⟨request, answer⟩]) (trace ++ run)

theorem Expands.nil_inv {trace : List (Event Outer Reply)} (expands : Expands handler [] trace) :
    trace = [] := by
  generalize same : ([] : List (Event Request Answer)) = past at expands
  cases expands with
  | nil => rfl
  | event => simp at same

/-- The events of one part of the inner program, and those of the next. -/
theorem Expands.append_inv {past more : List (Event Request Answer)} {trace : List (Event Outer Reply)}
    (expands : Expands handler (past ++ more) trace) :
    ∃ before after, trace = before ++ after ∧ Expands handler past before ∧ Expands handler more after := by
  generalize same : past ++ more = whole at expands
  induction expands generalizing more with
  | nil =>
      obtain ⟨rfl, rfl⟩ := List.append_eq_nil_iff.mp same
      exact ⟨[], [], rfl, .nil, .nil⟩
  | event earlier handled ih =>
      obtain rfl | ⟨others, last, rfl⟩ := List.eq_nil_or_concat more
      · rw [List.append_nil] at same
        subst same
        exact ⟨_, [], (List.append_nil _).symm, earlier.event handled, .nil⟩
      · rw [List.concat_eq_append] at same ⊢
        rw [← List.append_assoc] at same
        obtain ⟨before, one⟩ := List.append_inj' same rfl
        obtain rfl := List.singleton_inj.mp one
        obtain ⟨front, back, rfl, first, rest⟩ := ih before
        exact ⟨front, back ++ _, List.append_assoc .., first, rest.event handled⟩

/-- The first event of the inner program. -/
theorem Expands.cons_inv {request : Request} {answer : Answer request} {past : List (Event Request Answer)}
    {trace : List (Event Outer Reply)} (expands : Expands handler (⟨request, answer⟩ :: past) trace) :
    ∃ run rest, trace = run ++ rest ∧ Traces (handler request) run answer ∧ Expands handler past rest := by
  have split : Expands handler ([⟨request, answer⟩] ++ past) trace := expands
  obtain ⟨before, after, rfl, first, rest⟩ := split.append_inv
  generalize same : [(⟨request, answer⟩ : Event Request Answer)] = one at first
  cases first with
  | nil => cases same
  | @event opening _ _ _ _ earlier handled =>
      obtain ⟨none, one⟩ := List.append_singleton_inj.mp ((List.nil_append _).trans same)
      subst none
      cases one
      obtain rfl := earlier.nil_inv
      exact ⟨_, after, rfl, handled, rest⟩

/-- **Every event of the whole**, from what each request does after those before it. -/
theorem along_expand {allowed : List (Event Request Answer) → Event Request Answer → Prop}
    {rule : List (Event Outer Reply) → Event Outer Reply → Prop}
    {known : List (Event Request Answer) → List (Event Outer Reply) → Prop}
    (handles : ∀ past trace request, known past trace → (∀ answer, allowed past ⟨request, answer⟩) →
      Follows rule (fun after answer => known (past ++ [⟨request, answer⟩]) after) trace (handler request))
    {program : Program Request Answer α} :
    ∀ {past : List (Event Request Answer)} {trace : List (Event Outer Reply)},
      Along allowed past program → known past trace → Along rule trace (expand handler program) := by
  induction program with
  | done value => exact fun _ _ => trivial
  | ask request next ih =>
      intro past trace along knows
      have handled := handles past trace request knows fun answer => (along answer).1
      exact along_bind handled.along fun run answer done =>
        ih answer (along answer).2 (handled.ends run answer done)

end Events

end Interaction
