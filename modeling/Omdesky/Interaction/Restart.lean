/-
**A program that is started again and again.**

Each life of a program begins in the state that the life before it has left, and ends with a value or
is stopped anywhere on the way.

* `Lives`: the lives one after the other, with what came of those that ended.
* `Lives.keeps`: **what every life keeps, also where it is stopped, holds after all of them.**
* `secures_within`: a program inside a larger interface.
-/

import Omdesky.Interaction.World

namespace Interaction

open Program

variable {Input Request State : Type} {Answer : Request → Type} {α : Type}

/-- The lives of a program, and what came of those that were not stopped. -/
inductive Lives (world : World Request Answer State) (start : Input → Program Request Answer α)
    (initial : State) : List (Input × α) → State → Prop
  | begun : Lives world start initial [] initial
  | ended {past state trace value final} (input : Input)
      (earlier : Lives world start initial past state)
      (run : Runs world (start input) state trace value final) :
      Lives world start initial (past ++ [(input, value)]) final
  | stopped {past state final} (input : Input) (earlier : Lives world start initial past state)
      (visits : Visits world (start input) state final) : Lives world start initial past final

/-- **What every life keeps holds after all of them.** -/
theorem Lives.keeps {world : World Request Answer State} {start : Input → Program Request Answer α}
    {initial final : State} {past : List (Input × α)} {inv : List (Input × α) → State → Prop}
    (opens : inv [] initial)
    (secures : ∀ past input state, inv past state → Secures world (inv past)
      (fun _ value final => inv (past ++ [(input, value)]) final) [] (start input) state)
    (lives : Lives world start initial past final) : inv past final := by
  induction lives with
  | begun => exact opens
  | ended input _ run ih => exact (secures _ input _ ih).runs run
  | stopped input _ visits ih => exact (secures _ input _ ih).visits visits

/-- A program inside a larger interface, in a world that answers its requests as its own does. -/
theorem secures_within {Outer : Type} {Reply : Outer → Type} {into : Request → Outer}
    {outer : World Outer Reply State} {world : World Request (fun request => Reply (into request)) State}
    (agrees : ∀ request state answer after, outer (into request) state answer after →
      world request state answer after)
    {crash : State → Prop} {post : α → State → Prop}
    {program : Program Request (fun request => Reply (into request)) α} {state : State} :
    ∀ {past past'}, Secures world crash (fun _ value final => post value final) past program state →
      Secures outer crash (fun _ value final => post value final) past'
        (within into program) state := by
  induction program generalizing state with
  | done value => exact fun secure => secure
  | ask request next ih =>
      exact fun secure => ⟨secure.1, fun answer middle answered =>
        ih answer (secure.2 answer middle (agrees _ _ _ _ answered))⟩

end Interaction
