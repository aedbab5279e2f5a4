/-
**Concurrent tasks over one shared state.**

A pool runs any number of programs in one world, one request at a time and in any order. New tasks
start at any moment, running ones may be cancelled, and the surroundings may act in between.

* `Pool.Step`, `Pool.Reachable`: the scheduler and what it can reach.
* `Pool.tally_le`: how often the tasks can have done something, from a credit the state keeps.
* `Sound`: what a program may rely on and must guarantee. Between its requests the shared state only
  `grows`; each of its requests keeps the invariant; when it finishes, its trace and value satisfy
  the postcondition. `sound_bind` sequences programs.
* `Disciplined.reachable`, `Disciplined.finished`: if every program is sound from its start, then
  every reachable state satisfies the invariant and every finished task its postcondition.
* `Dropped`: all tasks are dropped where they wait.
-/

import Mathlib.Algebra.GroupWithZero.Nat
import Mathlib.Logic.Relation
import Omdesky.Interaction.World

namespace Interaction

variable {Input Request State : Type} {Answer : Request → Type} {α β : Type}

/-! ### Pools -/

/-- A task: what it was started with, what it has done and what remains to be done. -/
structure Task (Input Request : Type) (Answer : Request → Type) (α : Type) where
  input : Input
  trace : List (Event Request Answer)
  program : Program Request Answer α

/-- The shared state and the tasks. -/
structure Pool (Input Request : Type) (Answer : Request → Type) (α State : Type) where
  shared : State
  tasks : List (Task Input Request Answer α)

namespace Pool

variable (start : Input → Program Request Answer α) (world : World Request Answer State)
  (environment : State → State → Prop)

/-- One step of the scheduler. -/
inductive Step : Pool Input Request Answer α State → Pool Input Request Answer α State → Prop
  | spawn {shared tasks} (input : Input) :
      Step ⟨shared, tasks⟩ ⟨shared, ⟨input, [], start input⟩ :: tasks⟩
  | run {shared after before later input trace request next answer}
      (answered : world request shared answer after) :
      Step ⟨shared, before ++ ⟨input, trace, .ask request next⟩ :: later⟩
        ⟨after, before ++ ⟨input, trace ++ [⟨request, answer⟩], next answer⟩ :: later⟩
  | cancel {shared before task later} :
      Step ⟨shared, before ++ task :: later⟩ ⟨shared, before ++ later⟩
  | surroundings {shared after tasks} (acts : environment shared after) :
      Step ⟨shared, tasks⟩ ⟨after, tasks⟩

/-- The pools reached from an initial state without tasks. -/
def Reachable (initial : State) (pool : Pool Input Request Answer α State) : Prop :=
  Relation.ReflTransGen (Step start world environment) ⟨initial, []⟩ pool

end Pool

/-! ### A task on its own -/

namespace Pool

variable {start : Input → Program Request Answer α} {world : World Request Answer State}
  {environment : State → State → Prop} {others : List (Task Input Request Answer α)}

/-- A task that runs to its end while the others wait. -/
theorem steps_of_runs {input : Input} {program : Program Request Answer α}
    {before trace : List (Event Request Answer)} {state final : State} {value : α}
    (run : program.Runs world state trace value final) :
    Relation.ReflTransGen (Step start world environment)
      ⟨state, ⟨input, before, program⟩ :: others⟩
      ⟨final, ⟨input, before ++ trace, .done value⟩ :: others⟩ := by
  induction program generalizing before trace state with
  | done result =>
      obtain ⟨rfl, rfl, rfl⟩ := run
      rw [List.append_nil]
  | ask request next ih =>
      obtain ⟨answer, middle, rest, rfl, answered, run⟩ := run
      have step : Step start world environment
          ⟨state, ⟨input, before, .ask request next⟩ :: others⟩
          ⟨middle, ⟨input, before ++ [⟨request, answer⟩], next answer⟩ :: others⟩ :=
        @Step.run _ _ _ _ _ _ _ _ _ _ [] others _ _ _ _ _ answered
      rw [List.append_cons]
      exact .head step (ih answer run)

/-- One more call, run to its end, leaves the pool reachable. -/
theorem Reachable.call {input : Input} {trace : List (Event Request Answer)}
    {initial state final : State} {value : α}
    (reached : Reachable start world environment initial ⟨state, others⟩)
    (run : (start input).Runs world state trace value final) :
    Reachable start world environment initial ⟨final, ⟨input, trace, .done value⟩ :: others⟩ :=
  (Relation.ReflTransGen.tail reached (.spawn input)).trans (steps_of_runs run)

end Pool

/-! ### Counting events -/

namespace Pool

variable {start : Input → Program Request Answer α} {world : World Request Answer State}
  {environment : State → State → Prop}

/-- How many events of the tasks' traces are counted. -/
def tally (counts : Event Request Answer → Bool) (pool : Pool Input Request Answer α State) : Nat :=
  (pool.tasks.map fun task => task.trace.countP counts).sum

/-- The tasks that have done it once are no more than the times it was done. -/
theorem countP_le_tally {counts : Event Request Answer → Bool}
    {holds : Task Input Request Answer α → Bool} {pool : Pool Input Request Answer α State}
    (counted : ∀ task ∈ pool.tasks, holds task = true → 0 < task.trace.countP counts) :
    pool.tasks.countP holds ≤ pool.tally counts := by
  obtain ⟨shared, tasks⟩ := pool
  unfold tally
  induction tasks with
  | nil => exact Nat.le_refl _
  | cons task tasks ih =>
      obtain ⟨here, later⟩ := List.forall_mem_cons.mp counted
      have rest := ih later
      simp only [List.countP_cons, List.map_cons, List.sum_cons] at rest ⊢
      by_cases done : holds task = true
      · have once := here done
        rw [if_pos done]
        omega
      · rw [if_neg done]
        omega

/-- **The tasks never do more than the state was credited with**, if every counted event credits the
state and nothing takes a credit back. -/
theorem tally_le {counts : Event Request Answer → Bool} {credit : State → Nat} {initial : State}
    (answers : ∀ request state answer after, world request state answer after →
      credit state + [⟨request, answer⟩].countP counts ≤ credit after)
    (acts : ∀ first second, environment first second → credit first ≤ credit second)
    {pool : Pool Input Request Answer α State}
    (reached : pool.Reachable start world environment initial) :
    pool.tally counts ≤ credit pool.shared := by
  induction reached with
  | refl => exact Nat.zero_le _
  | tail _ step ih =>
      unfold tally at ih ⊢
      cases step with
      | spawn input => simpa using ih
      | cancel =>
          simp only [List.map_append, List.map_cons, List.sum_append, List.sum_cons] at ih ⊢
          omega
      | surroundings act => exact Nat.le_trans ih (acts _ _ act)
      | run answered =>
          have credited := answers _ _ _ _ answered
          simp only [List.map_append, List.map_cons, List.sum_append, List.sum_cons,
            List.countP_append] at ih ⊢
          omega

end Pool

/-! ### Sound programs -/

section Sound

variable (world : World Request Answer State) (inv : State → Prop) (grows : State → State → Prop)

/-- After `trace`, in a state that may still grow, the rest of a program keeps the invariant and
finishes with the postcondition. -/
def Sound (post : List (Event Request Answer) → α → State → Prop) :
    List (Event Request Answer) → Program Request Answer α → State → Prop
  | trace, .done value, state => post trace value state
  | trace, .ask request next, state => ∀ middle answer after, grows state middle → inv middle →
      world request middle answer after → inv after ∧ grows middle after ∧
        Sound post (trace ++ [⟨request, answer⟩]) (next answer) after

variable {world inv grows} {post : List (Event Request Answer) → α → State → Prop}

/-- Sequencing: the first program establishes that the second is sound. -/
theorem sound_bind {first : Program Request Answer β} {second : β → Program Request Answer α} :
    ∀ {trace : List (Event Request Answer)} {state : State},
      Sound world inv grows (fun trace value state =>
        Sound world inv grows post trace (second value) state) trace first state →
      Sound world inv grows post trace (first >>= second) state := by
  induction first with
  | done value => exact fun sound => sound
  | ask request next ih =>
      intro trace state sound middle answer after grown holds answered
      obtain ⟨kept, later, rest⟩ := sound middle answer after grown holds answered
      exact ⟨kept, later, ih answer rest⟩

/-- A weaker postcondition. -/
theorem Sound.weaken {other : List (Event Request Answer) → α → State → Prop}
    (weaker : ∀ trace value state, post trace value state → other trace value state)
    {program : Program Request Answer α} :
    ∀ {trace : List (Event Request Answer)} {state : State},
      Sound world inv grows post trace program state →
        Sound world inv grows other trace program state := by
  induction program with
  | done value => exact fun sound => weaker _ _ _ sound
  | ask request next ih =>
      intro trace state sound middle answer after grown holds answered
      obtain ⟨kept, later, rest⟩ := sound middle answer after grown holds answered
      exact ⟨kept, later, ih answer rest⟩

/-- The state a program finishes in has grown from any state before it. -/
theorem Sound.remember {program : Program Request Answer α} {trace : List (Event Request Answer)}
    {earlier state : State} (sound : Sound world inv grows post trace program state)
    (trans : ∀ first second third, grows first second → grows second third → grows first third)
    (before : grows earlier state) :
    Sound world inv grows (fun trace value final => grows earlier final ∧ post trace value final)
      trace program state := by
  induction program generalizing trace state with
  | done value => exact ⟨before, sound⟩
  | ask request next ih =>
      intro middle answer after grown holds answered
      obtain ⟨kept, later, rest⟩ := sound middle answer after grown holds answered
      have since := trans _ _ _ (trans _ _ _ before grown) later
      exact ⟨kept, later, ih answer rest since⟩

/-- Soundness survives the growth of the state. -/
theorem Sound.grow {program : Program Request Answer α} {trace : List (Event Request Answer)}
    {first second : State} (sound : Sound world inv grows post trace program first)
    (trans : ∀ first second third, grows first second → grows second third → grows first third)
    (stable : ∀ trace value first second, grows first second → post trace value first →
      post trace value second)
    (grown : grows first second) :
    Sound world inv grows post trace program second := by
  cases program with
  | done value => exact stable trace value first second grown sound
  | ask request next =>
      intro middle answer after more holds answered
      exact sound middle answer after (trans _ _ _ grown more) holds answered

end Sound

/-! ### Reachable pools -/

/-- Every program is sound from its start, under surroundings that keep the invariant too. -/
structure Disciplined (start : Input → Program Request Answer α)
    (world : World Request Answer State) (environment : State → State → Prop) (inv : State → Prop)
    (grows : State → State → Prop)
    (post : Input → List (Event Request Answer) → α → State → Prop) : Prop where
  refl : ∀ state, grows state state
  trans : ∀ first second third, grows first second → grows second third → grows first third
  stable : ∀ input trace value first second, grows first second → post input trace value first →
    post input trace value second
  acts : ∀ first second, inv first → environment first second → inv second ∧ grows first second
  sound : ∀ input state, Sound world inv grows (post input) [] (start input) state

namespace Disciplined

variable {start : Input → Program Request Answer α} {world : World Request Answer State}
  {environment : State → State → Prop} {inv : State → Prop} {grows : State → State → Prop}
  {post : Input → List (Event Request Answer) → α → State → Prop} {initial : State}
  {pool : Pool Input Request Answer α State}

/-- **Every reachable pool keeps the invariant, and every task of it is sound.** -/
theorem reachable (disciplined : Disciplined start world environment inv grows post)
    (begins : inv initial) (reached : pool.Reachable start world environment initial) :
    inv pool.shared ∧ ∀ task ∈ pool.tasks,
      Sound world inv grows (post task.input) task.trace task.program pool.shared := by
  induction reached with
  | refl => exact ⟨begins, by simp⟩
  | tail _ step ih =>
      obtain ⟨holds, tasks⟩ := ih
      -- what the other tasks rely on survives any growth of the state
      have others {first second} (grown : grows first second) (task : Task Input Request Answer α)
          (sound : Sound world inv grows (post task.input) task.trace task.program first) :
          Sound world inv grows (post task.input) task.trace task.program second :=
        sound.grow disciplined.trans (disciplined.stable task.input) grown
      cases step with
      | spawn input =>
          exact ⟨holds, List.forall_mem_cons.mpr ⟨disciplined.sound input _, tasks⟩⟩
      | cancel =>
          refine ⟨holds, fun task member => tasks task ?_⟩
          obtain before | later := List.mem_append.mp member
          · exact List.mem_append_left _ before
          · exact List.mem_append_right _ (List.mem_cons_of_mem _ later)
      | surroundings act =>
          obtain ⟨kept, grown⟩ := disciplined.acts _ _ holds act
          exact ⟨kept, fun task member => others grown task (tasks task member)⟩
      | @run shared after before later input trace request next answer answered =>
          have running := tasks ⟨input, trace, .ask request next⟩
            (List.mem_append_right _ List.mem_cons_self)
          obtain ⟨kept, grown, rest⟩ :=
            running shared answer after (disciplined.refl shared) holds answered
          refine ⟨kept, fun task member => ?_⟩
          obtain member | member := List.mem_append.mp member
          · exact others grown task (tasks task (List.mem_append_left _ member))
          · obtain rfl | member := List.mem_cons.mp member
            · exact rest
            · exact others grown task
                (tasks task (List.mem_append_right _ (List.mem_cons_of_mem _ member)))

/-- A finished task satisfies its postcondition, whatever has happened since. -/
theorem finished (disciplined : Disciplined start world environment inv grows post)
    (begins : inv initial) (reached : pool.Reachable start world environment initial)
    {task : Task Input Request Answer α} (member : task ∈ pool.tasks) {value : α}
    (done : task.program = .done value) : post task.input task.trace value pool.shared := by
  have sound := (disciplined.reachable begins reached).2 task member
  rwa [done] at sound

end Disciplined

/-! ### The end of all tasks -/

/-- The tasks are dropped, each at a request at which it `suspends`: either nothing was done for it, or
it was carried out and its answer is lost. A task that does not suspend goes on until it does. `ends`
lists what the tasks have done. -/
inductive Dropped (world : World Request Answer State) (suspends : Request → Prop) :
    List (Task Input Request Answer α) → State → List (List (Event Request Answer)) → State → Prop
  | none {state} : Dropped world suspends [] state [] state
  | finished {input trace value tasks state ends final}
      (others : Dropped world suspends tasks state ends final) :
      Dropped world suspends (⟨input, trace, .done value⟩ :: tasks) state (trace :: ends) final
  | waiting {input trace request next tasks state ends final} (waits : suspends request)
      (others : Dropped world suspends tasks state ends final) :
      Dropped world suspends (⟨input, trace, .ask request next⟩ :: tasks) state (trace :: ends) final
  | carried {input trace request next answer tasks state middle ends final} (waits : suspends request)
      (answered : world request state answer middle)
      (others : Dropped world suspends tasks middle ends final) :
      Dropped world suspends (⟨input, trace, .ask request next⟩ :: tasks) state
        ((trace ++ [⟨request, answer⟩]) :: ends) final
  | goesOn {input trace request next answer tasks state middle ends final}
      (passes : ¬ suspends request) (answered : world request state answer middle)
      (later : Dropped world suspends
        (⟨input, trace ++ [⟨request, answer⟩], next answer⟩ :: tasks) middle ends final) :
      Dropped world suspends (⟨input, trace, .ask request next⟩ :: tasks) state ends final

end Interaction
