/-
**Tasks with something of their own.**

By the events of its trace a task of a pool comes to own things: fresh names, files, places. What a
task owns the other tasks leave as it is, so that it may rely on more than on a shared invariant.

* `Ownership`: what an event gives, what has been given in a state, and when it is left as it is.
* `Owning`: what a program may rely on and must guarantee; `owning_bind` and `owning_run_bind` sequence
  programs.
* `owning_within`: a program in the small interface of its own is owning in a larger one.
* `Fenced.reachable`: **in every reachable pool the invariant holds, no two tasks own the same, and
  every task keeps what it was promised.**
-/

import Mathlib.Data.List.Basic
import Omdesky.Interaction.Pool

namespace Interaction

variable {Input Request State Token : Type} {Answer : Request → Type} {α β : Type}

/-- What an event gives to its task, what has been given, and that a state leaves it as it was. -/
structure Ownership (Request : Type) (Answer : Request → Type) (State Token : Type) where
  gives : Event Request Answer → Option Token
  given : State → Token → Prop
  same : Token → State → State → Prop

/-- What a task owns. -/
def Ownership.owned (ownership : Ownership Request Answer State Token)
    (trace : List (Event Request Answer)) : List Token :=
  trace.filterMap ownership.gives

theorem Ownership.mem_owned_append {ownership : Ownership Request Answer State Token}
    {trace : List (Event Request Answer)} {event : Event Request Answer} {token : Token} :
    token ∈ ownership.owned (trace ++ [event]) ↔
      token ∈ ownership.owned trace ∨ ownership.gives event = some token := by
  simp only [Ownership.owned, List.filterMap_append, List.mem_append, List.mem_filterMap,
    List.mem_singleton, exists_eq_left]

section Owning

variable (ownership : Ownership Request Answer State Token) (world : World Request Answer State)
  (inv : State → Prop) (grows : State → State → Prop)

/-- What others do between two requests of a task. -/
structure Spared (trace : List (Event Request Answer)) (state middle : State) : Prop where
  grown : grows state middle
  same : ∀ token ∈ ownership.owned trace, ownership.same token state middle

/-- After `trace` the rest of a program keeps the invariant and what is given to others, and finishes
with the postcondition, while others keep what it owns. -/
def Owning (post : List (Event Request Answer) → α → State → Prop) :
    List (Event Request Answer) → Program Request Answer α → State → Prop
  | trace, .done value, state => post trace value state
  | trace, .ask request next, state => ∀ middle answer after,
      Spared ownership grows trace state middle → inv middle → world request middle answer after →
        inv after ∧ grows middle after ∧
          (∀ token, ownership.given middle token → token ∉ ownership.owned trace →
            ownership.same token middle after) ∧
          Owning post (trace ++ [⟨request, answer⟩]) (next answer) after

variable {ownership world inv grows} {post : List (Event Request Answer) → α → State → Prop}

/-- Sequencing: the first program establishes that the second is owning. -/
theorem owning_bind {first : Program Request Answer β} {second : β → Program Request Answer α} :
    ∀ {trace : List (Event Request Answer)} {state : State},
      Owning ownership world inv grows (fun trace value state =>
        Owning ownership world inv grows post trace (second value) state) trace first state →
      Owning ownership world inv grows post trace (first >>= second) state := by
  induction first with
  | done value => exact fun owning => owning
  | ask request next ih =>
      intro trace state owning middle answer after spared holds answered
      obtain ⟨kept, later, left, rest⟩ := owning middle answer after spared holds answered
      exact ⟨kept, later, left, ih answer rest⟩

/-- A weaker postcondition. -/
theorem Owning.weaken {other : List (Event Request Answer) → α → State → Prop}
    (weaker : ∀ trace value state, post trace value state → other trace value state)
    {program : Program Request Answer α} :
    ∀ {trace : List (Event Request Answer)} {state : State},
      Owning ownership world inv grows post trace program state →
        Owning ownership world inv grows other trace program state := by
  induction program with
  | done value => exact fun owning => weaker _ _ _ owning
  | ask request next ih =>
      intro trace state owning middle answer after spared holds answered
      obtain ⟨kept, later, left, rest⟩ := owning middle answer after spared holds answered
      exact ⟨kept, later, left, ih answer rest⟩

/-- Sequencing of programs that may fail. -/
theorem owning_run_bind {ε : Type} {post : List (Event Request Answer) → Except ε α → State → Prop}
    {first : ExceptT ε (Program Request Answer) β}
    {second : β → ExceptT ε (Program Request Answer) α} {trace : List (Event Request Answer)}
    {state : State}
    (owning : Owning ownership world inv grows (fun trace result state =>
      match result with
      | .ok value => Owning ownership world inv grows post trace (second value).run state
      | .error error => post trace (.error error) state) trace first.run state) :
    Owning ownership world inv grows post trace (first >>= second).run state := by
  rw [ExceptT.run_bind]
  refine owning_bind (owning.weaken fun trace result state ends => ?_)
  cases result with
  | ok value => exact ends
  | error error => exact ends

end Owning

/-! ### Programs inside a larger interface -/

section Inside

variable {Outer : Type} {Reply : Outer → Type} {into : Request → Outer}
  {outer : Ownership Outer Reply State Token} {world : World Outer Reply State}
  {inv : State → Prop} {grows : State → State → Prop}

/-- What the requests of the small interface give. -/
def Ownership.inside (outer : Ownership Outer Reply State Token) (into : Request → Outer) :
    Ownership Request (fun request => Reply (into request)) State Token where
  gives event := outer.gives ⟨into event.1, event.2⟩
  given := outer.given
  same := outer.same

/-- **A program of the small interface is owning in the larger one.** -/
theorem owning_within {post : α → State → Prop}
    {program : Program Request (fun request => Reply (into request)) α} :
    ∀ {inner : List (Event Request fun request => Reply (into request))}
      {trace : List (Event Outer Reply)} {state : State},
      (∀ token, token ∈ outer.owned trace ↔ token ∈ (outer.inside into).owned inner) →
        Owning (outer.inside into) (fun request => world (into request)) inv grows
          (fun _ value state => post value state) inner program state →
        Owning outer world inv grows (fun _ value state => post value state) trace
          (program.within into) state := by
  induction program with
  | done value => exact fun _ owning => owning
  | ask request next ih =>
      intro inner trace state owned owning middle answer after spared holds answered
      have mine : Spared (outer.inside into) grows inner state middle :=
        ⟨spared.grown, fun token member => spared.same token ((owned token).mpr member)⟩
      obtain ⟨kept, later, left, rest⟩ := owning middle answer after mine holds answered
      refine ⟨kept, later, fun token given other => left token given (mt (owned token).mpr other),
        ih answer (fun token => ?_) rest⟩
      rw [Ownership.mem_owned_append, Ownership.mem_owned_append, owned token]
      exact Iff.rfl

end Inside

/-! ### Reachable pools -/

/-- No two tasks own the same. -/
def Apart (ownership : Ownership Request Answer State Token)
    (first second : Task Input Request Answer α) : Prop :=
  ∀ token ∈ ownership.owned first.trace, token ∉ ownership.owned second.trace

theorem Apart.symm {ownership : Ownership Request Answer State Token}
    {first second : Task Input Request Answer α} (apart : Apart ownership first second) :
    Apart ownership second first :=
  fun token there here => apart token here there

/-- Every program is owning from its start, what is given is fresh and stays given, and the
surroundings keep the invariant and all that is given. -/
structure Fenced (ownership : Ownership Request Answer State Token)
    (start : Input → Program Request Answer α) (world : World Request Answer State)
    (environment : State → State → Prop) (inv : State → Prop) (grows : State → State → Prop)
    (post : Input → List (Event Request Answer) → α → State → Prop) : Prop where
  refl : ∀ state, grows state state
  trans : ∀ first second third, grows first second → grows second third → grows first third
  sameRefl : ∀ token state, ownership.same token state state
  sameTrans : ∀ token first second third, ownership.same token first second →
    ownership.same token second third → ownership.same token first third
  fresh : ∀ request state answer after token, world request state answer after →
    ownership.gives ⟨request, answer⟩ = some token →
      ¬ ownership.given state token ∧ ownership.given after token
  given : ∀ first second token, grows first second → ownership.given first token →
    ownership.given second token
  stable : ∀ input trace value first second, grows first second → post input trace value first →
    post input trace value second
  acts : ∀ first second, inv first → environment first second →
    inv second ∧ grows first second ∧
      ∀ token, ownership.given first token → ownership.same token first second
  owning : ∀ input state, Owning ownership world inv grows (post input) [] (start input) state

section Grow

variable {ownership : Ownership Request Answer State Token} {world : World Request Answer State}
  {inv : State → Prop} {grows : State → State → Prop}
  {post : List (Event Request Answer) → α → State → Prop}

/-- Owning survives what others do. -/
theorem Owning.spared {program : Program Request Answer α} {trace : List (Event Request Answer)}
    {first second : State} (owning : Owning ownership world inv grows post trace program first)
    (trans : ∀ first second third, grows first second → grows second third → grows first third)
    (sameTrans : ∀ token first second third, ownership.same token first second →
      ownership.same token second third → ownership.same token first third)
    (stable : ∀ trace value first second, grows first second → post trace value first →
      post trace value second)
    (spared : Spared ownership grows trace first second) :
    Owning ownership world inv grows post trace program second := by
  cases program with
  | done value => exact stable trace value first second spared.grown owning
  | ask request next =>
      intro middle answer after more holds answered
      refine owning middle answer after ⟨trans _ _ _ spared.grown more.grown, fun token owned => ?_⟩
        holds answered
      exact sameTrans _ _ _ _ (spared.same token owned) (more.same token owned)

end Grow

namespace Fenced

variable {ownership : Ownership Request Answer State Token}
  {start : Input → Program Request Answer α} {world : World Request Answer State}
  {environment : State → State → Prop} {inv : State → Prop} {grows : State → State → Prop}
  {post : Input → List (Event Request Answer) → α → State → Prop} {initial : State}
  {pool : Pool Input Request Answer α State}

/-- What holds of every reachable pool. -/
structure Fence (ownership : Ownership Request Answer State Token)
    (world : World Request Answer State) (inv : State → Prop) (grows : State → State → Prop)
    (post : Input → List (Event Request Answer) → α → State → Prop)
    (pool : Pool Input Request Answer α State) : Prop where
  holds : inv pool.shared
  apart : pool.tasks.Pairwise (Apart ownership)
  given : ∀ task ∈ pool.tasks, ∀ token ∈ ownership.owned task.trace,
    ownership.given pool.shared token
  owning : ∀ task ∈ pool.tasks,
    Owning ownership world inv grows (post task.input) task.trace task.program pool.shared

/-- A task among the others. -/
theorem pairwise_middle {before later : List (Task Input Request Answer α)}
    {task : Task Input Request Answer α} : (before ++ task :: later).Pairwise (Apart ownership) ↔
      (∀ other ∈ before ++ later, Apart ownership task other) ∧
        (before ++ later).Pairwise (Apart ownership) := by
  rw [List.perm_middle.pairwise_iff Apart.symm, List.pairwise_cons]

theorem forall_mem_middle {holds : Task Input Request Answer α → Prop}
    {before later : List (Task Input Request Answer α)} {task : Task Input Request Answer α} :
    (∀ other ∈ before ++ task :: later, holds other) ↔
      holds task ∧ ∀ other ∈ before ++ later, holds other := by
  simp only [List.mem_append, List.mem_cons, or_left_comm (b := _ = task), forall_eq_or_imp]

/-- **One step keeps the fence.** -/
theorem step (fenced : Fenced ownership start world environment inv grows post)
    {next : Pool Input Request Answer α State} (fence : Fence ownership world inv grows post pool)
    (step : Pool.Step start world environment pool next) :
    Fence ownership world inv grows post next := by
  obtain ⟨holds, apart, given, owning⟩ := fence
  have others {first second : State} (task : Task Input Request Answer α)
      (before : Owning ownership world inv grows (post task.input) task.trace task.program first)
      (spared : Spared ownership grows task.trace first second) :
      Owning ownership world inv grows (post task.input) task.trace task.program second :=
    before.spared fenced.trans fenced.sameTrans (fenced.stable task.input) spared
  cases step with
  | spawn input =>
      exact ⟨holds, List.pairwise_cons.mpr ⟨fun _ _ token owned => (by cases owned), apart⟩,
        List.forall_mem_cons.mpr ⟨fun token owned => (by cases owned), given⟩,
        List.forall_mem_cons.mpr ⟨fenced.owning input _, owning⟩⟩
  | cancel =>
      exact ⟨holds, (pairwise_middle.mp apart).2, (forall_mem_middle.mp given).2,
        (forall_mem_middle.mp owning).2⟩
  | surroundings act =>
      obtain ⟨kept, grown, left⟩ := fenced.acts _ _ holds act
      exact ⟨kept, apart, fun task member token owned =>
          fenced.given _ _ _ grown (given task member token owned),
        fun task member => others task (owning task member)
          ⟨grown, fun token owned => left token (given task member token owned)⟩⟩
  | @run shared after before later input trace request next answer answered =>
      obtain ⟨mine, theirs⟩ := pairwise_middle.mp apart
      obtain ⟨had, given'⟩ := forall_mem_middle.mp given
      obtain ⟨running, waiting⟩ := forall_mem_middle.mp owning
      obtain ⟨kept, grown, left, rest⟩ := running shared answer after
        ⟨fenced.refl shared, fun token _ => fenced.sameRefl token shared⟩ holds answered
      have news : ∀ token, ownership.gives ⟨request, answer⟩ = some token →
          ∀ other ∈ before ++ later, token ∉ ownership.owned other.trace := by
        intro token gives other member owned
        exact (fenced.fresh _ _ _ _ _ answered gives).1 (given' other member token owned)
      refine ⟨kept, pairwise_middle.mpr ⟨fun other member token owned => ?_, theirs⟩,
        forall_mem_middle.mpr ⟨fun token owned => ?_, fun other member token owned =>
          fenced.given _ _ _ grown (given' other member token owned)⟩,
        forall_mem_middle.mpr ⟨rest, fun other member => others other (waiting other member)
          ⟨grown, fun token owned => left token (given' other member token owned) fun here =>
            mine other member token here owned⟩⟩⟩
      · rcases Ownership.mem_owned_append.mp owned with before | gives
        · exact mine other member token before
        · exact news token gives other member
      · rcases Ownership.mem_owned_append.mp owned with before | gives
        · exact fenced.given _ _ _ grown (had token before)
        · exact (fenced.fresh _ _ _ _ _ answered gives).2

/-- **Every reachable pool is fenced.** -/
theorem reachable (fenced : Fenced ownership start world environment inv grows post)
    (begins : inv initial) (reached : pool.Reachable start world environment initial) :
    Fence ownership world inv grows post pool := by
  induction reached with
  | refl => exact ⟨begins, List.Pairwise.nil, by simp, by simp⟩
  | tail _ step ih => exact fenced.step ih step

/-- A finished task satisfies its postcondition. -/
theorem finished (fenced : Fenced ownership start world environment inv grows post)
    (begins : inv initial) (reached : pool.Reachable start world environment initial)
    {task : Task Input Request Answer α} (member : task ∈ pool.tasks) {value : α}
    (done : task.program = .done value) : post task.input task.trace value pool.shared := by
  have owning := (fenced.reachable begins reached).owning task member
  rwa [done] at owning

end Fenced

end Interaction
