/-
**Programs running in a world.**

A world says, for every request and every state, which answers it may give and which states it may
be left in. It is a relation, so that failures, clocks and other surroundings can stay open.

* `Program.Runs`: the complete runs of a program in a world; `runs_bind` and `runs_run_bind` sequence
  them, `Runs.preserves` and `Runs.logs` carry over a run what every answer preserves or logs, and
  `Runs.forward` and `Runs.simulates` show it in another world.
* `Program.Ends`: the same without the trace, with the rules that run a program step by step.
* `Program.Drops`: the runs cut short at a suspension point, where the answer the program was
  waiting for is lost and the request may or may not have been carried out.
* `Program.Visits`: the states a program can be stopped in between two requests, and
  `Program.Secures`: a triple whose crash condition holds in each of them; `secures_bind` and
  `secures_run_bind` sequence it.
* `isChain_forall_iff`: a property kept by every step but the bad ones, which all break it, holds
  along a chain of steps exactly when none of them is bad.
-/

import Omdesky.Interaction.Program

namespace Interaction

/-- What a request does: asked in a state, the answers it may get and the states it may leave. -/
abbrev World (Request : Type) (Answer : Request → Type) (State : Type) :=
  (request : Request) → State → Answer request → State → Prop

namespace Program

variable {Request : Type} {Answer : Request → Type} {State : Type} {α β : Type}
  {world : World Request Answer State}

/-! ### Complete runs -/

/-- The program can run from `state` to `final`, causing `trace` and finishing with `value`. -/
def Runs (world : World Request Answer State) :
    Program Request Answer α → State → List (Event Request Answer) → α → State → Prop
  | .done result, state, trace, value, final => trace = [] ∧ value = result ∧ final = state
  | .ask request next, state, trace, value, final => ∃ answer middle rest,
      trace = ⟨request, answer⟩ :: rest ∧ world request state answer middle ∧
        Runs world (next answer) middle rest value final

theorem runs_bind {first : Program Request Answer α} {second : α → Program Request Answer β} :
    ∀ {state final : State} {trace : List (Event Request Answer)} {value : β},
      Runs world (first >>= second) state trace value final ↔ ∃ before after result middle,
        trace = before ++ after ∧ Runs world first state before result middle ∧
          Runs world (second result) middle after value final := by
  induction first with
  | done result =>
      intro state final trace value
      constructor
      · exact fun run => ⟨[], trace, result, state, rfl, ⟨rfl, rfl, rfl⟩, run⟩
      · rintro ⟨before, after, middle, state', rfl, ⟨rfl, rfl, rfl⟩, run⟩
        exact run
  | ask request next ih =>
      intro state final trace value
      constructor
      · rintro ⟨answer, middle, rest, rfl, step, run⟩
        obtain ⟨before, after, result, later, rfl, early, late⟩ := (ih answer).mp run
        exact ⟨⟨request, answer⟩ :: before, after, result, later, rfl,
          ⟨answer, middle, before, rfl, step, early⟩, late⟩
      · rintro ⟨before, after, result, later, rfl, ⟨answer, middle, rest, rfl, step, early⟩, late⟩
        exact ⟨answer, middle, rest ++ after, rfl, step,
          (ih answer).mpr ⟨rest, after, result, later, rfl, early, late⟩⟩

/-- The run of a program that may fail: its first part failed, or both parts ran. -/
theorem runs_run_bind {ε : Type} {first : ExceptT ε (Program Request Answer) α}
    {second : α → ExceptT ε (Program Request Answer) β} {state final : State}
    {trace : List (Event Request Answer)} {result : Except ε β} :
    Runs world (first >>= second).run state trace result final ↔
      (∃ error, result = .error error ∧ Runs world first.run state trace (.error error) final) ∨
        ∃ before after value middle, trace = before ++ after ∧
          Runs world first.run state before (.ok value) middle ∧
            Runs world (second value).run middle after result final := by
  rw [ExceptT.run_bind, runs_bind]
  constructor
  · rintro ⟨before, after, error | value, middle, rfl, early, late⟩
    · obtain ⟨rfl, rfl, rfl⟩ := late
      exact .inl ⟨error, rfl, by rwa [List.append_nil]⟩
    · exact .inr ⟨before, after, value, middle, rfl, early, late⟩
  · rintro (⟨error, rfl, early⟩ | ⟨before, after, value, middle, rfl, early, late⟩)
    · exact ⟨trace, [], .error error, final, (List.append_nil _).symm, early, rfl, rfl, rfl⟩
    · exact ⟨before, after, .ok value, middle, rfl, early, late⟩

/-- A run in a world is a trace of the program. -/
theorem Runs.traces {program : Program Request Answer α} :
    ∀ {state final : State} {trace : List (Event Request Answer)} {value : α},
      Runs world program state trace value final → Traces program trace value := by
  induction program with
  | done result =>
      rintro state final trace value ⟨rfl, rfl, rfl⟩
      exact ⟨rfl, rfl⟩
  | ask request next ih =>
      rintro state final trace value ⟨answer, middle, rest, rfl, _, run⟩
      exact ⟨answer, rest, rfl, ih answer run⟩

/-- A trace runs in a world without a state that may answer so. -/
theorem Traces.runs {world : World Request Answer Unit} {program : Program Request Answer α} :
    ∀ {trace : List (Event Request Answer)} {value : α}, Traces program trace value →
      (∀ event ∈ trace, world event.1 () event.2 ()) → Runs world program () trace value () := by
  induction program with
  | done result =>
      rintro trace value ⟨rfl, rfl⟩ _
      exact ⟨rfl, rfl, rfl⟩
  | ask request next ih =>
      rintro trace value ⟨answer, rest, rfl, run⟩ answers
      obtain ⟨first, others⟩ := List.forall_mem_cons.mp answers
      exact ⟨answer, (), rest, rfl, first, ih answer run others⟩

/-- **What every answer preserves, a run preserves.** -/
theorem Runs.preserves (grows : State → State → Prop) (refl : ∀ state, grows state state)
    (trans : ∀ {first second third}, grows first second → grows second third → grows first third)
    (step : ∀ request state answer next, world request state answer next → grows state next)
    {program : Program Request Answer α} :
    ∀ {state final : State} {trace : List (Event Request Answer)} {value : α},
      Runs world program state trace value final → grows state final := by
  induction program with
  | done result =>
      rintro state final trace value ⟨rfl, rfl, rfl⟩
      exact refl _
  | ask request next ih =>
      rintro state final trace value ⟨answer, middle, rest, rfl, answered, run⟩
      exact trans (step _ _ _ _ answered) (ih answer run)

/-- **A run with a log.** If every answer logs what it does to a part of the state, newest first, then
so does every run. -/
theorem Runs.logs {Effect Part : Type} (log : State → List Effect) (part : State → Part)
    (replay : Part → List Effect → Part) (nil : ∀ before, replay before [] = before)
    (append : ∀ before effects earlier,
      replay before (effects ++ earlier) = replay (replay before earlier) effects)
    (step : ∀ request state answer next, world request state answer next →
      ∃ effects, log next = effects ++ log state ∧ part next = replay (part state) effects)
    {program : Program Request Answer α} {state final : State} {trace : List (Event Request Answer)}
    {value : α} (run : Runs world program state trace value final) :
    ∃ effects, log final = effects ++ log state ∧ part final = replay (part state) effects := by
  refine Runs.preserves (fun first second => ∃ effects, log second = effects ++ log first ∧
    part second = replay (part first) effects) (fun state => ⟨[], rfl, (nil _).symm⟩) ?_ step run
  rintro first second third ⟨early, sameLog, same⟩ ⟨late, laterLog, later⟩
  refine ⟨late ++ early, ?_, ?_⟩
  · rw [laterLog, sameLog, List.append_assoc]
  · rw [later, same, append]

/-- **Forward simulation.** If every answer of the one world can be given by the other, from a related
state to a related state, then every run of the one can be followed in the other. -/
theorem Runs.forward {State' : Type} {other : World Request Answer State'}
    (related : State → State' → Prop)
    (step : ∀ request state answer next state', related state state' →
      world request state answer next → ∃ next', other request state' answer next' ∧
        related next next') {program : Program Request Answer α} :
    ∀ {state final : State} {state' : State'} {trace : List (Event Request Answer)} {value : α},
      related state state' → Runs world program state trace value final →
        ∃ final', Runs other program state' trace value final' ∧ related final final' := by
  induction program with
  | done result =>
      rintro state final state' trace value start ⟨rfl, rfl, rfl⟩
      exact ⟨state', ⟨rfl, rfl, rfl⟩, start⟩
  | ask request next ih =>
      rintro state final state' trace value start ⟨answer, middle, rest, rfl, answered, run⟩
      obtain ⟨middle', answered', between⟩ := step _ _ _ _ _ start answered
      obtain ⟨final', run', finish⟩ := ih answer between run
      exact ⟨final', ⟨answer, middle', rest, rfl, answered', run'⟩, finish⟩

/-- **A run seen in another world.** If every answer of the one world is an answer of the other, under
a view of the states, so is every run. -/
theorem Runs.simulates {State' : Type} {other : World Request Answer State'} (view : State → State')
    (step : ∀ request state answer next, world request state answer next →
      other request (view state) answer (view next)) {program : Program Request Answer α} :
    ∀ {state final : State} {trace : List (Event Request Answer)} {value : α},
      Runs world program state trace value final →
        Runs other program (view state) trace value (view final) := by
  intro state final trace value run
  obtain ⟨_, seen, rfl⟩ : ∃ final', Runs other program (view state) trace value final' ∧
      final' = view final := by
    refine Runs.forward (fun state state' => state' = view state) ?_ rfl run
    rintro request state answer next _ rfl answered
    exact ⟨view next, step _ _ _ _ answered, rfl⟩
  exact seen

/-! ### Runs without their traces -/

/-- The program can run from `state` to `final` and finish with `value`. -/
def Ends (world : World Request Answer State) (program : Program Request Answer α) (state : State)
    (value : α) (final : State) : Prop :=
  ∃ trace, Runs world program state trace value final

@[simp] theorem ends_done {result value : α} {state final : State} :
    Ends world (.done result) state value final ↔ value = result ∧ final = state := by
  simp [Ends, Runs]

theorem ends_ask {request : Request} {next : Answer request → Program Request Answer α}
    {state final : State} {value : α} :
    Ends world (.ask request next) state value final ↔
      ∃ answer middle, world request state answer middle ∧
        Ends world (next answer) middle value final := by
  constructor
  · rintro ⟨trace, answer, middle, rest, rfl, answered, run⟩
    exact ⟨answer, middle, answered, rest, run⟩
  · rintro ⟨answer, middle, answered, rest, run⟩
    exact ⟨_, answer, middle, rest, rfl, answered, run⟩

/-- **The run under given answers** is one of the runs, if the world may give them. -/
theorem ends_under {world : World Request Answer Unit} {answers : ∀ request, Answer request}
    (answered : ∀ request, world request () (answers request) ())
    (program : Program Request Answer α) : Ends world program () (under answers program).2 () := by
  induction program with
  | done result => exact ends_done.mpr ⟨rfl, rfl⟩
  | ask request next ih => exact ends_ask.mpr ⟨_, (), answered request, ih _⟩

/-- A request with one possible answer. -/
theorem ends_ask_of_eq {request : Request} {next : Answer request → Program Request Answer α}
    {state middle final : State} {answer : Answer request} {value : α}
    (determined : ∀ given reached, world request state given reached ↔
      given = answer ∧ reached = middle) :
    Ends world (.ask request next) state value final ↔
      Ends world (next answer) middle value final := by
  simp [ends_ask, determined]

/-- A function of what a program returns. -/
theorem ends_map {changed : α → β} {program : Program Request Answer α} {state final : State}
    {value : β} : Ends world (changed <$> program) state value final ↔
      ∃ result, value = changed result ∧ Ends world program state result final := by
  induction program generalizing state with
  | done result =>
      change Ends world (.done (changed result)) state value final ↔ _
      simp
  | ask request next ih =>
      change Ends world (.ask request fun answer => changed <$> next answer) state value final ↔ _
      simp only [ends_ask, ih]
      constructor
      · rintro ⟨answer, middle, answered, result, rfl, run⟩
        exact ⟨result, rfl, answer, middle, answered, run⟩
      · rintro ⟨result, rfl, answer, middle, answered, run⟩
        exact ⟨answer, middle, answered, result, rfl, run⟩

/-- A program inside a larger interface runs as it does where the larger world answers it. -/
theorem ends_within {Outer : Type} {Reply : Outer → Type} {outer : World Outer Reply State}
    {into : Request → Outer} {program : Program Request (fun request => Reply (into request)) α}
    {state final : State} {value : α} :
    Ends outer (within into program) state value final ↔
      Ends (fun request => outer (into request)) program state value final := by
  induction program generalizing state with
  | done result => rw [within, ends_done, ends_done]
  | ask request next ih =>
      rw [within, ends_ask, ends_ask]
      simp only [ih]

/-- One request on its own. -/
theorem ends_perform {request : Request} {answer : Answer request} {state final : State} :
    Ends world (perform request) state answer final ↔ world request state answer final := by
  constructor
  · rintro ⟨_, _, _, _, _, answered, _, rfl, rfl⟩
    exact answered
  · intro answered
    exact ⟨_, _, _, _, rfl, answered, rfl, rfl, rfl⟩

/-- A program after another. -/
theorem ends_bind {first : Program Request Answer α} {second : α → Program Request Answer β}
    {state final : State} {value : β} : Ends world (first >>= second) state value final ↔
      ∃ result middle, Ends world first state result middle ∧
        Ends world (second result) middle value final := by
  constructor
  · rintro ⟨trace, run⟩
    obtain ⟨before, after, result, middle, _, early, late⟩ := runs_bind.mp run
    exact ⟨result, middle, ⟨before, early⟩, ⟨after, late⟩⟩
  · rintro ⟨result, middle, ⟨before, early⟩, ⟨after, late⟩⟩
    exact ⟨_, runs_bind.mpr ⟨before, after, result, middle, rfl, early, late⟩⟩

/-- A program that may fail ends early with the error of its first part, or goes on. -/
theorem ends_run_bind {ε : Type} {first : ExceptT ε (Program Request Answer) α}
    {second : α → ExceptT ε (Program Request Answer) β} {state final : State} {result : Except ε β} :
    Ends world (first >>= second).run state result final ↔
      (∃ error, result = .error error ∧ Ends world first.run state (.error error) final) ∨
        ∃ value middle, Ends world first.run state (.ok value) middle ∧
          Ends world (second value).run middle result final := by
  constructor
  · rintro ⟨trace, run⟩
    obtain ⟨error, same, early⟩ | ⟨before, after, value, middle, _, early, late⟩ :=
      runs_run_bind.mp run
    · exact .inl ⟨error, same, _, early⟩
    · exact .inr ⟨value, middle, ⟨_, early⟩, ⟨_, late⟩⟩
  · rintro (⟨error, same, _, early⟩ | ⟨value, middle, ⟨_, early⟩, ⟨_, late⟩⟩)
    · exact ⟨_, runs_run_bind.mpr (.inl ⟨error, same, early⟩)⟩
    · exact ⟨_, runs_run_bind.mpr (.inr ⟨_, _, value, middle, rfl, early, late⟩)⟩

/-- A first part with one possible end, a success. -/
theorem ends_run_ok {ε : Type} {first : ExceptT ε (Program Request Answer) α}
    {second : α → ExceptT ε (Program Request Answer) β} {state middle final : State} {value : α}
    {result : Except ε β} (determined : ∀ outcome reached,
      Ends world first.run state outcome reached ↔ outcome = .ok value ∧ reached = middle) :
    Ends world (first >>= second).run state result final ↔
      Ends world (second value).run middle result final := by
  rw [ends_run_bind]
  constructor
  · rintro (⟨error, _, early⟩ | ⟨value', middle', early, late⟩)
    · cases ((determined _ _).mp early).1
    · obtain ⟨⟨⟩, rfl⟩ := (determined _ _).mp early
      exact late
  · exact fun late => .inr ⟨value, middle, (determined _ _).mpr ⟨rfl, rfl⟩, late⟩

/-- A first part with one possible end, an error. -/
theorem ends_run_error {ε : Type} {first : ExceptT ε (Program Request Answer) α}
    {second : α → ExceptT ε (Program Request Answer) β} {state middle final : State} {error : ε}
    {result : Except ε β} (determined : ∀ outcome reached,
      Ends world first.run state outcome reached ↔ outcome = .error error ∧ reached = middle) :
    Ends world (first >>= second).run state result final ↔
      result = .error error ∧ final = middle := by
  rw [ends_run_bind]
  constructor
  · rintro (⟨error', same, early⟩ | ⟨value, middle', early, late⟩)
    · obtain ⟨⟨⟩, rfl⟩ := (determined _ _).mp early
      exact ⟨same, rfl⟩
    · cases ((determined _ _).mp early).1
  · rintro ⟨rfl, rfl⟩
    exact .inl ⟨error, rfl, (determined _ _).mpr ⟨rfl, rfl⟩⟩

/-- A function of what a program returns, if it returns no error. -/
theorem ends_run_map {ε : Type} {convert : α → β} {program : ExceptT ε (Program Request Answer) α}
    {state final : State} {result : Except ε β}
    (run : Ends world (convert <$> program).run state result final) :
    ∃ inner, Ends world program.run state inner final ∧ result = inner.map convert := by
  obtain ⟨trace, run⟩ := run
  obtain ⟨_, _, inner, middle, rfl, early, late⟩ := runs_bind.mp run
  cases inner with
  | error error =>
      obtain ⟨rfl, rfl, rfl⟩ := late
      exact ⟨_, ⟨_, early⟩, rfl⟩
  | ok value =>
      obtain ⟨rfl, rfl, rfl⟩ := late
      exact ⟨_, ⟨_, early⟩, rfl⟩

/-- A program that may fail succeeds when both its parts do. -/
theorem ends_run_bind_ok {ε : Type} {first : ExceptT ε (Program Request Answer) α}
    {second : α → ExceptT ε (Program Request Answer) β} {state final : State} {value : β} :
    Ends world (first >>= second).run state (.ok value) final ↔ ∃ result middle,
      Ends world first.run state (.ok result) middle ∧
        Ends world (second result).run middle (.ok value) final := by
  constructor
  · rintro ⟨trace, run⟩
    obtain ⟨error, ⟨⟩, _⟩ | ⟨before, after, result, middle, rfl, early, late⟩ :=
      runs_run_bind.mp run
    exact ⟨result, middle, ⟨before, early⟩, ⟨after, late⟩⟩
  · rintro ⟨result, middle, ⟨before, early⟩, ⟨after, late⟩⟩
    exact ⟨before ++ after, runs_run_bind.mpr (.inr ⟨before, after, result, middle, rfl, early,
      late⟩)⟩

/-! ### Runs cut short -/

/-- The program is dropped while it waits for the request `cut`, at which it `suspends`: either
nothing was done for it, or it was `carried` out and its answer is lost. -/
def Drops (world : World Request Answer State) (suspends : Request → Prop) :
    Program Request Answer α → State → Request → Bool → State → Prop
  | .done _, _, _, _, _ => False
  | .ask request next, state, cut, carried, final =>
      (suspends request ∧ cut = request ∧ if carried then ∃ answer, world request state answer final
        else final = state) ∨
      ∃ answer middle, world request state answer middle ∧
        Drops world suspends (next answer) middle cut carried final

variable {suspends : Request → Prop}

@[simp] theorem not_drops_done {result : α} {state final : State} {cut : Request}
    {carried : Bool} : ¬ Drops world suspends (.done result) state cut carried final := id

theorem drops_ask {request : Request} {next : Answer request → Program Request Answer α}
    {state final : State} {cut : Request} {carried : Bool} :
    Drops world suspends (.ask request next) state cut carried final ↔
      (suspends request ∧ cut = request ∧ if carried then ∃ answer, world request state answer final
        else final = state) ∨
      ∃ answer middle, world request state answer middle ∧
        Drops world suspends (next answer) middle cut carried final := Iff.rfl

/-! ### Runs stopped between two requests -/

/-- The state in which the program can be stopped, before, between or after its requests. -/
def Visits (world : World Request Answer State) : Program Request Answer α → State → State → Prop
  | .done _, state, visited => visited = state
  | .ask request next, state, visited => visited = state ∨ ∃ answer middle,
      world request state answer middle ∧ Visits world (next answer) middle visited

/-- After the events `past`, the rest of the program meets the crash condition wherever it is
stopped, and finishes with the postcondition. -/
def Secures (world : World Request Answer State) (crash : State → Prop)
    (post : List (Event Request Answer) → α → State → Prop) :
    List (Event Request Answer) → Program Request Answer α → State → Prop
  | past, .done value, state => crash state ∧ post past value state
  | past, .ask request next, state => crash state ∧ ∀ answer middle,
      world request state answer middle →
        Secures world crash post (past ++ [⟨request, answer⟩]) (next answer) middle

section Secures

variable {crash : State → Prop} {post : List (Event Request Answer) → β → State → Prop}
  {past : List (Event Request Answer)} {state : State}

theorem secures_done {value : β} (safe : crash state) (holds : post past value state) :
    Secures world crash post past (.done value) state := ⟨safe, holds⟩

theorem secures_ask {request : Request} {next : Answer request → Program Request Answer β}
    (safe : crash state) (later : ∀ answer middle, world request state answer middle →
      Secures world crash post (past ++ [⟨request, answer⟩]) (next answer) middle) :
    Secures world crash post past (.ask request next) state := ⟨safe, later⟩

/-- **Sequencing.** The first program establishes that the second is secure. -/
theorem secures_bind {first : Program Request Answer α} {second : α → Program Request Answer β}
    (secure : Secures world crash (fun past value state =>
      Secures world crash post past (second value) state) past first state) :
    Secures world crash post past (first >>= second) state := by
  induction first generalizing past state with
  | done value => exact secure.2
  | ask request next ih =>
      exact ⟨secure.1, fun answer middle answered => ih answer (secure.2 answer middle answered)⟩

/-- A weaker crash condition and a weaker postcondition. -/
theorem Secures.weaken {program : Program Request Answer β} {broken : State → Prop}
    {other : List (Event Request Answer) → β → State → Prop}
    (weakens : ∀ state, crash state → broken state)
    (weaker : ∀ past value state, post past value state → other past value state)
    (secure : Secures world crash post past program state) :
    Secures world broken other past program state := by
  induction program generalizing past state with
  | done value => exact ⟨weakens _ secure.1, weaker _ _ _ secure.2⟩
  | ask request next ih =>
      exact ⟨weakens _ secure.1, fun answer middle answered =>
        ih answer (secure.2 answer middle answered)⟩

theorem secures_run_bind {ε : Type} {first : ExceptT ε (Program Request Answer) α}
    {second : α → ExceptT ε (Program Request Answer) β}
    {post : List (Event Request Answer) → Except ε β → State → Prop}
    (secure : Secures world crash (fun past result state =>
      match result with
      | .ok value => Secures world crash post past (second value).run state
      | .error error => crash state ∧ post past (.error error) state) past first.run state) :
    Secures world crash post past (first >>= second).run state := by
  rw [ExceptT.run_bind]
  refine secures_bind (Secures.weaken (fun _ => id) ?_ secure)
  rintro past (error | value) state secure
  · exact secure
  · exact secure

theorem Secures.visits {program : Program Request Answer β}
    (secure : Secures world crash post past program state) {visited : State}
    (visits : Visits world program state visited) : crash visited := by
  induction program generalizing past state with
  | done value =>
      obtain rfl := visits
      exact secure.1
  | ask request next ih =>
      obtain rfl | ⟨answer, middle, answered, visits⟩ := visits
      · exact secure.1
      · exact ih answer (secure.2 answer middle answered) visits

theorem Secures.runs {program : Program Request Answer β}
    (secure : Secures world crash post past program state) {trace : List (Event Request Answer)}
    {value : β} {final : State} (run : Runs world program state trace value final) :
    post (past ++ trace) value final := by
  induction program generalizing past state trace with
  | done result =>
      obtain ⟨rfl, rfl, rfl⟩ := run
      rw [List.append_nil]
      exact secure.2
  | ask request next ih =>
      obtain ⟨answer, middle, rest, rfl, answered, run⟩ := run
      rw [List.append_cons]
      exact ih answer (secure.2 answer middle answered) run

end Secures

end Program

/-! ### Chains of steps -/

/-- **Good along a chain exactly when no step of it is bad**, if the other steps keep the property
and a bad step always breaks it. -/
theorem isChain_forall_iff {State : Type} {step bad : State → State → Prop} {good : State → Prop}
    {start : State} {states : List State} (chain : (start :: states).IsChain step)
    (holds : good start)
    (keeps : ∀ first second, step first second → good first → ¬ bad first second → good second)
    (breaks : ∀ first second, step first second → good first → bad first second → ¬ good second) :
    (∀ state ∈ start :: states, good state) ↔
      (start :: states).IsChain fun first second => ¬ bad first second := by
  induction states generalizing start with
  | nil => simpa using holds
  | cons next rest ih =>
      obtain ⟨stepped, chain⟩ := List.isChain_cons_cons.mp chain
      rw [List.isChain_cons_cons, List.forall_mem_cons, and_iff_right holds]
      constructor
      · intro good
        have here := good next List.mem_cons_self
        exact ⟨fun isBad => breaks _ _ stepped holds isBad here, (ih chain here).mp good⟩
      · rintro ⟨fine, later⟩
        exact (ih chain (keeps _ _ stepped holds fine)).mpr later

end Interaction
