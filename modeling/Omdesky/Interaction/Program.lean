/-
**Programs over an interface of requests.**

A program finishes with a value, or asks one request of its surroundings and goes on with the
answer. It says nothing about what a request does: that is left to the world it runs in.

* `Program.bind`: the monad, so that programs are written in `do` notation.
* `Program.perform`: one request, its answer returned.
* `Event`, `Program.Traces`: the complete runs of a program as lists of requests with their answers,
  whatever the answers are, with the rules for sequencing (`traces_bind`).
* `Program.under`: the run in which every request gets the answer that is given for it.
* `Program.Leaves`: what remains of a program that is under way.
* `Program.within`: a program inside a larger interface.
* `Program.Uses`: which requests a program can make at all.
* `Program.Along`: a property of every event a program can cause, given the events before it.
* `Program.Follows`: the same with a postcondition; `follows_bind` sequences it.
* `Program.Guarded`: a triple for programs that may fail; `guarded_bind` sequences them.
-/

import Mathlib.Tactic.Common

namespace Interaction

/-- A program over requests `Request`, each answered by an `Answer` of its own. -/
inductive Program (Request : Type) (Answer : Request → Type) (α : Type) : Type
  | done (value : α)
  | ask (request : Request) (next : Answer request → Program Request Answer α)

/-- A request together with the answer it got. -/
abbrev Event (Request : Type) (Answer : Request → Type) := Σ request : Request, Answer request

namespace Program

variable {Request : Type} {Answer : Request → Type} {α β : Type}

/-! ### The monad -/

/-- Run `first`, then the program its value names. -/
def bind (first : Program Request Answer α) (second : α → Program Request Answer β) :
    Program Request Answer β :=
  match first with
  | .done value => second value
  | .ask request next => .ask request fun answer => (next answer).bind second

instance : Monad (Program Request Answer) where
  pure := .done
  bind := bind

/-- Ask one request and return its answer. -/
def perform (request : Request) : Program Request Answer (Answer request) :=
  .ask request .done

@[simp] theorem pure_eq (value : α) : (pure value : Program Request Answer α) = .done value := rfl

@[simp] theorem done_bind (value : α) (second : α → Program Request Answer β) :
    Program.done value >>= second = second value := rfl

@[simp] theorem ask_bind (request : Request) (next : Answer request → Program Request Answer α)
    (second : α → Program Request Answer β) :
    Program.ask request next >>= second = .ask request fun answer => next answer >>= second := rfl

@[simp] theorem perform_bind (request : Request)
    (second : Answer request → Program Request Answer β) :
    perform request >>= second = .ask request second := rfl

/-! ### Complete traces -/

/-- The program can finish with `value` after exactly the events of `trace`. -/
def Traces : Program Request Answer α → List (Event Request Answer) → α → Prop
  | .done result, trace, value => trace = [] ∧ value = result
  | .ask request next, trace, value => ∃ answer rest,
      trace = ⟨request, answer⟩ :: rest ∧ Traces (next answer) rest value

theorem traces_bind {first : Program Request Answer α} {second : α → Program Request Answer β} :
    ∀ {trace : List (Event Request Answer)} {value : β},
      Traces (first >>= second) trace value ↔ ∃ before after middle,
        trace = before ++ after ∧ Traces first before middle ∧
          Traces (second middle) after value := by
  induction first with
  | done result =>
      intro trace value
      constructor
      · exact fun run => ⟨[], trace, result, rfl, ⟨rfl, rfl⟩, run⟩
      · rintro ⟨before, after, middle, rfl, ⟨rfl, rfl⟩, run⟩
        exact run
  | ask request next ih =>
      intro trace value
      constructor
      · rintro ⟨answer, rest, rfl, run⟩
        obtain ⟨before, after, middle, rfl, early, late⟩ := (ih answer).mp run
        exact ⟨⟨request, answer⟩ :: before, after, middle, rfl, ⟨answer, before, rfl, early⟩, late⟩
      · rintro ⟨before, after, middle, rfl, ⟨answer, rest, rfl, early⟩, late⟩
        exact ⟨answer, rest ++ after, rfl, (ih answer).mpr ⟨rest, after, middle, rfl, early, late⟩⟩

/-- The trace of a program that may fail: its first part failed, or both parts ran. -/
theorem traces_run_bind {ε : Type} {first : ExceptT ε (Program Request Answer) α}
    {second : α → ExceptT ε (Program Request Answer) β} {trace : List (Event Request Answer)}
    {result : Except ε β} :
    Traces (first >>= second).run trace result ↔
      (∃ error, result = .error error ∧ Traces first.run trace (.error error)) ∨
        ∃ before after value, trace = before ++ after ∧ Traces first.run before (.ok value) ∧
          Traces (second value).run after result := by
  rw [ExceptT.run_bind, traces_bind]
  constructor
  · rintro ⟨before, after, error | value, rfl, early, late⟩
    · obtain ⟨rfl, rfl⟩ := late
      exact .inl ⟨error, rfl, by rwa [List.append_nil]⟩
    · exact .inr ⟨before, after, value, rfl, early, late⟩
  · rintro (⟨error, rfl, early⟩ | ⟨before, after, value, rfl, early, late⟩)
    · exact ⟨trace, [], .error error, (List.append_nil _).symm, early, rfl, rfl⟩
    · exact ⟨before, after, .ok value, rfl, early, late⟩

/-! ### Given answers -/

/-- What the program asks, and its value, when every request gets the answer given for it. -/
def under (answers : ∀ request, Answer request) : Program Request Answer α → List Request × α
  | .done value => ([], value)
  | .ask request next =>
      let later := under answers (next (answers request))
      (request :: later.1, later.2)

theorem under_bind (answers : ∀ request, Answer request) (first : Program Request Answer α)
    (second : α → Program Request Answer β) : under answers (first >>= second) =
      ((under answers first).1 ++ (under answers (second (under answers first).2)).1,
        (under answers (second (under answers first).2)).2) := by
  induction first with
  | done value => rfl
  | ask request next ih =>
      rw [ask_bind, under, ih]
      rfl

/-- A program that may fail goes on with the value of its first part, if there is one. -/
theorem under_run_bind {ε : Type} (answers : ∀ request, Answer request)
    (first : ExceptT ε (Program Request Answer) α)
    (second : α → ExceptT ε (Program Request Answer) β) : under answers (first >>= second).run =
      match under answers first.run with
      | (asked, .error error) => (asked, .error error)
      | (asked, .ok value) =>
          (asked ++ (under answers (second value).run).1, (under answers (second value).run).2) := by
  rw [ExceptT.run_bind, under_bind]
  rcases under answers first.run with ⟨asked, error | value⟩
  · exact Prod.ext (List.append_nil asked) rfl
  · rfl

/-! ### A program under way -/

/-- After the events of a trace, `rest` remains of the program. -/
inductive Leaves (program : Program Request Answer α) :
    List (Event Request Answer) → Program Request Answer α → Prop
  | begun : Leaves program [] program
  | event {trace request next} (answer : Answer request)
      (earlier : Leaves program trace (.ask request next)) :
      Leaves program (trace ++ [⟨request, answer⟩]) (next answer)

namespace Leaves

variable {program rest : Program Request Answer α} {trace : List (Event Request Answer)}

/-- What the rest does completes the trace. -/
theorem traces (leaves : Leaves program trace rest) {later : List (Event Request Answer)} {value : α}
    (run : Traces rest later value) : Traces program (trace ++ later) value := by
  induction leaves generalizing later with
  | begun => exact run
  | event answer earlier ih =>
      rw [List.append_assoc]
      exact ih ⟨answer, later, rfl, run⟩

/-- A first event before those of the rest. -/
theorem cons {request : Request} {next : Answer request → Program Request Answer α}
    {answer : Answer request} (leaves : Leaves (next answer) trace rest) :
    Leaves (.ask request next) (⟨request, answer⟩ :: trace) rest := by
  induction leaves with
  | begun => exact .event answer .begun
  | event other earlier ih => exact .event other ih

end Leaves

/-! ### A program inside a larger interface -/

/-- The same program over a larger interface, where its requests are called `into`. -/
def within {Outer : Type} {Reply : Outer → Type} (into : Request → Outer) :
    Program Request (fun request => Reply (into request)) α → Program Outer Reply α
  | .done value => .done value
  | .ask request next => .ask (into request) fun answer => within into (next answer)

/-- Its events are those of the small interface under their new names. -/
theorem traces_within {Outer : Type} {Reply : Outer → Type} {into : Request → Outer}
    {program : Program Request (fun request => Reply (into request)) α} :
    ∀ {trace : List (Event Outer Reply)} {value : α},
      Traces (within into program) trace value ↔
        ∃ inner : List (Event Request fun request => Reply (into request)),
          trace = inner.map (fun event => ⟨into event.1, event.2⟩) ∧
            Traces program inner value := by
  induction program with
  | done result =>
      intro trace value
      constructor
      · rintro ⟨rfl, rfl⟩
        exact ⟨[], rfl, rfl, rfl⟩
      · rintro ⟨inner, rfl, rfl, rfl⟩
        exact ⟨rfl, rfl⟩
  | ask request next ih =>
      intro trace value
      constructor
      · rintro ⟨answer, rest, rfl, run⟩
        obtain ⟨inner, rfl, small⟩ := (ih answer).mp run
        exact ⟨⟨request, answer⟩ :: inner, rfl, answer, inner, rfl, small⟩
      · rintro ⟨inner, rfl, answer, rest, rfl, run⟩
        exact ⟨answer, _, rfl, (ih answer).mpr ⟨rest, rfl, run⟩⟩

/-! ### The requests a program can make -/

/-- The program makes only allowed requests, whatever the answers. -/
def Uses (allowed : Request → Prop) : Program Request Answer α → Prop
  | .done _ => True
  | .ask request next => allowed request ∧ ∀ answer, Uses allowed (next answer)

section Uses

variable {permitted : Request → Prop}

theorem uses_bind {first : Program Request Answer α} {second : α → Program Request Answer β}
    (early : Uses permitted first) (late : ∀ value, Uses permitted (second value)) :
    Uses permitted (first >>= second) := by
  induction first with
  | done result => exact late result
  | ask request next ih => exact ⟨early.1, fun answer => ih answer (early.2 answer)⟩

theorem uses_run_bind {ε : Type} {first : ExceptT ε (Program Request Answer) α}
    {second : α → ExceptT ε (Program Request Answer) β} (early : Uses permitted first.run)
    (late : ∀ value, Uses permitted (second value).run) :
    Uses permitted (first >>= second).run := by
  rw [ExceptT.run_bind]
  refine uses_bind early ?_
  rintro (error | value)
  · exact trivial
  · exact late value

/-- What comes second may rest on how the first program came to its value. -/
theorem uses_bind_of_traces {first : Program Request Answer α} {second : α → Program Request Answer β}
    (early : Uses permitted first)
    (late : ∀ trace value, Traces first trace value → Uses permitted (second value)) :
    Uses permitted (first >>= second) := by
  induction first with
  | done result => exact late [] result ⟨rfl, rfl⟩
  | ask request next ih =>
      refine ⟨early.1, fun answer => ih answer (early.2 answer) fun trace value run => ?_⟩
      exact late (⟨request, answer⟩ :: trace) value ⟨answer, trace, rfl, run⟩

theorem uses_run_bind_of_traces {ε : Type} {first : ExceptT ε (Program Request Answer) α}
    {second : α → ExceptT ε (Program Request Answer) β} (early : Uses permitted first.run)
    (late : ∀ trace value, Traces first.run trace (.ok value) → Uses permitted (second value).run) :
    Uses permitted (first >>= second).run := by
  rw [ExceptT.run_bind]
  refine uses_bind_of_traces early ?_
  rintro trace (error | value) run
  · exact trivial
  · exact late trace value run

theorem Uses.within {Outer : Type} {Reply : Outer → Type} {into : Request → Outer}
    {program : Program Request (fun request => Reply (into request)) α} {outer : Outer → Prop}
    (uses : Uses (fun request => outer (into request)) program) :
    Uses outer (Program.within into program) := by
  induction program with
  | done result => exact trivial
  | ask request next ih => exact ⟨uses.1, fun answer => ih answer (uses.2 answer)⟩

theorem Uses.weaken {other : Request → Prop} {program : Program Request Answer α}
    (uses : Uses permitted program) (weaker : ∀ request, permitted request → other request) :
    Uses other program := by
  induction program with
  | done result => exact trivial
  | ask request next ih => exact ⟨weaker _ uses.1, fun answer => ih answer (uses.2 answer)⟩

/-- Every event of a trace is an allowed request. -/
theorem Uses.of_traces {program : Program Request Answer α} (uses : Uses permitted program) :
    ∀ {trace : List (Event Request Answer)} {value : α}, Traces program trace value →
      ∀ event ∈ trace, permitted event.1 := by
  induction program with
  | done result =>
      rintro trace value ⟨rfl, rfl⟩ event ⟨⟩
  | ask request next ih =>
      rintro trace value ⟨answer, rest, rfl, run⟩ event member
      rcases List.mem_cons.mp member with rfl | member
      · exact uses.1
      · exact ih answer (uses.2 answer) run event member

/-- What remains of the program makes only allowed requests too. -/
theorem Uses.of_leaves {program rest : Program Request Answer α} {trace : List (Event Request Answer)}
    (uses : Uses permitted program) (leaves : Leaves program trace rest) : Uses permitted rest := by
  induction leaves with
  | begun => exact uses
  | event answer earlier ih => exact ih.2 answer

end Uses

/-! ### A property of every event -/

/-- Every event the program can cause after the events `past` satisfies `allowed`, given all the
events before it. -/
def Along (allowed : List (Event Request Answer) → Event Request Answer → Prop) :
    List (Event Request Answer) → Program Request Answer α → Prop
  | _, .done _ => True
  | past, .ask request next => ∀ answer, allowed past ⟨request, answer⟩ ∧
      Along allowed (past ++ [⟨request, answer⟩]) (next answer)

variable {allowed : List (Event Request Answer) → Event Request Answer → Prop}

/-- **Sequencing.** The second program is checked only after the complete traces of the first. -/
theorem along_bind {first : Program Request Answer α} {second : α → Program Request Answer β} :
    ∀ {past : List (Event Request Answer)}, Along allowed past first →
      (∀ trace value, Traces first trace value → Along allowed (past ++ trace) (second value)) →
      Along allowed past (first >>= second) := by
  induction first with
  | done result =>
      intro past _ later
      simpa using later [] result ⟨rfl, rfl⟩
  | ask request next ih =>
      intro past early later answer
      refine ⟨(early answer).1, ih answer (early answer).2 fun trace value run => ?_⟩
      have whole := later (⟨request, answer⟩ :: trace) value ⟨answer, trace, rfl, run⟩
      simpa using whole

theorem along_run_bind {ε : Type} {first : ExceptT ε (Program Request Answer) α}
    {second : α → ExceptT ε (Program Request Answer) β} {past : List (Event Request Answer)}
    (early : Along allowed past first.run)
    (late : ∀ trace value, Traces first.run trace (.ok value) →
      Along allowed (past ++ trace) (second value).run) :
    Along allowed past (first >>= second).run := by
  rw [ExceptT.run_bind]
  refine along_bind early ?_
  rintro trace (error | value) run
  · exact trivial
  · exact late trace value run

/-- Requests that are allowed from some past on, whatever else has happened since. -/
theorem Uses.along {permitted : Request → Prop} {program : Program Request Answer α}
    (uses : Uses permitted program) {past : List (Event Request Answer)}
    (allows : ∀ more event, permitted event.1 → allowed (past ++ more) event) :
    Along allowed past program := by
  induction program generalizing past with
  | done result => exact trivial
  | ask request next ih =>
      intro answer
      have here := allows [] ⟨request, answer⟩ uses.1
      rw [List.append_nil] at here
      refine ⟨here, ih answer (uses.2 answer) fun more event permits => ?_⟩
      rw [List.append_assoc]
      exact allows _ event permits

/-- Requests that are allowed from some past on, as long as nothing but these requests has happened
since. -/
theorem Uses.along_since {permitted : Request → Prop} {program : Program Request Answer α}
    (uses : Uses permitted program) {past : List (Event Request Answer)}
    (allows : ∀ more, (∀ event ∈ more, permitted event.1) →
      ∀ event : Event Request Answer, permitted event.1 → allowed (past ++ more) event) :
    Along allowed past program := by
  induction program generalizing past with
  | done result => exact trivial
  | ask request next ih =>
      intro answer
      have here := allows [] (List.forall_mem_nil _) ⟨request, answer⟩ uses.1
      rw [List.append_nil] at here
      refine ⟨here, ih answer (uses.2 answer) fun more only event permits => ?_⟩
      rw [List.append_assoc]
      exact allows _ (List.forall_mem_cons.mpr ⟨uses.1, only⟩) event permits

/-- Two properties of every event. -/
theorem Along.and {other : List (Event Request Answer) → Event Request Answer → Prop}
    {program : Program Request Answer α} {past : List (Event Request Answer)}
    (one : Along allowed past program) (two : Along other past program) :
    Along (fun past event => allowed past event ∧ other past event) past program := by
  induction program generalizing past with
  | done value => exact trivial
  | ask request next ih =>
      exact fun answer =>
        ⟨⟨(one answer).1, (two answer).1⟩, ih answer (one answer).2 (two answer).2⟩

/-- A weaker property of every event. -/
theorem Along.weaken {other : List (Event Request Answer) → Event Request Answer → Prop}
    {program : Program Request Answer α} {past : List (Event Request Answer)}
    (along : Along allowed past program)
    (weaker : ∀ past event, allowed past event → other past event) : Along other past program := by
  induction program generalizing past with
  | done value => exact trivial
  | ask request next ih =>
      exact fun answer => ⟨weaker _ _ (along answer).1, ih answer (along answer).2⟩

/-! ### Every event, and what is left behind -/

/-- After `past`, every event the program can cause is allowed, and when it finishes the postcondition
holds of everything that has happened. -/
structure Follows (allowed : List (Event Request Answer) → Event Request Answer → Prop)
    (post : List (Event Request Answer) → α → Prop) (past : List (Event Request Answer))
    (program : Program Request Answer α) : Prop where
  along : Along allowed past program
  ends : ∀ trace value, Traces program trace value → post (past ++ trace) value

section Follows

variable {past : List (Event Request Answer)} {post : List (Event Request Answer) → β → Prop}

theorem follows_done {value : β} (holds : post past value) : Follows allowed post past (.done value) where
  along := trivial
  ends := by
    rintro trace result ⟨rfl, rfl⟩
    rwa [List.append_nil]

theorem follows_ask {request : Request} {next : Answer request → Program Request Answer β}
    (here : ∀ answer, allowed past ⟨request, answer⟩)
    (later : ∀ answer, Follows allowed post (past ++ [⟨request, answer⟩]) (next answer)) :
    Follows allowed post past (.ask request next) where
  along answer := ⟨here answer, (later answer).along⟩
  ends := by
    rintro trace value ⟨answer, rest, rfl, run⟩
    rw [List.append_cons]
    exact (later answer).ends rest value run

theorem follows_perform {request : Request} {second : Answer request → Program Request Answer β}
    (here : ∀ answer, allowed past ⟨request, answer⟩)
    (later : ∀ answer, Follows allowed post (past ++ [⟨request, answer⟩]) (second answer)) :
    Follows allowed post past (perform request >>= second) :=
  follows_ask here later

/-- **Sequencing.** What the first program has left behind is known to the second. -/
theorem follows_bind {first : Program Request Answer α} {second : α → Program Request Answer β}
    {between : List (Event Request Answer) → α → Prop} (early : Follows allowed between past first)
    (late : ∀ middle value, between middle value → Follows allowed post middle (second value)) :
    Follows allowed post past (first >>= second) where
  along := along_bind early.along fun trace value run => (late _ value (early.ends trace value run)).along
  ends := by
    intro trace value run
    obtain ⟨before, after, middle, rfl, first, second⟩ := traces_bind.mp run
    rw [← List.append_assoc]
    exact (late _ middle (early.ends before middle first)).ends after value second

end Follows

/-! ### Programs that check before they act -/

/-- After `past`, the program causes only allowed events, and if it returns a value the
postcondition holds of it and of everything that has happened. -/
structure Guarded {ε : Type}
    (allowed : List (Event Request Answer) → Event Request Answer → Prop)
    (post : List (Event Request Answer) → α → Prop) (past : List (Event Request Answer))
    (program : ExceptT ε (Program Request Answer) α) : Prop where
  along : Along allowed past program.run
  returns : ∀ trace value, Traces program.run trace (.ok value) → post (past ++ trace) value

section Guarded

variable {ε : Type} {post : List (Event Request Answer) → β → Prop}
  {past : List (Event Request Answer)}

/-- **Sequencing.** What the first program returned is known to the second. -/
theorem guarded_bind {first : ExceptT ε (Program Request Answer) α}
    {second : α → ExceptT ε (Program Request Answer) β} (early : Along allowed past first.run)
    (late : ∀ trace value, Traces first.run trace (.ok value) →
      Guarded allowed post (past ++ trace) (second value)) :
    Guarded allowed post past (first >>= second) where
  along := along_run_bind early fun trace value run => (late trace value run).along
  returns := by
    intro trace value run
    obtain ⟨error, ⟨⟩, _⟩ | ⟨before, after, middle, rfl, first, second⟩ := traces_run_bind.mp run
    rw [← List.append_assoc]
    exact (late before middle first).returns after value second

theorem guarded_pure {value : β} (holds : post past value) :
    Guarded allowed post past (pure value : ExceptT ε (Program Request Answer) β) where
  along := trivial
  returns := by
    rintro trace result ⟨rfl, ⟨⟩⟩
    rwa [List.append_nil]

theorem guarded_throw {error : ε} :
    Guarded allowed post past (throw error : ExceptT ε (Program Request Answer) β) where
  along := trivial
  returns := by rintro trace result ⟨_, ⟨⟩⟩

end Guarded

/-! ### Complete traces and their events -/

/-- Along a complete trace, every event satisfies the property with the events before it. -/
theorem Along.of_traces {program : Program Request Answer α} :
    ∀ {past trace : List (Event Request Answer)} {value : α}, Along allowed past program →
      Traces program trace value → ∀ before event after, trace = before ++ event :: after →
        allowed (past ++ before) event := by
  induction program with
  | done result =>
      rintro past trace value _ ⟨rfl, rfl⟩ before event after split
      simp at split
  | ask request next ih =>
      rintro past trace value along ⟨answer, rest, rfl, run⟩ before event after split
      cases before with
      | nil =>
          obtain ⟨rfl, rfl⟩ := List.cons.inj split
          simpa using (along answer).1
      | cons head before =>
          obtain ⟨rfl, rfl⟩ := List.cons.inj split
          simpa using ih answer (along answer).2 run before event after rfl

end Program

end Interaction
