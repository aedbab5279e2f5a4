/-
**Follow-focus makes only justified switches.**

* `Watch`, `watchedWorld`: the surroundings of the router with a log, of the last topology read that
  succeeded and of every switch call; `watched_of_runs` says that the log restricts no run.
* `Poised`: the invariant between two turns. A pending switch is what the last read asks for, and its
  deadline lets the debounce pass.
* `SwitchLaw`, `switch_law`: every switch call of a run is justified by the last read, is its first
  one, and leaves a display that is streamed.
-/

import Omdesky.Application.Display

namespace Omdesky.Application.FollowFocus

open Interaction Interaction.Program

/-! ### The log -/

/-- A topology read that succeeded, and when. -/
structure Read where
  topology : RemoteDesktopTopology
  readAt : Instant

/-- A switch call: when it was made, the last read before it, and how many calls came in between. -/
structure Switch where
  display : DisplayId
  calledAt : Instant
  read : Option Read
  earlier : Nat

/-- The clock, the last read and the switch calls since, and all switch calls, newest first. -/
structure Watch where
  clock : Instant
  read : Option Read
  since : Nat
  switches : List Switch

namespace Watch

/-- Nothing has happened. -/
def new (clock : Instant) : Watch := { clock, read := none, since := 0, switches := [] }

/-- Time passes. -/
def tick (watch : Watch) (now : Instant) : Watch := { watch with clock := now }

/-- A read succeeds. -/
def reads (watch : Watch) (topology : RemoteDesktopTopology) : Watch :=
  { watch with read := some { topology, readAt := watch.clock }, since := 0 }

/-- A switch call is made. -/
def calls (watch : Watch) (display : DisplayId) : Watch :=
  { watch with
    since := watch.since + 1
    switches := { display, calledAt := watch.clock, read := watch.read, earlier := watch.since } ::
      watch.switches }

/-- The log after a request: a switch is logged when it is called, a read when it is answered. -/
def note (watch : Watch) (now : Instant) : (request : RouterCall) → RouterAnswer request → Watch
  | .topology, .ok topology => (watch.tick now).reads topology
  | .switchDisplay display, _ => (watch.calls display).tick now
  | _, _ => watch.tick now

end Watch

/-- The surroundings of the router, with the log. -/
def watchedWorld : World RouterCall RouterAnswer Watch := fun request watch answer after =>
  routerWorld request watch.clock answer after.clock ∧ after = watch.note after.clock request answer

@[simp] theorem clock_note (watch : Watch) (now : Instant) (request : RouterCall)
    (answer : RouterAnswer request) : (watch.note now request answer).clock = now := by
  cases request with
  | topology => cases answer <;> rfl
  | _ => rfl

/-- One request, answered at `now`. -/
theorem runs_watched {α : Type} (request : RouterCall) (answer : RouterAnswer request)
    (now : Instant) {next : RouterAnswer request → RouterM α} {watch after : Watch}
    {rest : List (Event RouterCall RouterAnswer)} {value : α}
    (answered : routerWorld request watch.clock answer now)
    (run : Runs watchedWorld (next answer) (watch.note now request answer) rest value after) :
    Runs watchedWorld (.ask request next) watch (⟨request, answer⟩ :: rest) value after := by
  have same := clock_note watch now request answer
  refine ⟨answer, _, rest, rfl, ⟨?_, ?_⟩, run⟩
  · rwa [same]
  · rw [same]

/-- **The log restricts no run.** -/
theorem watched_of_runs {α : Type} {program : RouterM α} {value : α} {later : Instant} :
    ∀ {watch : Watch} {trace : List (Event RouterCall RouterAnswer)},
      Runs routerWorld program watch.clock trace value later →
        ∃ after, after.clock = later ∧ Runs watchedWorld program watch trace value after := by
  induction program with
  | done result =>
      rintro watch trace ⟨rfl, rfl, rfl⟩
      exact ⟨watch, rfl, rfl, rfl, rfl⟩
  | ask request next ih =>
      rintro watch trace ⟨answer, middle, rest, rfl, answered, run⟩
      rw [← clock_note watch middle request answer] at run
      obtain ⟨after, clock, run⟩ := ih answer run
      exact ⟨after, clock, runs_watched request answer middle answered run⟩

/-! ### The law -/

/-- **A justified switch**: the last read prefers the display, the debounce has passed since, and no
switch was called in between. -/
def Switch.Justified (debounce : Duration) (switch : Switch) : Prop :=
  ∃ read, switch.read = some read ∧ read.topology.preferred = some switch.display ∧
    read.readAt + debounce ≤ switch.calledAt ∧ switch.earlier = 0

/-- **The law of the router**, in the state that any turns of a run have left. -/
structure SwitchLaw (debounce : Duration) (state : RoutingState) (watch : Watch) : Prop where
  /-- Every switch call so far was justified. -/
  justified : ∀ switch ∈ watch.switches, switch.Justified debounce
  /-- A switch is pending exactly when a deadline is armed. -/
  paired : state.pending.isSome ↔ state.deadline.isSome
  /-- No later turns lose the streamed display. -/
  streams : ∀ {turns trace after later},
    Runs watchedWorld (loop debounce turns state) watch trace after later →
      state.streamed.isSome → after.streamed.isSome
  /-- A switch call of the next turn leaves the streamed display for another one, or fails and leaves
  it as it is. -/
  leaves : ∀ {trace after later}, Runs watchedWorld (loop debounce 1 state) watch trace after later →
    ∀ display answer, ⟨.switchDisplay display, answer⟩ ∈ trace →
      (∃ streamed, state.streamed = some streamed ∧ display ≠ streamed) ∧
        ∀ error, answer = .error error → after.streamed = state.streamed

/-! ### The invariant -/

/-- What is pending is what the last read asks for, no switch was called since, and the deadline lets
the debounce pass. -/
structure Armed (debounce : Duration) (state : RoutingState) (watch : Watch) (target : DisplayId) :
    Prop where
  read : ∃ read due, watch.read = some read ∧ read.topology.preferred = some target ∧
    state.deadline = some due ∧ read.readAt + debounce ≤ due
  first : watch.since = 0
  leaves : ∃ streamed, state.streamed = some streamed ∧ target ≠ streamed

/-- **The invariant between two turns.** -/
structure Poised (debounce : Duration) (state : RoutingState) (watch : Watch) : Prop where
  paired : state.pending.isSome = state.deadline.isSome
  armed : ∀ target, state.pending = some target → Armed debounce state watch target
  justified : ∀ switch ∈ watch.switches, switch.Justified debounce

section Turn

variable {debounce : Duration} {state after : RoutingState} {watch later : Watch} {now : Instant}
  {trace : List (Event RouterCall RouterAnswer)}

/-- Nothing is pending. -/
theorem Poised.idle {streamed : Option DisplayId}
    (justified : ∀ switch ∈ watch.switches, switch.Justified debounce) :
    Poised debounce { streamed, pending := none, deadline := none } watch where
  paired := rfl
  armed := nofun
  justified := justified

/-- Time passes between two turns. -/
theorem Poised.tick (poised : Poised debounce state watch) (now : Instant) :
    Poised debounce state (watch.tick now) where
  paired := poised.paired
  armed target pending := ⟨(poised.armed target pending).read, (poised.armed target pending).first,
    (poised.armed target pending).leaves⟩
  justified := poised.justified

/-- **A signal** arms what the topology it reads asks for. -/
theorem poised_of_reevaluate (poised : Poised debounce state watch)
    (run : Runs watchedWorld (reevaluate debounce state) watch trace after later) :
    Poised debounce after later ∧ (state.streamed.isSome → after.streamed.isSome) ∧
      ∀ display answer, ⟨.switchDisplay display, answer⟩ ∉ trace := by
  simp only [reevaluate, perform_bind] at run
  obtain ⟨answer, middle, rest, rfl, ⟨_, read⟩, run⟩ := run
  cases answer with
  | error error =>
      obtain ⟨rfl, rfl, rfl⟩ := run
      rw [read]
      exact ⟨poised.tick _, id, by simp⟩
  | ok topology =>
      dsimp only at run
      split at run
      · -- nothing is streamed, so nothing was pending
        rename_i blank
        have unstreamed := (Option.or_eq_none_iff.mp blank).1
        have idle : state.pending = none := by
          refine Option.eq_none_iff_forall_ne_some.mpr fun target pending => ?_
          obtain ⟨streamed, streams, _⟩ := (poised.armed target pending).leaves
          cases unstreamed.symm.trans streams
        obtain ⟨rfl, rfl, rfl⟩ := run
        rw [read]
        exact ⟨⟨poised.paired, by simp [idle], poised.justified⟩, id, by simp⟩
      · rename_i streamed _
        split at run
        · rename_i target aims
          obtain ⟨now, _, _, rfl, ⟨⟨later, _⟩, same⟩, rfl, rfl, rfl⟩ := run
          obtain ⟨preferred, differs⟩ := followFocusTarget_eq_some.mp aims
          rw [same, read]
          refine ⟨⟨rfl, ?_, poised.justified⟩, fun _ => rfl, by simp⟩
          rintro _ ⟨⟩
          exact ⟨⟨_, _, rfl, preferred, rfl, Nat.add_le_add_right later _⟩, rfl, _, rfl, differs⟩
        · obtain ⟨rfl, rfl, rfl⟩ := run
          rw [read]
          exact ⟨.idle poised.justified, fun _ => rfl, by simp⟩

/-- **A deadline** that has come makes the pending switch. -/
theorem poised_of_commitPending (poised : Poised debounce state watch)
    (come : ∃ due, state.deadline = some due ∧ due ≤ watch.clock)
    (run : Runs watchedWorld (commitPending state) watch trace after later) :
    Poised debounce after later ∧ (state.streamed.isSome → after.streamed.isSome) ∧
      ∀ display answer, ⟨.switchDisplay display, answer⟩ ∈ trace →
        (∃ streamed, state.streamed = some streamed ∧ display ≠ streamed) ∧
          ∀ error, answer = .error error → after.streamed = state.streamed := by
  simp only [commitPending, perform_bind] at run
  split at run
  · rename_i idle
    obtain ⟨rfl, rfl, rfl⟩ := run
    rw [idle]
    exact ⟨.idle poised.justified, id, by simp⟩
  · rename_i target pending
    obtain ⟨answer, middle, rest, rfl, ⟨_, called⟩, run⟩ := run
    obtain ⟨⟨read, due, wasRead, preferred, armed, waits⟩, first, leaves⟩ := poised.armed target pending
    obtain ⟨_, same, come⟩ := come
    obtain rfl := Option.some.inj (armed.symm.trans same)
    have justified : ∀ switch ∈ (watch.calls target).switches, switch.Justified debounce :=
      List.forall_mem_cons.mpr ⟨⟨read, wasRead, preferred, Nat.le_trans waits come, first⟩, poised.justified⟩
    cases answer with
    | error error =>
        obtain ⟨told, _, _, rfl, ⟨_, same⟩, rfl, rfl, rfl⟩ := run
        rw [same, called]
        refine ⟨.idle justified, id, fun display answer made => ?_⟩
        obtain ⟨rfl, _⟩ : display = target ∧ answer = .error error := by simpa using made
        exact ⟨leaves, fun _ _ => rfl⟩
    | ok done =>
        obtain ⟨rfl, rfl, rfl⟩ := run
        rw [called]
        refine ⟨.idle justified, fun _ => rfl, fun display answer made => ?_⟩
        obtain ⟨rfl, rfl⟩ : display = target ∧ answer = .ok done := by simpa using made
        exact ⟨leaves, fun _ same => by cases same⟩

end Turn

/-! ### Whole runs -/

section Run

variable {debounce : Duration} {turns : Nat} {state after : RoutingState} {watch later : Watch}
  {clock : Instant} {trace : List (Event RouterCall RouterAnswer)}

/-- **The turns of the router** keep the invariant, and the streamed display once there is one. -/
theorem poised_of_loop (poised : Poised debounce state watch)
    (run : Runs watchedWorld (loop debounce turns state) watch trace after later) :
    Poised debounce after later ∧ (state.streamed.isSome → after.streamed.isSome) := by
  induction turns generalizing state watch trace with
  | zero =>
      obtain ⟨rfl, rfl, rfl⟩ := run
      exact ⟨poised, id⟩
  | succ turns ih =>
      simp only [loop, perform_bind] at run
      obtain ⟨wake, middle, rest, rfl, ⟨⟨_, woken⟩, same⟩, run⟩ := run
      have waited : Poised debounce state middle := by
        rw [same]
        exact poised.tick _
      cases wake with
      | closed =>
          obtain ⟨rfl, rfl, rfl⟩ := run
          exact ⟨waited, id⟩
      | signal =>
          obtain ⟨early, late, next, between, rfl, turn, run⟩ := runs_bind.mp run
          obtain ⟨kept, streams, _⟩ := poised_of_reevaluate waited turn
          exact (ih kept run).imp_right fun onward streamed => onward (streams streamed)
      | elapsed =>
          obtain ⟨early, late, next, between, rfl, turn, run⟩ := runs_bind.mp run
          obtain ⟨kept, streams, _⟩ := poised_of_commitPending waited (woken rfl) turn
          exact (ih kept run).imp_right fun onward streamed => onward (streams streamed)

/-- A switch call of one turn. -/
theorem leaves_of_turn (poised : Poised debounce state watch)
    (run : Runs watchedWorld (loop debounce 1 state) watch trace after later) {display : DisplayId}
    {answer : PortResult Unit} (made : ⟨.switchDisplay display, answer⟩ ∈ trace) :
    (∃ streamed, state.streamed = some streamed ∧ display ≠ streamed) ∧
      ∀ error, answer = .error error → after.streamed = state.streamed := by
  simp only [loop, perform_bind] at run
  obtain ⟨wake, middle, rest, rfl, ⟨⟨_, woken⟩, same⟩, run⟩ := run
  have waited : Poised debounce state middle := by
    rw [same]
    exact poised.tick _
  replace made := (List.mem_cons.mp made).resolve_left (by simp)
  cases wake with
  | closed =>
      obtain ⟨rfl, rfl, rfl⟩ := run
      cases made
  | signal =>
      obtain ⟨early, late, next, between, rfl, turn, rfl, rfl, rfl⟩ := runs_bind.mp run
      rw [List.append_nil] at made
      exact absurd made ((poised_of_reevaluate waited turn).2.2 display answer)
  | elapsed =>
      obtain ⟨early, late, next, between, rfl, turn, rfl, rfl, rfl⟩ := runs_bind.mp run
      rw [List.append_nil] at made
      exact (poised_of_commitPending waited (woken rfl) turn).2.2 display answer made

/-- **Follow-focus makes only justified switches**, whatever it is answered and whenever. -/
theorem switch_law (run : Runs watchedWorld (run debounce turns) (.new clock) trace state watch) :
    SwitchLaw debounce state watch := by
  simp only [FollowFocus.run, perform_bind] at run
  obtain ⟨current, middle, rest, rfl, ⟨_, same⟩, run⟩ := run
  have start : Poised debounce { streamed := current.toOption, pending := none, deadline := none }
      middle := by
    rw [same]
    exact .idle fun _ none => by cases none
  have poised := (poised_of_loop start run).1
  exact ⟨poised.justified, by rw [poised.paired], fun run => (poised_of_loop poised run).2,
    fun run _ _ made => leaves_of_turn poised run made⟩

/-- A switch that waited for the debounce. -/
theorem switch_law_once : ∃ state watch, watch.switches ≠ [] ∧ SwitchLaw 5 state watch := by
  let topology : RemoteDesktopTopology := ⟨[⟨"A"⟩, ⟨"B"⟩], some ⟨"B"⟩⟩
  let trace : List (Event RouterCall RouterAnswer) :=
    [⟨.currentDisplay, .ok ⟨"A"⟩⟩, ⟨.select none, .signal⟩, ⟨.topology, .ok topology⟩,
      ⟨.now, (0 : Nat)⟩, ⟨.select (some 5), .elapsed⟩, ⟨.switchDisplay ⟨"B"⟩, .ok ()⟩]
  let last : Watch := ⟨(10 : Nat), some ⟨topology, (0 : Nat)⟩, 1,
    [⟨⟨"B"⟩, (10 : Nat), some ⟨topology, (0 : Nat)⟩, 0⟩]⟩
  have settles : Runs watchedWorld (FollowFocus.run 5 2) (.new 0) trace ⟨some ⟨"B"⟩, none, none⟩
      last := by
    refine runs_watched .currentDisplay (.ok ⟨"A"⟩) (0 : Nat) (Nat.le_refl _) ?_
    refine runs_watched (.select none) .signal (0 : Nat) ⟨Nat.le_refl _, nofun⟩ ?_
    refine runs_watched .topology (.ok topology) (0 : Nat) (Nat.le_refl _) ?_
    refine runs_watched .now (0 : Nat) (0 : Nat) ⟨Nat.le_refl _, rfl⟩ ?_
    refine runs_watched (.select (some 5)) .elapsed (10 : Nat)
      ⟨by decide, fun _ => ⟨(5 : Nat), rfl, by decide⟩⟩ ?_
    refine runs_watched (.switchDisplay ⟨"B"⟩) (.ok ()) (10 : Nat) (Nat.le_refl _) ?_
    exact ⟨rfl, rfl, rfl⟩
  exact ⟨_, last, List.cons_ne_nil _ _, switch_law settles⟩

end Run

end Omdesky.Application.FollowFocus
