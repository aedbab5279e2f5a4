/-
**Calls under one lock.**

Any number of calls are under way at the same time. Each waits for the lock before its first request and
keeps it until it returns; between their requests the others may arrive, wait and give up.

* `Mutex.Step`, `Mutex.Reachable`: the interleavings of the calls.
* `Serial`: calls that ran one after the other, each from the state the one before it left.
* `Mutex.serial`: **every interleaving is serial**, in the order in which the calls had the lock.
-/

import Mathlib.Logic.Relation
import Omdesky.Interaction.World

namespace Interaction

variable {Input Request State : Type} {Answer : Request → Type} {α : Type}

/-- A call that has returned, with the states it found and left. -/
structure Returned (Input α State : Type) where
  input : Input
  before : State
  value : α
  after : State

/-- The call that has the lock: the state it found, and what remains of it. -/
structure Holder (Input Request : Type) (Answer : Request → Type) (α State : Type) where
  input : Input
  before : State
  program : Program Request Answer α

/-- The shared state, the call that has the lock, the calls that wait for it, and those that have
returned, newest first. -/
structure Mutex (Input Request : Type) (Answer : Request → Type) (α State : Type) where
  shared : State
  holder : Option (Holder Input Request Answer α State)
  waiting : List Input
  returned : List (Returned Input α State)

/-- Calls one after the other, newest first, from the initial state to the last one. -/
inductive Serial (law : Input → State → α → State → Prop) (initial : State) :
    List (Returned Input α State) → State → Prop
  | start : Serial law initial [] initial
  | call {returned input before value after} (earlier : Serial law initial returned before)
      (lawful : law input before value after) :
      Serial law initial (⟨input, before, value, after⟩ :: returned) after

/-- A weaker law. -/
theorem Serial.weaken {law other : Input → State → α → State → Prop} {initial final : State}
    {returned : List (Returned Input α State)} (serial : Serial law initial returned final)
    (weaker : ∀ input before value after, law input before value after →
      other input before value after) : Serial other initial returned final := by
  induction serial with
  | start => exact .start
  | call _ lawful ih => exact .call ih (weaker _ _ _ _ lawful)

/-- The law holds of every call. -/
theorem Serial.lawful {law : Input → State → α → State → Prop} {initial final : State}
    {returned : List (Returned Input α State)} (serial : Serial law initial returned final) :
    ∀ call ∈ returned, law call.input call.before call.value call.after := by
  induction serial with
  | start => exact fun _ member => absurd member List.not_mem_nil
  | call _ lawful ih => exact List.forall_mem_cons.mpr ⟨lawful, ih⟩

namespace Mutex

variable (start : Input → Program Request Answer α) (lock : Request)
  (world : World Request Answer State)

/-- One step: a call arrives, gives up waiting, takes the lock, does its next request, or returns and
leaves the lock. -/
inductive Step : Mutex Input Request Answer α State → Mutex Input Request Answer α State → Prop
  | arrive {shared holder waiting returned} (input : Input) :
      Step ⟨shared, holder, waiting, returned⟩ ⟨shared, holder, input :: waiting, returned⟩
  | giveUp {shared holder before input later returned} :
      Step ⟨shared, holder, before ++ input :: later, returned⟩
        ⟨shared, holder, before ++ later, returned⟩
  | enter {shared after before input later returned next answer} (asks : start input = .ask lock next)
      (answered : world lock shared answer after) :
      Step ⟨shared, none, before ++ input :: later, returned⟩
        ⟨after, some ⟨input, shared, next answer⟩, before ++ later, returned⟩
  | run {shared after input before request next answer waiting returned} (other : request ≠ lock)
      (answered : world request shared answer after) :
      Step ⟨shared, some ⟨input, before, .ask request next⟩, waiting, returned⟩
        ⟨after, some ⟨input, before, next answer⟩, waiting, returned⟩
  | leave {shared input before value waiting returned} :
      Step ⟨shared, some ⟨input, before, .done value⟩, waiting, returned⟩
        ⟨shared, none, waiting, ⟨input, before, value, shared⟩ :: returned⟩

/-- What is reached from an initial state without calls. -/
def Reachable (initial : State) (mutex : Mutex Input Request Answer α State) : Prop :=
  Relation.ReflTransGen (Step start lock world) ⟨initial, none, [], []⟩ mutex

/-- The state between the calls: the one the call with the lock has found. -/
def content (mutex : Mutex Input Request Answer α State) : State :=
  match mutex.holder with
  | some holder => holder.before
  | none => mutex.shared

/-- What remains of the call with the lock ends as the whole call does. -/
def Continues (mutex : Mutex Input Request Answer α State) : Prop :=
  ∀ holder, mutex.holder = some holder → ∀ value final,
    holder.program.Ends world mutex.shared value final →
      (start holder.input).Ends world holder.before value final

variable {start lock world} {initial : State} {mutex : Mutex Input Request Answer α State}

/-- **Every interleaving is serial.** -/
theorem serial (reached : mutex.Reachable start lock world initial) :
    Serial (fun input before value after => (start input).Ends world before value after) initial
      mutex.returned mutex.content ∧ Continues start world mutex := by
  induction reached with
  | refl => exact ⟨.start, nofun⟩
  | tail _ step ih =>
      obtain ⟨calls, continues⟩ := ih
      cases step with
      | arrive | giveUp => exact ⟨calls, continues⟩
      | enter asks answered =>
          refine ⟨calls, ?_⟩
          rintro _ ⟨⟩ value final run
          rw [asks]
          exact Program.ends_ask.mpr ⟨_, _, answered, run⟩
      | run _ answered =>
          refine ⟨calls, ?_⟩
          rintro _ ⟨⟩ value final run
          exact continues _ rfl _ _ (Program.ends_ask.mpr ⟨_, _, answered, run⟩)
      | leave =>
          exact ⟨.call calls (continues _ rfl _ _ (Program.ends_done.mpr ⟨rfl, rfl⟩)), nofun⟩

end Mutex

end Interaction
