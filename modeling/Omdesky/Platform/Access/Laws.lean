/-
**The allowlist is a finite map.**

One store and its clones share a lock, which every operation holds from its first request to its end.
The file holds a list, which may name a node several times; it stands for the map from each node to its
entries.

* `StoreOp`, `StoreOp.program`: the three operations.
* `keepingWorld`: a file whose reads and replacements may fail, and which a failed replacement leaves as
  it was.
* `StoreOp.Lawful`: what an operation makes of the list it finds; `lawful_of_ends` proves it for each run.
* `updates_apply`, `apply_comm`, `apply_allow_twice`: the laws of the two changes.
* `finite_map`: **every interleaving** is one lawful operation after the other.
-/

import Omdesky.Interaction.Mutex
import Omdesky.Platform.Access.Processes

namespace Omdesky.Platform

open Interaction Interaction.Program

/-! ### Operations -/

/-- An operation of the store. -/
inductive StoreOp
  | list
  | change (made : AccessChange)
  deriving DecidableEq, Repr

/-- What an operation returns. -/
inductive StoreReply
  | entries (controllers : List AllowedController)
  | changed
  deriving DecidableEq, Repr

/-- The program of an operation. -/
def StoreOp.program : StoreOp → StoreA StoreReply
  | .list => StoreReply.entries <$> Platform.list
  | .change made => (fun () => .changed) <$> made.program

/-! ### The file -/

/-- The file: the list it holds, if it exists. Any read and any replacement may fail. -/
def keepingWorld : World StoreCall StoreAnswer (Option (List AllowedController))
  | .lock, file, (), after => after = file
  | .readJson, file, answer, after => after = file ∧
      match answer with
      | some (.ok controllers) => file = some controllers
      | some (.error (.io .notFound _)) => file = none
      | _ => True
  | .atomicWriteJson controllers, file, answer, after =>
      match answer with
      | some (.ok ()) => after = some controllers
      | _ => after = file

/-- What an operation makes of the list it finds. -/
def StoreOp.Lawful (operation : StoreOp) (before : Option (List AllowedController))
    (result : PortResult StoreReply) (after : Option (List AllowedController)) : Prop :=
  match operation, result with
  | _, .error _ => after = before
  | .list, .ok reply => reply = .entries (before.getD []) ∧ after = before
  | .change made, .ok reply => reply = .changed ∧ after = some (made.apply (before.getD []))

/-! ### One operation -/

section Operations

variable {before after : Option (List AllowedController)}

/-- A read keeps the file, and what it returns is its content. -/
theorem keeping_readAll {result : PortResult (List AllowedController)}
    (run : Ends keepingWorld readAll.run before result after) :
    after = before ∧ ∀ controllers, result = .ok controllers → controllers = before.getD [] := by
  obtain ⟨_, answer, _, _, _, ⟨rfl, answered⟩, run⟩ := run
  rcases answer with _ | ⟨error | held⟩
  · obtain ⟨_, rfl, rfl⟩ := run
    exact ⟨rfl, nofun⟩
  · rcases error with _ | _ | _ | _ | ⟨_ | _, _⟩ | _
    case io.notFound =>
      obtain ⟨_, rfl, rfl⟩ := run
      refine ⟨rfl, ?_⟩
      rintro _ ⟨⟩
      rw [answered, Option.getD_none]
    all_goals
      obtain ⟨_, rfl, rfl⟩ := run
      exact ⟨rfl, nofun⟩
  · obtain ⟨_, rfl, rfl⟩ := run
    refine ⟨rfl, ?_⟩
    rintro _ ⟨⟩
    rw [answered, Option.getD_some]

/-- A replacement succeeds, or it keeps the file. -/
theorem keeping_writeAll {controllers : List AllowedController} {result : PortResult Unit}
    (run : Ends keepingWorld (writeAll controllers).run before result after) :
    (result = .ok () ∧ after = some controllers) ∨ (∃ error, result = .error error) ∧ after = before := by
  obtain ⟨_, answer, _, _, _, answered, run⟩ := run
  rcases answer with _ | ⟨error | _⟩
  · obtain ⟨_, rfl, rfl⟩ := run
    exact .inr ⟨⟨_, rfl⟩, answered⟩
  · obtain ⟨_, rfl, rfl⟩ := run
    exact .inr ⟨⟨_, rfl⟩, answered⟩
  · obtain ⟨_, rfl, rfl⟩ := run
    exact .inl ⟨rfl, answered⟩

/-- A change replaces the list by what it makes of it, or it keeps the file. -/
theorem keeping_change {made : AccessChange} {result : PortResult Unit}
    (run : Ends keepingWorld made.program.run before result after) :
    (result = .ok () ∧ after = some (made.apply (before.getD []))) ∨
      (∃ error, result = .error error) ∧ after = before := by
  rw [made.program_eq] at run
  obtain ⟨_, _, _, _, _, rfl, rest⟩ := run
  obtain ⟨error, rfl, read⟩ | ⟨controllers, _, read, written⟩ := ends_run_bind.mp ⟨_, rest⟩
  · exact .inr ⟨⟨error, rfl⟩, (keeping_readAll read).1⟩
  · obtain ⟨rfl, found⟩ := keeping_readAll read
    obtain rfl := found controllers rfl
    exact keeping_writeAll written

/-- **Every run of an operation is lawful.** -/
theorem lawful_of_ends {operation : StoreOp} {result : PortResult StoreReply}
    (run : Ends keepingWorld operation.program.run before result after) :
    operation.Lawful before result after := by
  cases operation with
  | list =>
      obtain ⟨inner, ⟨_, _, _, _, _, rfl, rest⟩, rfl⟩ := ends_run_map run
      obtain ⟨rfl, found⟩ := keeping_readAll ⟨_, rest⟩
      cases inner with
      | error error => rfl
      | ok controllers => exact ⟨congrArg _ (found controllers rfl), rfl⟩
  | change made =>
      obtain ⟨inner, changes, rfl⟩ := ends_run_map run
      obtain ⟨rfl, rfl⟩ | ⟨⟨error, rfl⟩, rfl⟩ := keeping_change changes
      · exact ⟨rfl, rfl⟩
      · rfl

end Operations

/-! ### The laws of the changes -/

/-- The entries of a node. -/
def entriesOf (tailnetNodeId : String) (controllers : List AllowedController) :
    List AllowedController :=
  controllers.filter fun candidate => candidate.tailnetNodeId == tailnetNodeId

/-- The node a change is for. -/
def AccessChange.node : AccessChange → String
  | .allow controller => controller.tailnetNodeId
  | .revoke tailnetNodeId => tailnetNodeId

/-- The entries that a change leaves of its node. -/
def AccessChange.entries : AccessChange → List AllowedController
  | .allow controller => [controller]
  | .revoke _ => []

/-- **The update of a map**: the entries of one node are replaced, and all others keep their values and
their order. -/
structure Updates (tailnetNodeId : String) (entries before after : List AllowedController) : Prop where
  here : entriesOf tailnetNodeId after = entries
  others : without tailnetNodeId after = without tailnetNodeId before

theorem without_without (tailnetNodeId : String) (controllers : List AllowedController) :
    without tailnetNodeId (without tailnetNodeId controllers) = without tailnetNodeId controllers := by
  simp [without]

theorem entriesOf_without_self (tailnetNodeId : String) (controllers : List AllowedController) :
    entriesOf tailnetNodeId (without tailnetNodeId controllers) = [] := by
  simp [entriesOf, without]

/-- Every change is an update of the map. -/
theorem updates_apply (change : AccessChange) (controllers : List AllowedController) :
    Updates change.node change.entries controllers (change.apply controllers) := by
  cases change with
  | allow controller =>
      refine ⟨?_, ?_⟩
      · rw [AccessChange.apply, entriesOf, List.filter_append, ← entriesOf, AccessChange.node,
          entriesOf_without_self]
        simp [AccessChange.entries]
      · rw [AccessChange.apply, AccessChange.node, without_append, without_without]
        simp [without]
  | revoke tailnetNodeId =>
      exact ⟨entriesOf_without_self _ _, without_without _ _⟩

/-- An update keeps the entries of the other nodes. -/
theorem Updates.entriesOf_other {tailnetNodeId other : String}
    {entries before after : List AllowedController} (updates : Updates tailnetNodeId entries before after)
    (differs : other ≠ tailnetNodeId) : entriesOf other after = entriesOf other before := by
  have kept (controllers : List AllowedController) :
      entriesOf other (without tailnetNodeId controllers) = entriesOf other controllers := by
    unfold entriesOf without
    rw [List.filter_filter]
    refine List.filter_congr fun entry _ => ?_
    by_cases same : entry.tailnetNodeId = other <;> simp [same, differs]
  rw [← kept after, updates.others, kept]

/-- **Changes of different nodes commute**, as changes of the map. -/
theorem apply_comm {first second : AccessChange} (differ : first.node ≠ second.node)
    (controllers : List AllowedController) (tailnetNodeId : String) :
    entriesOf tailnetNodeId (first.apply (second.apply controllers)) =
      entriesOf tailnetNodeId (second.apply (first.apply controllers)) := by
  have last (change : AccessChange) (controllers : List AllowedController) :=
    updates_apply change controllers
  by_cases here : tailnetNodeId = first.node
  · subst here
    rw [(last first _).here, (last second _).entriesOf_other differ, (last first _).here]
  · rw [(last first _).entriesOf_other here]
    by_cases there : tailnetNodeId = second.node
    · subst there
      rw [(last second _).here, (last second _).here]
    · rw [(last second _).entriesOf_other there, (last second _).entriesOf_other there,
        (last first _).entriesOf_other here]

/-- **Allowing twice is allowing once.** -/
theorem apply_allow_twice (controller : AllowedController) (controllers : List AllowedController) :
    (AccessChange.allow controller).apply ((AccessChange.allow controller).apply controllers) =
      (AccessChange.allow controller).apply controllers := by
  change without _ (without _ controllers ++ [controller]) ++ [controller] = _
  rw [without_append, without_without]
  simp [without, AccessChange.apply]

/-! ### Every interleaving -/

/-- The store and its clones, with the calls of their operations. -/
abbrev SharedStore := Mutex StoreOp StoreCall StoreAnswer (PortResult StoreReply)
  (Option (List AllowedController))

/-- **The allowlist is a finite map.** In every interleaving of the operations the calls that have
returned are one lawful operation after the other, from the initial content to the one between the calls;
a change updates the entries of its node only, changes of different nodes commute, and allowing an entry
twice is allowing it once. -/
theorem finite_map {initial : Option (List AllowedController)} {store : SharedStore}
    (reached : store.Reachable (fun operation => operation.program.run) .lock keepingWorld initial) :
    Serial StoreOp.Lawful initial store.returned store.content ∧
      (∀ change controllers,
        Updates (AccessChange.node change) change.entries controllers (change.apply controllers)) ∧
      (∀ first second, AccessChange.node first ≠ AccessChange.node second →
        ∀ controllers tailnetNodeId,
          entriesOf tailnetNodeId (first.apply (second.apply controllers)) =
            entriesOf tailnetNodeId (second.apply (first.apply controllers))) ∧
      ∀ controller controllers,
        (AccessChange.allow controller).apply ((AccessChange.allow controller).apply controllers) =
          (AccessChange.allow controller).apply controllers :=
  ⟨(Mutex.serial reached).1.weaken fun _ _ _ _ run => lawful_of_ends run, updates_apply,
    fun _ _ differ => apply_comm differ, apply_allow_twice⟩

/-- An entry for a laptop that is listed twice, and two calls: it is allowed again while a revoke waits. -/
theorem finite_map_laptop : ∃ store : SharedStore,
    store.shared = some [entryOf "nLaptop"] ∧
      Serial StoreOp.Lawful (some [entryOf "nLaptop", entryOf "nLaptop"]) store.returned store.content := by
  let allowing : StoreOp := .change (.allow (entryOf "nLaptop"))
  let before : Option (List AllowedController) := some [entryOf "nLaptop", entryOf "nLaptop"]
  let after : Option (List AllowedController) := some [entryOf "nLaptop"]
  have arrived : Mutex.Reachable (fun operation : StoreOp => operation.program.run) StoreCall.lock
      keepingWorld before ⟨before, none, [allowing, .change (.revoke "nTower")], []⟩ :=
    .tail (.tail .refl (.arrive _)) (.arrive _)
  have entered := Relation.ReflTransGen.tail arrived (@Mutex.Step.enter _ _ _ _ _ _ _ _ before before []
    allowing [.change (.revoke "nTower")] [] _ () rfl rfl)
  have held : keepingWorld .readJson before (some (.ok [entryOf "nLaptop", entryOf "nLaptop"])) before :=
    ⟨rfl, rfl⟩
  have read := Relation.ReflTransGen.tail entered (Mutex.Step.run StoreCall.noConfusion held)
  have replaced : keepingWorld (.atomicWriteJson [entryOf "nLaptop"]) before (some (.ok ())) after := rfl
  have written := Relation.ReflTransGen.tail read (Mutex.Step.run StoreCall.noConfusion replaced)
  have left := Relation.ReflTransGen.tail written Mutex.Step.leave
  exact ⟨_, rfl, (finite_map left).1⟩

end Omdesky.Platform
