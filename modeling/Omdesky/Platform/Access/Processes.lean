/-
**One allowlist, many processes.**

Every command and the terminal interface build a store of their own on the same file. A store runs
its changes one at a time; nothing orders the changes of two stores. Here a change is one read
followed by one replacement (`traces_change_ok`), and every step succeeds.

* `Shared`, `Step`, `Run`: the file, the changes under way, and their interleavings, with the
  changes that have replaced the file, newest first.
* `Current`: the change would make the same of the list it read and of the list the file holds now.
* `no_lost_update`: if only current changes replace the file, it always holds what the same changes
  make of it one after the other, and a revoked entry stays away until it is allowed again.
* `file_of_unchanged`: so it is when nobody replaces the file between a read and its replacement.
* `lost_revoke`: without the condition a revoked entry comes back.
-/

import Mathlib.Data.List.Permutation
import Omdesky.Platform.Access

namespace Omdesky.Platform

open Interaction Interaction.Program

/-! ### A change is a read and a replacement -/

/-- The list a read found. -/
def found : StoreAnswer .readJson → Option (List AllowedController)
  | some (.ok controllers) => some controllers
  | some (.error (.io .notFound _)) => some []
  | _ => none

theorem traces_readAll_ok {controllers : List AllowedController}
    {trace : List (Event StoreCall StoreAnswer)} (run : Traces readAll.run trace (.ok controllers)) :
    ∃ answer, found answer = some controllers ∧ trace = [⟨.readJson, answer⟩] := by
  obtain ⟨answer, rest, rfl, run⟩ := run
  refine ⟨answer, ?_⟩
  rcases answer with _ | ⟨error | held⟩
  · cases run.2
  · rcases error with _ | _ | _ | _ | ⟨_ | _, _⟩ | _
    case io.notFound =>
      obtain ⟨rfl, ⟨⟩⟩ := run
      exact ⟨rfl, rfl⟩
    all_goals cases run.2
  · obtain ⟨rfl, ⟨⟩⟩ := run
    exact ⟨rfl, rfl⟩

theorem traces_writeAll_ok {controllers : List AllowedController}
    {trace : List (Event StoreCall StoreAnswer)} (run : Traces (writeAll controllers).run trace (.ok ())) :
    trace = [⟨.atomicWriteJson controllers, some (.ok ())⟩] := by
  obtain ⟨_ | ⟨error | _⟩, rest, rfl, run⟩ := run
  · cases run.2
  · cases run.2
  · rw [run.1]

/-- **A change that succeeds** takes the lock, reads once and replaces once, by what it makes of the
list it read. -/
theorem traces_change_ok {change : AccessChange} {trace : List (Event StoreCall StoreAnswer)}
    (run : Traces change.program.run trace (.ok ())) : ∃ answer seen, found answer = some seen ∧
      trace = [⟨.lock, ()⟩, ⟨.readJson, answer⟩,
        ⟨.atomicWriteJson (change.apply seen), some (.ok ())⟩] := by
  rw [change.program_eq] at run
  obtain ⟨_, rest, rfl, onward⟩ := run
  obtain ⟨error, ⟨⟩, _⟩ | ⟨before, after, seen, rfl, read, written⟩ := traces_run_bind.mp onward
  obtain ⟨answer, finds, rfl⟩ := traces_readAll_ok read
  obtain rfl := traces_writeAll_ok written
  exact ⟨answer, seen, finds, rfl⟩

/-! ### Interleavings -/

/-- A change under way in a store, with the list it has read, if it has read. -/
structure Underway where
  store : Nat
  change : AccessChange
  seen : Option (List AllowedController)
  deriving DecidableEq, Repr

/-- The list in the file, and the changes under way. -/
structure Shared where
  file : List AllowedController
  underway : List Underway
  deriving DecidableEq, Repr

/-- One step: an idle store starts a change, a change reads, or it replaces the file and is done. -/
inductive Step : Shared → Option Underway → Shared → Prop
  | start {file underway store change} (idle : ∀ other ∈ underway, other.store ≠ store) :
      Step ⟨file, underway⟩ none ⟨file, ⟨store, change, none⟩ :: underway⟩
  | read {file before store change later} :
      Step ⟨file, before ++ ⟨store, change, none⟩ :: later⟩ none
        ⟨file, before ++ ⟨store, change, some file⟩ :: later⟩
  | replace {file before store change seen later} :
      Step ⟨file, before ++ ⟨store, change, some seen⟩ :: later⟩ (some ⟨store, change, some seen⟩)
        ⟨change.apply seen, before ++ later⟩

/-- The runs from a list in which only permitted changes replace the file, with those that have done
so, newest first. -/
inductive Run (permitted : Shared → Underway → Prop) (initial : List AllowedController) :
    List AccessChange → Shared → Prop
  | start : Run permitted initial [] ⟨initial, []⟩
  | step {done shared next} (run : Run permitted initial done shared)
      (step : Step shared none next) : Run permitted initial done next
  | replace {done shared underway next} (run : Run permitted initial done shared)
      (step : Step shared (some underway) next) (permits : permitted shared underway) :
      Run permitted initial (underway.change :: done) next

/-- The change would make the same of the list it read and of the list the file holds. -/
def Current (shared : Shared) (underway : Underway) : Prop :=
  ∀ seen, underway.seen = some seen →
    underway.change.apply seen = underway.change.apply shared.file

/-- The file still holds the list that the change has read. -/
def Unchanged (shared : Shared) (underway : Underway) : Prop :=
  ∀ seen, underway.seen = some seen → seen = shared.file

/-- These changes one after the other, oldest first. -/
def oneByOne (initial : List AllowedController) (changes : List AccessChange) :
    List AllowedController :=
  changes.foldl (fun controllers change => change.apply controllers) initial

theorem oneByOne_reverse_cons {initial : List AllowedController} {change : AccessChange}
    {changes : List AccessChange} : oneByOne initial (change :: changes).reverse =
      change.apply (oneByOne initial changes.reverse) := by
  rw [List.reverse_cons, oneByOne, List.foldl_append]
  rfl

/-! ### No update is lost -/

section Runs

variable {initial : List AllowedController} {done : List AccessChange} {shared : Shared}

/-- **The file is what the changes make of it in the order of their replacements.** -/
theorem file_eq_oneByOne (run : Run Current initial done shared) :
    shared.file = oneByOne initial done.reverse := by
  induction run with
  | start => rfl
  | step _ step ih =>
      cases step with
      | start => exact ih
      | read => exact ih
  | replace _ step current ih =>
      cases step with
      | replace =>
          rw [oneByOne_reverse_cons, ← ih]
          exact current _ rfl

/-- A change that does not allow a node brings none of its entries. -/
theorem not_mem_apply {tailnetNodeId : String} {change : AccessChange}
    {controllers : List AllowedController}
    (absent : ∀ entry ∈ controllers, entry.tailnetNodeId ≠ tailnetNodeId)
    (other : ∀ controller, change = .allow controller → controller.tailnetNodeId ≠ tailnetNodeId) :
    ∀ entry ∈ change.apply controllers, entry.tailnetNodeId ≠ tailnetNodeId := by
  intro entry member
  cases change with
  | allow controller =>
      obtain kept | added := List.mem_append.mp member
      · exact absent entry (mem_without.mp kept).1
      · rw [List.mem_singleton.mp added]
        exact other controller rfl
  | revoke revoked => exact absent entry (mem_without.mp member).1

/-- A revoked node stays away while it is not allowed. -/
theorem not_mem_oneByOne {tailnetNodeId : String} {later earlier : List AccessChange}
    (others : ∀ controller, .allow controller ∈ later → controller.tailnetNodeId ≠ tailnetNodeId) :
    ∀ entry ∈ oneByOne initial (later ++ .revoke tailnetNodeId :: earlier).reverse,
      entry.tailnetNodeId ≠ tailnetNodeId := by
  induction later with
  | nil =>
      intro entry member
      rw [List.nil_append, oneByOne_reverse_cons] at member
      exact (mem_without.mp member).2
  | cons change later ih =>
      have before := ih fun controller member => others controller (List.mem_cons_of_mem _ member)
      rw [List.cons_append, oneByOne_reverse_cons]
      refine not_mem_apply before ?_
      rintro controller rfl
      exact others controller List.mem_cons_self

/-- A run under a rule is one under a weaker rule. -/
theorem Run.weaken {permitted other : Shared → Underway → Prop} (run : Run permitted initial done shared)
    (implies : ∀ shared underway, permitted shared underway → other shared underway) :
    Run other initial done shared := by
  induction run with
  | start => exact .start
  | step _ step ih => exact .step ih step
  | replace _ step permits ih => exact .replace ih step (implies _ _ permits)

/-- **Nobody in between**: if the file still holds what each change has read when it is replaced, it is what
the changes make of it one after the other, and a revoked node stays away until it is allowed again. -/
theorem file_of_unchanged (run : Run Unchanged initial done shared) :
    shared.file = oneByOne initial done.reverse ∧
      ∀ tailnetNodeId later earlier, done = later ++ .revoke tailnetNodeId :: earlier →
        (∀ controller, .allow controller ∈ later → controller.tailnetNodeId ≠ tailnetNodeId) →
          ∀ entry ∈ shared.file, entry.tailnetNodeId ≠ tailnetNodeId := by
  have current : Run Current initial done shared := run.weaken fun shared underway unchanged seen read => by
    rw [unchanged seen read]
  refine ⟨file_eq_oneByOne current, ?_⟩
  rintro tailnetNodeId later earlier rfl others
  rw [file_eq_oneByOne current]
  exact not_mem_oneByOne others

/-- **No lost update**, in every run in which only current changes replace the file. -/
theorem no_lost_update (run : Run Current initial done shared) :
    (∃ order, order.Perm done ∧ shared.file = oneByOne initial order) ∧
      ∀ tailnetNodeId later earlier, done = later ++ .revoke tailnetNodeId :: earlier →
        (∀ controller, .allow controller ∈ later → controller.tailnetNodeId ≠ tailnetNodeId) →
          ∀ entry ∈ shared.file, entry.tailnetNodeId ≠ tailnetNodeId := by
  refine ⟨⟨done.reverse, List.reverse_perm done, file_eq_oneByOne run⟩, ?_⟩
  rintro tailnetNodeId later earlier rfl others
  rw [file_eq_oneByOne run]
  exact not_mem_oneByOne others

end Runs

/-! ### A revoke that is lost -/

/-- An entry for a node. -/
def entryOf (tailnetNodeId : String) : AllowedController where
  tailnetNodeId := tailnetNodeId
  label := none
  addedAt := 0
  capabilities := ControlCapability.all

/-- The changes of two processes: one allows a tower, the other revokes a laptop. -/
def tower : Underway := ⟨0, .allow (entryOf "nTower"), none⟩

/-- The revoke. -/
def laptop : Underway := ⟨1, .revoke "nLaptop", none⟩

/-- A change after its read. -/
def Underway.reads (underway : Underway) (file : List AllowedController) : Underway :=
  { underway with seen := some file }

/-- **A revoked entry comes back** with the change of another process that read the list before. -/
theorem lost_revoke : ∃ done shared, Run (fun _ _ => True) [entryOf "nLaptop"] done shared ∧
    shared.underway = [] ∧ (∀ order, order.Perm done →
      shared.file ≠ oneByOne [entryOf "nLaptop"] order) ∧
    done = [.allow (entryOf "nTower"), .revoke "nLaptop"] ∧ entryOf "nLaptop" ∈ shared.file := by
  let start := [entryOf "nLaptop"]
  have first : Run (fun _ _ => True) start [] ⟨start, [tower.reads start]⟩ :=
    .step (.step .start (@Step.start _ _ tower.store tower.change nofun))
      (@Step.read _ [] tower.store tower.change [])
  have both : Run (fun _ _ => True) start [] ⟨start, [laptop.reads start, tower.reads start]⟩ :=
    .step (.step first (@Step.start _ _ laptop.store laptop.change (by decide)))
      (@Step.read _ [] laptop.store laptop.change _)
  have revoked : Run (fun _ _ => True) start [laptop.change] ⟨[], [tower.reads start]⟩ :=
    @Run.replace _ _ _ _ (laptop.reads start) _ both
      (@Step.replace _ [] laptop.store laptop.change start _) trivial
  have restored : Run (fun _ _ => True) start [tower.change, laptop.change]
      ⟨[entryOf "nLaptop", entryOf "nTower"], []⟩ :=
    @Run.replace _ _ _ _ (tower.reads start) _ revoked
      (@Step.replace _ [] tower.store tower.change start _) trivial
  refine ⟨_, _, restored, rfl, fun order same => ?_, rfl, List.mem_cons_self⟩
  obtain rfl | rfl := List.perm_pair.mp same <;> decide

/-- The law when the second process reads after the first one is done. -/
theorem no_lost_update_in_turn : (∃ order, order.Perm [tower.change, laptop.change] ∧
      [entryOf "nTower"] = oneByOne [entryOf "nLaptop"] order) ∧
    ∀ entry ∈ [entryOf "nTower"], entry.tailnetNodeId ≠ "nLaptop" := by
  let start := [entryOf "nLaptop"]
  have read : Run Current start [] ⟨start, [laptop.reads start]⟩ :=
    .step (.step .start (@Step.start _ _ laptop.store laptop.change nofun))
      (@Step.read _ [] laptop.store laptop.change [])
  have revoked : Run Current start [laptop.change] ⟨[], []⟩ := by
    refine @Run.replace _ _ _ _ (laptop.reads start) _ read
      (@Step.replace _ [] laptop.store laptop.change start _) ?_
    rintro _ ⟨⟩
    rfl
  have again : Run Current start [laptop.change] ⟨[], [tower.reads []]⟩ :=
    .step (.step revoked (@Step.start _ _ tower.store tower.change nofun))
      (@Step.read _ [] tower.store tower.change [])
  have allowed : Run Current start [tower.change, laptop.change] ⟨[entryOf "nTower"], []⟩ := by
    refine @Run.replace _ _ _ _ (tower.reads []) _ again
      (@Step.replace _ [] tower.store tower.change [] _) ?_
    rintro _ ⟨⟩
    rfl
  obtain ⟨ordered, away⟩ := no_lost_update allowed
  refine ⟨ordered, away "nLaptop" [tower.change] [] rfl ?_⟩
  rintro controller (_ | ⟨_, ⟨⟩⟩)
  decide

end Omdesky.Platform
