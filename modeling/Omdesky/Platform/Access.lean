/-
**The allowlist in its file (`omdesky-platform/src/access.rs`).**

* `list`, `allow`, `revoke`: the operations of `FileAccessStore`. Each reads the whole file and
  replaces it; a missing file counts as an empty list.
* `AccessChange.apply`: what the two changes make of a list.
* `storeWorld`: the file. A read or a replacement may fail, and a failed replacement may have taken
  place all the same, as `AtomicWrite.lawful_iff` shows.
* `ends_change_ok`: a change that succeeds has done exactly what it is for.
-/

import Omdesky.Platform.State
import Omdesky.Ports

namespace Omdesky.Platform

open Interaction Interaction.Program

/-! ### The operations -/

/-- A call of the store: its lock, a read of the file, and its replacement. The two run on a blocking
thread, which may be lost. -/
inductive StoreCall
  | lock
  | readJson
  | atomicWriteJson (controllers : List AllowedController)

/-- The answer to each call. -/
abbrev StoreAnswer : StoreCall → Type
  | .lock => Unit
  | .readJson => Option (Except StateError (List AllowedController))
  | .atomicWriteJson _ => Option (Except StateError Unit)

/-- A program over the store in which `?` returns the first error. -/
abbrev StoreA := ExceptT PortError (Program StoreCall StoreAnswer)

/-- `self.lock.lock()`. -/
abbrev takeLock : Program StoreCall StoreAnswer Unit := perform StoreCall.lock

/-- `state_error`. -/
def stateError (message : String) : PortError where
  code := "ACCESS_STORE_FAILED"
  message := message
  retryable := false

/-- `FileAccessStore::read_all`. -/
def readAll : StoreA (List AllowedController) := ExceptT.mk do
  match ← perform StoreCall.readJson with
  | some (.ok controllers) => return .ok controllers
  | some (.error (.io .notFound _)) => return .ok []
  | some (.error error) => return .error (stateError error.message)
  | none => return .error (stateError "the allowlist could not be read")

/-- `FileAccessStore::write_all`. -/
def writeAll (controllers : List AllowedController) : StoreA Unit := ExceptT.mk do
  match ← perform (StoreCall.atomicWriteJson controllers) with
  | some (.ok ()) => return .ok ()
  | some (.error error) => return .error (stateError error.message)
  | none => return .error (stateError "the allowlist could not be written")

/-- `AccessStore::list`. -/
def list : StoreA (List AllowedController) := do
  let () ← liftM takeLock
  readAll

/-- The entries of the other nodes. -/
def without (tailnetNodeId : String) (controllers : List AllowedController) :
    List AllowedController :=
  controllers.filter fun candidate => candidate.tailnetNodeId != tailnetNodeId

/-- `AccessStore::allow`. -/
def allow (controller : AllowedController) : StoreA Unit := do
  let () ← liftM takeLock
  let controllers ← readAll
  writeAll (without controller.tailnetNodeId controllers ++ [controller])

/-- `AccessStore::revoke`. -/
def revoke (tailnetNodeId : String) : StoreA Unit := do
  let () ← liftM takeLock
  let controllers ← readAll
  writeAll (without tailnetNodeId controllers)

/-! ### What the changes do -/

/-- A change of the allowlist. -/
inductive AccessChange
  | allow (controller : AllowedController)
  | revoke (tailnetNodeId : String)
  deriving DecidableEq, Repr

namespace AccessChange

/-- The program of a change. -/
def program : AccessChange → StoreA Unit
  | .allow controller => Platform.allow controller
  | .revoke tailnetNodeId => Platform.revoke tailnetNodeId

/-- What a change makes of a list. -/
def apply : AccessChange → List AllowedController → List AllowedController
  | .allow controller, controllers => without controller.tailnetNodeId controllers ++ [controller]
  | .revoke tailnetNodeId, controllers => without tailnetNodeId controllers

/-- Both lock, read, and write what they make of the list they read. -/
theorem program_eq (change : AccessChange) : change.program = (do
    let () ← liftM takeLock
    let controllers ← readAll
    writeAll (change.apply controllers) : StoreA Unit) := by
  cases change with
  | allow controller => rfl
  | revoke tailnetNodeId => rfl

end AccessChange

/-- The file: the list it holds, if it exists. -/
def storeWorld : World StoreCall StoreAnswer (Option (List AllowedController))
  | .lock, file, (), after => after = file
  | .readJson, file, answer, after => after = file ∧
      match answer with
      | some (.ok controllers) => file = some controllers
      | some (.error (.io .notFound _)) => file = none
      | _ => True
  | .atomicWriteJson controllers, file, answer, after =>
      match answer with
      | some (.ok ()) => after = some controllers
      | _ => after = file ∨ after = some controllers

theorem without_append {tailnetNodeId : String} {first second : List AllowedController} :
    without tailnetNodeId (first ++ second) =
      without tailnetNodeId first ++ without tailnetNodeId second :=
  List.filter_append _ _

theorem mem_without {tailnetNodeId : String} {controllers : List AllowedController}
    {entry : AllowedController} : entry ∈ without tailnetNodeId controllers ↔
      entry ∈ controllers ∧ entry.tailnetNodeId ≠ tailnetNodeId := by
  simp [without]

section Runs

variable {file after : Option (List AllowedController)} {change : AccessChange}

/-- A read that succeeds returns what the file holds; a missing file holds nothing. -/
theorem ends_readAll_ok {controllers : List AllowedController} :
    Ends storeWorld readAll.run file (.ok controllers) after ↔
      after = file ∧ controllers = file.getD [] := by
  constructor
  · rintro ⟨_, _ | ⟨error | held⟩, _, _, rfl, ⟨rfl, answered⟩, run⟩
    · cases run.2.1
    · rcases error with _ | _ | _ | _ | ⟨_ | _, _⟩ | _
      case io.notFound =>
        obtain ⟨_, ⟨⟩, rfl⟩ := run
        exact ⟨rfl, by rw [answered, Option.getD_none]⟩
      all_goals cases run.2.1
    · obtain ⟨_, ⟨⟩, rfl⟩ := run
      exact ⟨rfl, by rw [answered, Option.getD_some]⟩
  · rintro ⟨rfl, rfl⟩
    cases after with
    | none =>
        exact ends_ask.mpr ⟨some (.error (.io .notFound "")), _, ⟨rfl, rfl⟩,
          ends_done.mpr ⟨rfl, rfl⟩⟩
    | some held =>
        exact ends_ask.mpr ⟨some (.ok held), _, ⟨rfl, rfl⟩, ends_done.mpr ⟨rfl, rfl⟩⟩

theorem ends_writeAll_ok {controllers : List AllowedController} :
    Ends storeWorld (writeAll controllers).run file (.ok ()) after ↔ after = some controllers := by
  constructor
  · rintro ⟨_, _ | ⟨error | _⟩, _, _, rfl, answered, run⟩
    · cases run.2.1
    · cases run.2.1
    · obtain ⟨_, _, rfl⟩ := run
      exact answered
  · rintro rfl
    exact ends_ask.mpr ⟨some (.ok ()), _, rfl, ends_done.mpr ⟨rfl, rfl⟩⟩

/-- **A change that succeeds has replaced the list by what it makes of it.** -/
theorem ends_change_ok : Ends storeWorld change.program.run file (.ok ()) after ↔
    after = some (change.apply (file.getD [])) := by
  rw [change.program_eq]
  constructor
  · intro run
    obtain ⟨_, locked, ⟨_, _, _, _, rfl, rfl, _, _, rfl⟩, rest⟩ := ends_run_bind_ok.mp run
    obtain ⟨controllers, _, read, written⟩ := ends_run_bind_ok.mp rest
    obtain ⟨rfl, rfl⟩ := ends_readAll_ok.mp read
    exact ends_writeAll_ok.mp written
  · intro made
    refine ends_run_bind_ok.mpr ⟨(), file, ends_ask.mpr ⟨(), _, rfl, ends_done.mpr ⟨rfl, rfl⟩⟩, ?_⟩
    exact ends_run_bind_ok.mpr ⟨_, file, ends_readAll_ok.mpr ⟨rfl, rfl⟩, ends_writeAll_ok.mpr made⟩

end Runs

end Omdesky.Platform
