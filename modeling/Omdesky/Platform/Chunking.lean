/-
**The two readers with a limit, however their input is cut.**

`read_limited` (`omdesky-platform/src/process.rs`) has its `output` and its `buffer`, the loop of
`HttpAgentClient::parse` (`omdesky-platform/src/agent_client.rs`) its `body` and its `chunk`.

* `Reads`: a loop over the items of a text, from its start to what it returns.
* `reads_of_gathers`: every loop that gathers so.
* `run_eq_of_written`, `parse_eq_of_flatten`: no caller notices the cuts.
* `reads_of_cut`: **each of them returns the whole text, or the error of its limit**, and in none of its
  states it holds more than the limit and one chunk.
-/

import Omdesky.Platform.AgentClient.Response
import Omdesky.Platform.Process

namespace Omdesky.Platform

open CommandRunner Collections

/-- The size of the buffer of `read_limited`. -/
def bufferSize : Nat := 8192

/-- The size of a chunk that has come. -/
def arrivedSize (item : PortResult (List UInt8)) : Nat := (item.toOption.getD []).length

/-- A loop over the items of a text returns the text, or an error if the text is too long. -/
structure Reads {ι : Type} (limit : Nat) (error : PortError) (loop : Loop UInt8 ι PortError)
    (size : ι → Nat) (text : List UInt8) (items : List ι) : Prop where
  result : loop.run [] items = if text.length ≤ limit then .ok text else .error error
  /-- Each of its states leads to this result. -/
  returns : ∀ state, loop.Visits items state →
    ∃ later, loop.step^[later] state = .returned (loop.run [] items)
  /-- In no state does it hold more than the limit and one item. -/
  held : ∀ state, loop.Visits items state →
    state.held size ≤ limit ∨ ∃ item ∈ items, state.held size ≤ limit + size item

variable {limit : Nat} {chunks : List (List UInt8)}

section Loops

variable {ι : Type} {error : PortError} {into : List UInt8 → ι} {taken : List UInt8 → Prop}
  {loop : Loop UInt8 ι PortError} {size : ι → Nat}

theorem reads_of_gathers (gathers : Gathers limit into taken error loop)
    (each : ∀ chunk ∈ chunks, taken chunk) (sized : ∀ chunk, size (into chunk) = chunk.length) :
    Reads limit error loop size chunks.flatten (chunks.map into) where
  result := gathers.run_eq (Nat.zero_le _) each
  returns state visits :=
    ⟨state.remaining, by rw [Loop.iterate_remaining, Loop.pending_of_visits visits]⟩
  held state visits := by
    obtain ⟨chunk, member, most⟩ := gathers.held_le each (fun chunk _ => sized chunk) visits
    rcases List.mem_cons.mp member with rfl | member
    · exact .inl most
    · refine .inr ⟨into chunk, List.mem_map_of_mem member, ?_⟩
      rwa [sized chunk]

end Loops

/-! ### The callers -/

section Callers

variable {spec : CommandSpec} {kill : Kill} {child other : Child}

/-- Two children that write the same are observed to do the same. -/
theorem observe_eq_of_written (status : child.status = other.status)
    (written : ∀ isStdout, (child.pipe isStdout).written = (other.pipe isStdout).written)
    (collected : Collected) (observation : Observation) :
    observe spec kill child collected observation =
      observe spec kill other collected observation := by
  cases observation with
  | exited => rw [observe, observe, status]
  | read isStdout =>
      rw [observe, observe, readLimited_eq _ _ (Nat.zero_le _), readLimited_eq _ _ (Nat.zero_le _),
        written]
  | elapsed => rfl

/-- **A run does not depend on how the output of its child is cut.** -/
theorem run_eq_of_written (status : child.status = other.status)
    (written : ∀ isStdout, (child.pipe isStdout).written = (other.pipe isStdout).written)
    (collected : Collected) (order : List Observation) :
    run spec kill child collected order = run spec kill other collected order := by
  induction order generalizing collected with
  | nil => rfl
  | cons observation order ih =>
      rw [run, run, observe_eq_of_written status written]
      cases observe spec kill other collected observation with
      | waiting collected => exact ih collected
      | returned result => rfl
      | disabled => rfl

/-- **Nor does what is parsed of a response.** -/
theorem parse_eq_of_flatten {α : Type} (libraries : Libraries) (decode : Document → Option α)
    (status : StatusCode) (release : Option String) {others : List (List UInt8)}
    (same : chunks.flatten = others.flatten) :
    parse libraries decode ⟨status, release, chunks.map .ok⟩ =
      parse libraries decode ⟨status, release, others.map .ok⟩ := by
  have body (chunks : List (List UInt8)) :=
    (reads_of_gathers gathers_readBody (fun chunk (_ : chunk ∈ chunks) => trivial)
      fun _ => rfl : Reads _ _ _ arrivedSize _ _).result
  rw [parse, parse, body, body, same]

end Callers

/-! ### The law -/

/-- **No cut shows**: not in what the readers return, and not in what they hold. -/
theorem reads_of_cut (text : List UInt8) (chunks : List (List UInt8)) (cut : chunks.flatten = text)
    (filled : ∀ chunk ∈ chunks, chunk ≠ []) :
    (∀ limit, (∀ chunk ∈ chunks, chunk.length ≤ bufferSize) →
      Reads limit (outputLimitError limit) (CommandRunner.readLimited limit) List.length text chunks ∧
        ∀ state, (CommandRunner.readLimited limit).Visits chunks state →
          state.held List.length ≤ limit + bufferSize) ∧
      Reads maxResponseBytes responseLimitError readBody arrivedSize text (chunks.map .ok) := by
  subst cut
  refine ⟨fun limit short => ?_, reads_of_gathers gathers_readBody (fun _ _ => trivial) fun _ => rfl⟩
  have reads : Reads limit (outputLimitError limit) (CommandRunner.readLimited limit) List.length
      chunks.flatten chunks := by
    have each := reads_of_gathers (gathers_readLimited limit) filled fun _ => rfl
    rwa [List.map_id] at each
  refine ⟨reads, fun state visits => ?_⟩
  rcases reads.held state visits with small | ⟨chunk, member, most⟩
  · exact small.trans (Nat.le_add_right _ _)
  · exact most.trans (Nat.add_le_add_left (short chunk member) limit)

/-- Four bytes in two chunks, within a limit that the first of them reaches. -/
theorem reads_of_cut_four :
    Reads 3 (outputLimitError 3) (CommandRunner.readLimited 3) List.length [1, 2, 3, 4]
      [[1, 2, 3], [4]] :=
  ((reads_of_cut [1, 2, 3, 4] [[1, 2, 3], [4]] rfl (by decide)).1 3 (by decide)).1

end Omdesky.Platform
