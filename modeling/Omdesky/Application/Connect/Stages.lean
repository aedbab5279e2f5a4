/-
**The stages of a connection.**

* `stage`: what each call of a port is for.
* `only_prepare`, `only_locateStreamWindow`, `only_waitForProcessOrMonitor`: each step of a connection
  makes calls of one stage only, whatever the answers are.
-/

import Omdesky.Application.Connect

namespace Omdesky.Application

open Interaction Interaction.Program

/-- What a call is for. -/
inductive Stage
  | prepare
  | launch
  | look
  | keybinding
  | attach
  | detach
  | command
  | notification
  | stream
  deriving DecidableEq, Repr

/-- The stage of a call. The heartbeat sends commands of its own. -/
def stage : PortCall → Stage
  | .identifySource _ | .listAccess | .sunshineStatus _ | .sunshinePairChallenge _
  | .sunshinePair _ _ | .focusWorkspace _ _ | .focusWindow _ _ | .health _ _ | .pairingState _
  | .beginPairing _ | .completePairing => .prepare
  | .launch _ => .launch
  | .windowForProcess _ | .sleep _ => .look
  | .install _ | .clear => .keybinding
  | .sendCommand _ (.attachSession _ _ _) _ => .attach
  | .sendCommand _ .detachSession _ => .detach
  | .sendCommand _ _ _ | .spawnHeartbeat _ _ => .command
  | .notify _ => .notification
  | .started _ | .watch _ _ | .terminate | .dropHeartbeat | .pending => .stream

/-- A program with calls of one stage. -/
abbrev Only (wanted : Stage) {α : Type} (program : ConnectM α) : Prop :=
  Uses (fun request => stage request = wanted) program

variable {wanted : Stage}

theorem only_call {request : PortCall} (same : stage request = wanted) : Only wanted (call request) :=
  ⟨same, fun _ => trivial⟩

theorem only_failWhen (refused : Bool) (error : PortError) : Only wanted (failWhen refused error).run := by
  unfold failWhen
  split <;> exact trivial

theorem only_notify (body : String) : Only .notification (notify body) :=
  uses_bind (only_call rfl) fun _ => trivial

/-! ### Before the launch -/

theorem only_verifyCallbackAccess (address : IpAddr) :
    Only .prepare (verifyCallbackAccess address).run := by
  unfold verifyCallbackAccess
  refine uses_run_bind (only_call rfl) ?_
  rintro (_ | identity)
  · exact trivial
  · exact uses_run_bind (only_call rfl) fun allowlist => only_failWhen _ _

theorem only_verifyAgents (localAgent remoteAgent : AgentEndpoint) :
    Only .prepare (verifyAgents localAgent remoteAgent).run := by
  unfold verifyAgents
  refine uses_run_bind ⟨rfl, fun _ => trivial⟩ fun answers => ?_
  dsimp only
  split <;> exact trivial

theorem only_pairStream (clientName : String) (endpoint : AgentEndpoint) :
    Only .prepare (PairStream.execute clientName endpoint).run := by
  have pair (host : StreamHostDescriptor) :
      Only .prepare (PairStream.pair clientName endpoint host).run := by
    unfold PairStream.pair
    refine uses_run_bind (only_call rfl) fun status => ?_
    refine uses_run_bind (only_failWhen _ _) fun _ => ?_
    refine uses_run_bind (only_failWhen _ _) fun _ => ?_
    refine uses_run_bind (only_call rfl) fun challenge => ?_
    refine uses_run_bind (only_call rfl) fun pin => ?_
    refine uses_run_bind (only_call rfl) fun _ => ?_
    refine uses_run_bind (only_call rfl) fun _ => ?_
    exact uses_run_bind (only_call rfl) fun state => only_failWhen _ _
  unfold PairStream.execute
  refine uses_run_bind (only_call rfl) fun state => ?_
  cases state
  · exact trivial
  · exact pair _
  · exact pair _

theorem only_prepare (node : ConnectNode) (request : ConnectRequest) :
    Only .prepare (prepare node request).run := by
  have paired (host : StreamHostDescriptor) : Only .prepare (ensurePaired node request host).run := by
    unfold ensurePaired
    refine uses_run_bind (only_call rfl) fun state => ?_
    cases state
    · exact trivial
    · exact uses_run_bind (only_failWhen _ _) fun _ => only_pairStream _ _
    · exact uses_run_bind (only_failWhen _ _) fun _ => only_pairStream _ _
  have focused {α : Type} (target : Option α) {focus : α → Attempt Unit}
      (only : ∀ value, Only .prepare (focus value).run) : Only .prepare (target.forM focus).run := by
    cases target with
    | none => exact trivial
    | some value => exact only value
  unfold prepare
  refine uses_run_bind (only_verifyCallbackAccess _) fun _ => ?_
  refine uses_run_bind (only_call rfl) fun status => ?_
  refine uses_run_bind (only_failWhen _ _) fun _ => ?_
  refine uses_run_bind (paired _) fun _ => ?_
  refine uses_run_bind (focused _ fun target => only_call rfl) fun _ => ?_
  refine uses_run_bind (focused _ fun window => only_call rfl) fun _ => ?_
  exact uses_run_bind (only_verifyAgents _ _) fun _ => trivial

/-! ### While the stream runs -/

theorem only_locateStreamWindow (locatesWindows : Bool) (pid : Option Nat) :
    Only .look (locateStreamWindow locatesWindows pid) := by
  have looked (pid attempts : Nat) : Only .look (lookUpWindow pid attempts) := by
    induction attempts with
    | zero => exact trivial
    | succ attempts ih =>
        unfold lookUpWindow
        refine uses_bind (only_call rfl) ?_
        rintro (error | (_ | window))
        · exact trivial
        · exact uses_bind (only_call rfl) fun _ => ih
        · exact trivial
  unfold locateStreamWindow
  split
  · exact looked _ _
  · exact trivial

theorem only_waitForProcessOrMonitor (localAgent remoteAgent : AgentEndpoint) (rounds : Nat) :
    ∀ localFailures remoteFailures, Only .stream
      (waitForProcessOrMonitor localAgent remoteAgent rounds localFailures remoteFailures) := by
  induction rounds with
  | zero => exact fun _ _ => uses_bind (only_call rfl) nofun
  | succ rounds ih =>
      intro localFailures remoteFailures
      unfold waitForProcessOrMonitor
      refine uses_bind (only_call rfl) ?_
      rintro (exit | ⟨localAlive, remoteAlive⟩)
      · exact trivial
      · dsimp only
        split
        · exact uses_bind (only_call rfl) fun _ => trivial
        · exact ih _ _

end Omdesky.Application
