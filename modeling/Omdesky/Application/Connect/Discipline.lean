/-
**The discipline of a launch.**

* `Course`: the complete traces of a connection, part by part; `course_of_traces` proves that there are
  no others.
* `Disciplined`: what is promised of a trace: what comes before the launch, what is not done without one,
  what follows a grant, and what is returned.
* `disciplined_of_traces`: **every connection that runs to its end is disciplined.**
-/

import Mathlib.Data.List.Basic
import Omdesky.Application.Connect.Shortcuts

namespace Omdesky.Application

open Interaction Interaction.Program

/-! ### The parts of a connection -/

/-- The focus calls of a request, all successful. -/
def focusing (request : ConnectRequest) : List PortEvent :=
  (request.focusWorkspace.toList.map fun target =>
      (⟨.focusWorkspace request.endpoint target, .ok ()⟩ : PortEvent)) ++
    request.focusWindow.toList.map fun window => ⟨.focusWindow request.endpoint window, .ok ()⟩

/-- Everything was ready, in this order: the callback access was verified, Sunshine reported to be ready,
the host was paired, the requested focus was set, and both agents answered. After the answer that the host
is paired there is no other. -/
structure Prepared (request : ConnectRequest) (trace : List PortEvent) : Prop where
  parts : ∃ verified status pairing host localAlive remoteAlive,
    trace = verified ++ ⟨.sunshineStatus request.endpoint, .ok status⟩ :: (pairing ++
      ⟨.pairingState host, .ok .paired⟩ :: (focusing request ++
        [⟨.health request.controllerEndpoint request.endpoint, (.ok localAlive, .ok remoteAlive)⟩])) ∧
    Traces (verifyCallbackAccess request.endpoint.address).run verified (.ok ()) ∧
    status.ready = true

/-- The shortcuts of a session: none of them, or a lookup of the window, an attach, and what is told of
it. -/
inductive Shortcuts (request : ConnectRequest) : List PortEvent → Option SessionGrant → Prop
  | skipped («local» : request.inputMode = .local) : Shortcuts request [] none
  | attempted {looking attach telling grant} (remote : request.inputMode = .remote)
      (looks : ∀ event ∈ looking, stage event.1 = .look) (ways : Attached request attach grant)
      (tells : ∀ event ∈ telling, stage event.1 = .command ∨ stage event.1 = .notification) :
      Shortcuts request (looking ++ attach ++ telling) grant

/-- The failures in a row at the end of some answers. -/
def failuresFrom (failures : Nat) (answers : List (PortResult Unit)) : Nat :=
  answers.foldl (fun failures answer => failuresAfter answer failures) failures

/-- What the health monitor makes of its rounds. -/
def monitorError (rounds : List (PortResult Unit × PortResult Unit)) : Option PortError :=
  agentHealthFailure (failuresFrom 0 (rounds.map Prod.fst)) (failuresFrom 0 (rounds.map Prod.snd))
    agentHealthFailureLimit

/-- The events of rounds of the health monitor. -/
def checking (request : ConnectRequest) (rounds : List (PortResult Unit × PortResult Unit)) :
    List PortEvent :=
  rounds.map fun round =>
    ⟨.watch request.controllerEndpoint request.endpoint, .checked round.1 round.2⟩

/-- The stream runs until its process exits, or until the monitor gives it up. -/
inductive Watched (request : ConnectRequest) : List PortEvent → PortResult Int → Prop
  | exited {rounds result} (alive : monitorError rounds = none) : Watched request (checking request rounds ++
      [⟨.watch request.controllerEndpoint request.endpoint, .exited result⟩]) result
  | abandoned {rounds error answer} (failed : monitorError rounds = some error) :
      Watched request (checking request rounds ++ [⟨.terminate, answer⟩]) (.error error)

/-- The detach command of a grant. -/
def detachCommand (request : ConnectRequest) (grant : SessionGrant) : PortCall :=
  .sendCommand request.endpoint .detachSession (some grant.claim)

/-- The end of a session: nothing without a grant, else its detach. -/
inductive Ended (request : ConnectRequest) : Option SessionGrant → List PortEvent → Prop
  | nothing : Ended request none []
  | detached {grant cleared answer notification told} : Ended request (some grant)
      [⟨.dropHeartbeat, ()⟩, ⟨.clear, cleared⟩, ⟨detachCommand request grant, answer⟩,
        ⟨.notify notification, told⟩]

/-- **The complete traces of a connection.** -/
inductive Course (request : ConnectRequest) : List PortEvent → PortResult Int → Prop
  | unprepared {trace error} (early : ∀ event ∈ trace, stage event.1 = .prepare) :
      Course request trace (.error error)
  | unlaunched {prepared launch error} (early : ∀ event ∈ prepared, stage event.1 = .prepare)
      (ready : Prepared request prepared) :
      Course request (prepared ++ [⟨.launch launch, .error error⟩]) (.error error)
  | streamed {prepared launch pid shortcuts grant watched ended result}
      (early : ∀ event ∈ prepared, stage event.1 = .prepare) (ready : Prepared request prepared)
      (session : Shortcuts request shortcuts grant) (ran : Watched request watched result)
      (closes : Ended request grant ended) :
      Course request (prepared ++ ⟨.launch launch, .ok pid⟩ :: (shortcuts ++ ⟨.started pid, ()⟩ ::
        (watched ++ ended))) result

/-! ### Every trace is a course -/

section Course

variable {node : ConnectNode} {request : ConnectRequest} {trace : List PortEvent}

theorem traces_call {asked : PortCall} {answer : PortAnswer asked} :
    Traces (call asked) trace answer ↔ trace = [⟨asked, answer⟩] := by
  constructor
  · rintro ⟨_, _, rfl, rfl, rfl⟩
    rfl
  · rintro rfl
    exact ⟨_, _, rfl, rfl, rfl⟩

theorem traces_failWhen {refused : Bool} {error : PortError} :
    Traces (failWhen refused error).run trace (.ok ()) ↔ refused = false ∧ trace = [] := by
  unfold failWhen
  cases refused with
  | false => exact ⟨fun run => ⟨rfl, run.1⟩, fun same => ⟨same.2, rfl⟩⟩
  | true => exact ⟨(nomatch ·.2), (nomatch ·.1)⟩

/-- The last thing that is heard of the pairing is that the host is paired. -/
theorem paired_of_pairStream {clientName : String} {endpoint : AgentEndpoint}
    (run : Traces (PairStream.execute clientName endpoint).run trace (.ok ())) :
    ∃ pairing host, trace = pairing ++ [⟨.pairingState host, .ok .paired⟩] := by
  have pair (host : StreamHostDescriptor) {trace : List PortEvent}
      (run : Traces (PairStream.pair clientName endpoint host).run trace (.ok ())) :
      ∃ pairing, trace = pairing ++ [⟨.pairingState host, .ok .paired⟩] := by
    unfold PairStream.pair at run
    obtain ⟨_, ⟨⟩, _⟩ | ⟨first, _, _, rfl, _, run⟩ := traces_run_bind.mp run
    obtain ⟨_, ⟨⟩, _⟩ | ⟨second, _, _, rfl, _, run⟩ := traces_run_bind.mp run
    obtain ⟨_, ⟨⟩, _⟩ | ⟨third, _, _, rfl, _, run⟩ := traces_run_bind.mp run
    obtain ⟨_, ⟨⟩, _⟩ | ⟨fourth, _, _, rfl, _, run⟩ := traces_run_bind.mp run
    obtain ⟨_, ⟨⟩, _⟩ | ⟨fifth, _, _, rfl, _, run⟩ := traces_run_bind.mp run
    obtain ⟨_, ⟨⟩, _⟩ | ⟨sixth, _, _, rfl, _, run⟩ := traces_run_bind.mp run
    obtain ⟨_, ⟨⟩, _⟩ | ⟨seventh, _, _, rfl, _, run⟩ := traces_run_bind.mp run
    obtain ⟨_, ⟨⟩, _⟩ | ⟨last, _, state, rfl, asked, run⟩ := traces_run_bind.mp run
    obtain ⟨same, rfl⟩ := traces_failWhen.mp run
    obtain rfl : state = .paired := by simpa using same
    obtain rfl := traces_call.mp asked
    exact ⟨first ++ second ++ third ++ fourth ++ fifth ++ sixth ++ seventh, by simp⟩
  unfold PairStream.execute at run
  obtain ⟨_, ⟨⟩, _⟩ | ⟨before, rest, state, rfl, asked, later⟩ := traces_run_bind.mp run
  obtain rfl := traces_call.mp asked
  cases state with
  | paired =>
      obtain ⟨rfl, _⟩ := later
      exact ⟨[], _, rfl⟩
  | required | unsupported =>
      obtain ⟨pairing, rfl⟩ := pair _ later
      exact ⟨_ :: pairing, _, rfl⟩

theorem paired_of_ensurePaired {host : StreamHostDescriptor}
    (run : Traces (ensurePaired node request host).run trace (.ok ())) :
    ∃ pairing host, trace = pairing ++ [⟨.pairingState host, .ok .paired⟩] := by
  unfold ensurePaired at run
  obtain ⟨_, ⟨⟩, _⟩ | ⟨before, rest, state, rfl, asked, later⟩ := traces_run_bind.mp run
  obtain rfl := traces_call.mp asked
  cases state with
  | paired =>
      obtain ⟨rfl, _⟩ := later
      exact ⟨[], _, rfl⟩
  | required | unsupported =>
      obtain ⟨_, ⟨⟩, _⟩ | ⟨allowed, _, _, rfl, checked, pairs⟩ := traces_run_bind.mp later
      obtain ⟨_, rfl⟩ := traces_failWhen.mp checked
      obtain ⟨pairing, last, rfl⟩ := paired_of_pairStream pairs
      exact ⟨_ :: pairing, last, rfl⟩

/-- Both agents have answered. -/
theorem traces_verifyAgents {localAgent remoteAgent : AgentEndpoint}
    (run : Traces (verifyAgents localAgent remoteAgent).run trace (.ok ())) :
    ∃ localAlive remoteAlive,
      trace = [⟨.health localAgent remoteAgent, (.ok localAlive, .ok remoteAlive)⟩] := by
  obtain ⟨⟨localAlive, remoteAlive⟩, rest, rfl, later⟩ := run
  cases localAlive with
  | error error => cases remoteAlive <;> exact nomatch later.2
  | ok localAlive =>
      cases remoteAlive with
      | error error => exact nomatch later.2
      | ok remoteAlive =>
          obtain ⟨rfl, _⟩ := later
          exact ⟨localAlive, remoteAlive, rfl⟩

theorem prepared_of_prepare {launch : StreamLaunchRequest}
    (run : Traces (prepare node request).run trace (.ok launch)) : Prepared request trace := by
  unfold prepare at run
  obtain ⟨_, ⟨⟩, _⟩ | ⟨verified, _, ⟨⟩, rfl, verify, asks⟩ := traces_run_bind.mp run
  obtain ⟨_, ⟨⟩, _⟩ | ⟨_, _, status, rfl, asked, checks⟩ := traces_run_bind.mp asks
  obtain rfl := traces_call.mp asked
  obtain ⟨_, ⟨⟩, _⟩ | ⟨_, _, ⟨⟩, rfl, checked, pairs⟩ := traces_run_bind.mp checks
  obtain ⟨ready, rfl⟩ := traces_failWhen.mp checked
  obtain ⟨_, ⟨⟩, _⟩ | ⟨_, _, ⟨⟩, rfl, paired, focuses⟩ := traces_run_bind.mp pairs
  obtain ⟨pairing, host, rfl⟩ := paired_of_ensurePaired paired
  obtain ⟨_, ⟨⟩, _⟩ | ⟨workspace, _, ⟨⟩, rfl, first, others⟩ := traces_run_bind.mp focuses
  obtain ⟨_, ⟨⟩, _⟩ | ⟨window, _, ⟨⟩, rfl, second, verifies⟩ := traces_run_bind.mp others
  obtain ⟨_, ⟨⟩, _⟩ | ⟨health, _, ⟨⟩, rfl, alive, returns⟩ := traces_run_bind.mp verifies
  obtain ⟨rfl, _⟩ := returns
  have focused : workspace ++ window = focusing request := by
    unfold focusing
    congr 1
    · cases target : request.focusWorkspace with
      | none =>
          rw [target] at first
          exact first.1
      | some wanted =>
          rw [target] at first
          exact traces_call.mp first
    · cases target : request.focusWindow with
      | none =>
          rw [target] at second
          exact second.1
      | some wanted =>
          rw [target] at second
          exact traces_call.mp second
  obtain ⟨localAlive, remoteAlive, rfl⟩ := traces_verifyAgents alive
  refine ⟨⟨verified, status, pairing, host, localAlive, remoteAlive, ?_, verify, by simpa using ready⟩⟩
  rw [← focused]
  simp

/-- The lookup is finished before the attach, and what is told of it comes after. -/
theorem shortcuts_of_traces {pid : Option Nat} {grant : Option SessionGrant}
    (run : Traces (shortcuts node request pid) trace grant) : Shortcuts request trace grant := by
  unfold shortcuts at run
  cases mode : request.inputMode with
  | «local» =>
      rw [mode] at run
      obtain ⟨rfl, rfl⟩ := run
      exact .skipped mode
  | remote =>
      rw [mode] at run
      obtain ⟨looking, _, window, rfl, look, attaches⟩ := traces_bind.mp run
      obtain ⟨attach, telling, result, rfl, attached, tells⟩ := traces_bind.mp attaches
      have looks := (only_locateStreamWindow _ _).of_traces look
      have ways := attached_of_attachSession attached
      have told : grant = result.toOption ∧
          ∀ event ∈ telling, stage event.1 = .command ∨ stage event.1 = .notification := by
        cases result with
        | ok session =>
            obtain ⟨_, _, _, rfl, spawned, notifies⟩ := traces_bind.mp tells
            obtain ⟨told, _, _, rfl, sent, rfl, rfl⟩ := traces_bind.mp notifies
            obtain rfl := traces_call.mp spawned
            refine ⟨rfl, fun event member => ?_⟩
            rw [List.append_nil] at member
            rcases List.mem_append.mp member with first | last
            · obtain rfl := List.mem_singleton.mp first
              exact .inl rfl
            · exact .inr ((only_notify _).of_traces sent event last)
        | error error =>
            obtain ⟨told, _, _, rfl, sent, rfl, rfl⟩ := traces_bind.mp tells
            refine ⟨rfl, fun event member => ?_⟩
            rw [List.append_nil] at member
            exact .inr ((only_notify _).of_traces sent event member)
      obtain ⟨rfl, quiet⟩ := told
      rw [← List.append_assoc]
      exact .attempted mode looks ways quiet

/-- The watch of the stream, from any number of failures on. -/
theorem rounds_of_traces {rounds localFailures remoteFailures : Nat} {result : PortResult Int}
    (alive : agentHealthFailure localFailures remoteFailures agentHealthFailureLimit = none)
    (run : Traces (waitForProcessOrMonitor request.controllerEndpoint request.endpoint rounds
      localFailures remoteFailures) trace result) :
    ∃ answers : List (PortResult Unit × PortResult Unit),
      let verdict := agentHealthFailure (failuresFrom localFailures (answers.map Prod.fst))
        (failuresFrom remoteFailures (answers.map Prod.snd)) agentHealthFailureLimit
      (verdict = none ∧ trace = checking request answers ++
        [⟨.watch request.controllerEndpoint request.endpoint, .exited result⟩]) ∨
      ∃ error answer, verdict = some error ∧ result = .error error ∧
        trace = checking request answers ++ [⟨.terminate, answer⟩] := by
  induction rounds generalizing localFailures remoteFailures trace with
  | zero =>
      obtain ⟨never, _⟩ := run
      exact nomatch never
  | succ rounds ih =>
      obtain ⟨answer, rest, rfl, later⟩ := run
      cases answer with
      | exited exit =>
          obtain ⟨rfl, rfl⟩ := later
          exact ⟨[], .inl ⟨alive, rfl⟩⟩
      | checked localAlive remoteAlive =>
          dsimp only [Program.bind] at later
          cases verdict : agentHealthFailure (failuresAfter localAlive localFailures)
              (failuresAfter remoteAlive remoteFailures) agentHealthFailureLimit with
          | some error =>
              rw [verdict] at later
              obtain ⟨answer, _, rfl, rfl, rfl⟩ := later
              exact ⟨[(localAlive, remoteAlive)], .inr ⟨error, answer, verdict, rfl, rfl⟩⟩
          | none =>
              rw [verdict] at later
              obtain ⟨answers, ⟨calm, rfl⟩ | ⟨error, answer, alarm, rfl, rfl⟩⟩ := ih verdict later
              · exact ⟨(localAlive, remoteAlive) :: answers, .inl ⟨calm, rfl⟩⟩
              · exact ⟨(localAlive, remoteAlive) :: answers, .inr ⟨error, answer, alarm, rfl, rfl⟩⟩

theorem watched_of_traces {rounds : Nat} {result : PortResult Int}
    (run : Traces (waitForProcessOrMonitor request.controllerEndpoint request.endpoint rounds 0 0) trace
      result) : Watched request trace result := by
  obtain ⟨answers, ⟨calm, rfl⟩ | ⟨error, answer, alarm, rfl, rfl⟩⟩ := rounds_of_traces rfl run
  · exact .exited calm
  · exact .abandoned alarm

theorem ended_of_restore {grant : Option SessionGrant} (run : Traces (restore request grant) trace ()) :
    Ended request grant trace := by
  cases grant with
  | none =>
      obtain ⟨rfl, _⟩ := run
      exact .nothing
  | some session =>
      obtain ⟨_, _, _, rfl, dropped, later⟩ := traces_bind.mp run
      obtain rfl := traces_call.mp dropped
      obtain ⟨_, telling, result, rfl, detach, tells⟩ := traces_bind.mp later
      obtain ⟨cleared, _, rfl, sent, _, rfl, same⟩ := detach
      obtain ⟨notification, answer, rfl⟩ : ∃ notification answer,
          telling = [⟨.notify notification, answer⟩] := by
        cases result with
        | ok value =>
            obtain ⟨answer, _, rfl, rfl, _⟩ := tells
            exact ⟨_, answer, rfl⟩
        | error error =>
            obtain ⟨answer, _, rfl, rfl, _⟩ := tells
            exact ⟨_, answer, rfl⟩
      cases sent <;> cases cleared <;> obtain ⟨rfl, rfl⟩ := same <;> exact .detached

/-- **Every complete trace is a course.** -/
theorem course_of_traces {rounds : Nat} {result : PortResult Int}
    (run : Traces (executeWithStarted node rounds request).run trace result) :
    Course request trace result := by
  unfold executeWithStarted at run
  obtain ⟨error, rfl, failed⟩ | ⟨prepared, _, launch, rfl, prepares, launches⟩ := traces_run_bind.mp run
  · exact .unprepared ((only_prepare _ _).of_traces failed)
  have early := (only_prepare _ _).of_traces prepares
  have ready := prepared_of_prepare prepares
  obtain ⟨error, rfl, failed⟩ | ⟨_, _, pid, rfl, launched, streams⟩ := traces_run_bind.mp launches
  · obtain rfl := traces_call.mp failed
    exact .unlaunched early ready
  · obtain rfl := traces_call.mp launched
    obtain ⟨shortcuts, _, grant, rfl, attached, starts⟩ := traces_bind.mp streams
    obtain ⟨_, _, _, rfl, started, watches⟩ := traces_bind.mp starts
    obtain rfl := traces_call.mp started
    obtain ⟨watched, _, exit, rfl, watch, restores⟩ := traces_bind.mp watches
    obtain ⟨ended, _, _, rfl, ends, rfl, rfl⟩ := traces_bind.mp restores
    rw [List.append_nil]
    change Course request (prepared ++ ⟨.launch launch, .ok pid⟩ :: (shortcuts ++ ⟨.started pid, ()⟩ ::
      (watched ++ ended))) _
    exact .streamed early ready (shortcuts_of_traces attached) (watched_of_traces watch)
      (ended_of_restore ends)

/-! ### The stages of the parts -/

theorem stage_of_attached {grant : Option SessionGrant} (ways : Attached request trace grant) :
    ∀ event ∈ trace, stage event.1 ∈ [Stage.keybinding, .attach] := by
  cases ways <;> simp [stage, attachCommand]

theorem stage_of_shortcuts {grant : Option SessionGrant} (session : Shortcuts request trace grant) :
    ∀ event ∈ trace, stage event.1 ∈ [Stage.look, .keybinding, .attach, .command, .notification] := by
  cases session with
  | skipped mode => exact List.forall_mem_nil _
  | attempted mode looks ways tells =>
      intro event member
      rcases List.mem_append.mp member with either | told
      · rcases List.mem_append.mp either with looked | attached
        · simp [looks event looked]
        · have inside := stage_of_attached ways event attached
          simp only [List.mem_cons, List.not_mem_nil, or_false] at inside ⊢
          tauto
      · rcases tells event told with same | same <;> simp [same]

theorem stage_of_watched {result : PortResult Int} (ran : Watched request trace result) :
    ∀ event ∈ trace, stage event.1 = .stream := by
  have checked (rounds : List (PortResult Unit × PortResult Unit)) :
      ∀ event ∈ checking request rounds, stage event.1 = .stream := by
    intro event member
    obtain ⟨round, _, rfl⟩ := List.mem_map.mp member
    rfl
  cases ran with
  | exited | abandoned =>
      intro event member
      rcases List.mem_append.mp member with round | last
      · exact checked _ event round
      · obtain rfl := List.mem_singleton.mp last
        rfl

theorem stage_of_ended {grant : Option SessionGrant} (closes : Ended request grant trace) :
    ∀ event ∈ trace, stage event.1 ∈ [Stage.stream, .keybinding, .detach, .notification] := by
  cases closes <;> simp [stage, detachCommand]

end Course

/-! ### What is promised -/

/-- The process has exited, or it was told to terminate. -/
def Stopped (trace : List PortEvent) : Prop :=
  ∃ event ∈ trace, event.1 = .terminate ∨ ∃ localAgent remoteAgent result,
    event = ⟨.watch localAgent remoteAgent, .exited result⟩

/-- The rounds of the health monitor in a trace. -/
def roundsOf (trace : List PortEvent) : List (PortResult Unit × PortResult Unit) :=
  trace.filterMap fun
    | ⟨.watch _ _, .checked localAlive remoteAlive⟩ => some (localAlive, remoteAlive)
    | _ => none

/-- The calls that act on keybindings and sessions. -/
def acting : List Stage := [.keybinding, .attach, .detach, .command]

/-- **The launch discipline.** -/
structure Disciplined (request : ConnectRequest) (trace : List PortEvent) (result : PortResult Int) :
    Prop where
  /-- A launch is the only one, and comes after everything was ready. -/
  launch : ∀ before launch answer after, trace = before ++ ⟨.launch launch, answer⟩ :: after →
    Prepared request before ∧ ∀ event ∈ before ++ after, stage event.1 ≠ .launch
  /-- Without a launch that succeeded nothing is done and nothing is told. -/
  unlaunched : (∀ launch pid, (⟨.launch launch, .ok pid⟩ : PortEvent) ∉ trace) →
    ∀ event ∈ trace, stage event.1 ∉ acting ∧ stage event.1 ≠ .notification
  /-- With local input nothing is done. -/
  localInput : request.inputMode = .local → ∀ event ∈ trace, stage event.1 ∉ acting
  /-- An attach comes after the launch and after the keybindings were installed. -/
  attach : ∀ before event after, trace = before ++ event :: after → stage event.1 = .attach →
    ∃ early launch pid late config, before = early ++ ⟨.launch launch, .ok pid⟩ :: late ∧
      (⟨.install config, .ok ()⟩ : PortEvent) ∈ late
  /-- A grant is followed by one detach, with its claim, after the process was stopped. -/
  detach : ∀ before endpoint command claim response grant after,
    trace = before ++ ⟨.sendCommand endpoint command claim, .ok response⟩ :: after →
      stage (.sendCommand endpoint command claim) = .attach → response.session = some grant →
    ∃ watched answer rest, after = watched ++ ⟨detachCommand request grant, answer⟩ :: rest ∧
      Stopped watched ∧ ∀ event ∈ before ++ watched ++ rest, stage event.1 ≠ .detach
  /-- After the launch, what is returned is what the process or the monitor ended with. -/
  returned : ∀ launch pid, (⟨.launch launch, .ok pid⟩ : PortEvent) ∈ trace →
    (∃ localAgent remoteAgent,
      (⟨.watch localAgent remoteAgent, .exited result⟩ : PortEvent) ∈ trace) ∨
    ∃ error answer, (⟨.terminate, answer⟩ : PortEvent) ∈ trace ∧
      monitorError (roundsOf trace) = some error ∧ result = .error error

section Disciplined

variable {request : ConnectRequest} {trace : List PortEvent} {result : PortResult Int}

/-- An event that is alone in its stage has one place. -/
theorem split_unique {first second before after : List PortEvent} {here there : PortEvent}
    (same : first ++ here :: second = before ++ there :: after)
    (early : ∀ event ∈ first, stage event.1 ≠ stage there.1)
    (late : ∀ event ∈ second, stage event.1 ≠ stage there.1) :
    first = before ∧ here = there ∧ second = after :=
  (List.append_cons_inj_of_notMem (fun member => early _ member rfl)
    fun member => late _ member rfl).mp same

/-- An attach is sent once, right after the install that succeeded, or not at all. -/
theorem attached_cases {grant : Option SessionGrant} (ways : Attached request trace grant) :
    (∀ event ∈ trace, stage event.1 ≠ .attach) ∨ ∃ window answer rest,
      trace = ⟨.install ⟨.controller, none, window⟩, .ok ()⟩ :: ⟨attachCommand request window, answer⟩ ::
        rest ∧ (∀ event ∈ rest, stage event.1 = .keybinding) ∧
          ∀ response, answer = .ok response → grant = response.session := by
  cases ways with
  | skipped => exact .inl (List.forall_mem_nil _)
  | failed => exact .inl (by simp [stage])
  | refused => exact .inr ⟨_, _, _, rfl, by simp [stage], fun _ same => by cases same⟩
  | @ungranted window response none =>
      refine .inr ⟨window, .ok response, [], rfl, List.forall_mem_nil _, fun answered same => ?_⟩
      rw [← Except.ok.inj same, none]
  | @granted window response grant some =>
      refine .inr ⟨window, .ok response, [], rfl, List.forall_mem_nil _, fun answered same => ?_⟩
      rw [← Except.ok.inj same, some]

theorem roundsOf_append (first second : List PortEvent) :
    roundsOf (first ++ second) = roundsOf first ++ roundsOf second := List.filterMap_append

/-- Other stages have no rounds. -/
theorem roundsOf_of_stage (other : ∀ event ∈ trace, stage event.1 ≠ .stream) : roundsOf trace = [] := by
  refine List.filterMap_eq_nil_iff.mpr fun ⟨asked, answer⟩ member => ?_
  cases asked with
  | watch => exact absurd rfl (other _ member)
  | _ => rfl

theorem roundsOf_checking (rounds : List (PortResult Unit × PortResult Unit)) :
    roundsOf (checking request rounds) = rounds := by
  induction rounds with
  | nil => rfl
  | cons round rounds ih => exact congrArg (round :: ·) ih

theorem stopped_of_watched (ran : Watched request trace result) : Stopped trace := by
  cases ran with
  | exited alive => exact ⟨_, List.mem_append_right _ (List.mem_singleton_self _), .inr ⟨_, _, _, rfl⟩⟩
  | abandoned failed => exact ⟨_, List.mem_append_right _ (List.mem_singleton_self _), .inl rfl⟩

section Streamed

variable {prepared shortcuts watched ended : List PortEvent} {launch : StreamLaunchRequest}
  {pid : Option Nat} {grant : Option SessionGrant}

/-- What holds of an event, and of those before and after it. -/
theorem forall_mem_around {holds : PortEvent → Prop} {before after : List PortEvent}
    {event : PortEvent} (early : ∀ event ∈ before, holds event) (here : holds event)
    (late : ∀ event ∈ after, holds event) : ∀ other ∈ before ++ event :: after, holds other :=
  List.forall_mem_append.mpr ⟨early, List.forall_mem_cons.mpr ⟨here, late⟩⟩

/-- The events after a launch. -/
def streaming (pid : Option Nat) (shortcuts watched ended : List PortEvent) : List PortEvent :=
  shortcuts ++ ⟨.started pid, ()⟩ :: (watched ++ ended)

/-- What follows a launch is neither its preparation nor another launch. -/
theorem stage_of_streaming (session : Shortcuts request shortcuts grant)
    (ran : Watched request watched result) (closes : Ended request grant ended) :
    ∀ event ∈ streaming pid shortcuts watched ended,
      stage event.1 ≠ .prepare ∧ stage event.1 ≠ .launch := by
  refine forall_mem_around ?_ ⟨nofun, nofun⟩ (List.forall_mem_append.mpr ⟨?_, ?_⟩)
  · intro event member
    have inside := stage_of_shortcuts session event member
    constructor <;> rintro same <;> simp [same] at inside
  · intro event member
    rw [stage_of_watched ran event member]
    exact ⟨nofun, nofun⟩
  · intro event member
    have inside := stage_of_ended closes event member
    constructor <;> rintro same <;> simp [same] at inside

/-- The place of the launch. -/
theorem launch_of_streamed (early : ∀ event ∈ prepared, stage event.1 = .prepare)
    (session : Shortcuts request shortcuts grant) (ran : Watched request watched result)
    (closes : Ended request grant ended) {before after : List PortEvent} {event : PortEvent}
    (same : prepared ++ ⟨.launch launch, .ok pid⟩ :: streaming pid shortcuts watched ended =
      before ++ event :: after) (here : stage event.1 = .launch) :
    prepared = before ∧ streaming pid shortcuts watched ended = after := by
  obtain ⟨first, _, second⟩ := split_unique same
    (fun event member => by rw [early event member, here]; exact nofun)
    fun event member => by rw [here]; exact (stage_of_streaming session ran closes event member).2
  exact ⟨first, second⟩

/-- Once the stream has started, there is no attach. -/
theorem not_attach_from_started (ran : Watched request watched result)
    (closes : Ended request grant ended) :
    ∀ event ∈ (⟨.started pid, ()⟩ : PortEvent) :: (watched ++ ended), stage event.1 ≠ .attach := by
  refine List.forall_mem_cons.mpr ⟨nofun, List.forall_mem_append.mpr ⟨?_, ?_⟩⟩
  · intro event member
    rw [stage_of_watched ran event member]
    exact nofun
  · rintro event member same
    simpa [same] using stage_of_ended closes event member

/-- The place of an attach: after the install that succeeded, before what is told of it. -/
theorem attach_of_streamed (early : ∀ event ∈ prepared, stage event.1 = .prepare)
    (session : Shortcuts request shortcuts grant) (ran : Watched request watched result)
    (closes : Ended request grant ended) {before after : List PortEvent} {event : PortEvent}
    (same : prepared ++ ⟨.launch launch, .ok pid⟩ :: streaming pid shortcuts watched ended =
      before ++ event :: after) (here : stage event.1 = .attach) :
    ∃ looking window answer rest,
      before = prepared ++ ⟨.launch launch, .ok pid⟩ ::
        (looking ++ [⟨.install ⟨.controller, none, window⟩, .ok ()⟩]) ∧
      event = ⟨attachCommand request window, answer⟩ ∧
      after = rest ++ ⟨.started pid, ()⟩ :: (watched ++ ended) ∧
      (∀ event ∈ looking ++ rest, stage event.1 ≠ .attach ∧ stage event.1 ≠ .detach) ∧
      ∀ response, answer = .ok response → grant = response.session := by
  have ready : ∀ event ∈ prepared, stage event.1 ≠ .attach := fun event member => by
    rw [early event member]
    exact nofun
  have ending := @not_attach_from_started _ _ _ _ pid _ ran closes
  have inside : event ∈ prepared ++ ⟨.launch launch, .ok pid⟩ :: streaming pid shortcuts watched ended :=
    same ▸ List.mem_append_right _ List.mem_cons_self
  have found : event ∈ shortcuts := by
    rcases List.mem_append.mp inside with first | rest
    · exact absurd here (ready event first)
    rcases List.mem_cons.mp rest with rfl | rest
    · exact nomatch here
    · exact (List.mem_append.mp rest).resolve_right fun member => ending event member here
  cases session with
  | skipped mode => exact absurd found List.not_mem_nil
  | @attempted looking attach telling _ remote looks ways tells =>
      have quietly : ∀ event ∈ looking, stage event.1 ≠ .attach ∧ stage event.1 ≠ .detach := by
        intro event member
        rw [looks event member]
        exact ⟨nofun, nofun⟩
      have softly : ∀ event ∈ telling, stage event.1 ≠ .attach ∧ stage event.1 ≠ .detach := by
        intro event member
        rcases tells event member with kind | kind <;> rw [kind] <;> exact ⟨nofun, nofun⟩
      rcases attached_cases ways with never | ⟨window, answer, rest, rfl, last, granted⟩
      · rcases List.mem_append.mp found with either | told
        · rcases List.mem_append.mp either with looked | attached
          · exact absurd here (quietly event looked).1
          · exact absurd here (never event attached)
        · exact absurd here (softly event told).1
      · have regrouped : (prepared ++ ⟨.launch launch, .ok pid⟩ ::
            (looking ++ [⟨.install ⟨.controller, none, window⟩, .ok ()⟩])) ++
              ⟨attachCommand request window, answer⟩ ::
                ((rest ++ telling) ++ ⟨.started pid, ()⟩ :: (watched ++ ended)) =
            before ++ event :: after := by
          rw [← same]
          simp [streaming]
        have cleared : ∀ event ∈ rest, stage event.1 ≠ .attach ∧ stage event.1 ≠ .detach := by
          intro event member
          rw [last event member]
          exact ⟨nofun, nofun⟩
        have later := List.forall_mem_append.mpr ⟨cleared, softly⟩
        have first : ∀ event ∈ prepared ++ ⟨.launch launch, .ok pid⟩ ::
            (looking ++ [⟨.install ⟨.controller, none, window⟩, .ok ()⟩]), stage event.1 ≠ .attach :=
          forall_mem_around ready nofun (List.forall_mem_append.mpr
            ⟨fun event looked => (quietly event looked).1, List.forall_mem_singleton.mpr nofun⟩)
        have second : ∀ event ∈ (rest ++ telling) ++ ⟨.started pid, ()⟩ :: (watched ++ ended),
            stage event.1 ≠ .attach :=
          List.forall_mem_append.mpr ⟨fun event told => (later event told).1, ending⟩
        rw [← here] at first second
        obtain ⟨rfl, rfl, rfl⟩ := split_unique regrouped first second
        exact ⟨looking, window, answer, rest ++ telling, rfl, rfl, rfl,
          List.forall_mem_append.mpr ⟨quietly, later⟩, granted⟩

/-- A grant is given back. -/
theorem detach_of_streamed (early : ∀ event ∈ prepared, stage event.1 = .prepare)
    (session : Shortcuts request shortcuts grant) (ran : Watched request watched result)
    (closes : Ended request grant ended) {before after : List PortEvent} {endpoint : AgentEndpoint}
    {command : RemoteCommand} {claim : Option SessionClaim} {response : CommandResponse}
    {received : SessionGrant}
    (same : prepared ++ ⟨.launch launch, .ok pid⟩ :: streaming pid shortcuts watched ended =
      before ++ ⟨.sendCommand endpoint command claim, .ok response⟩ :: after)
    (here : stage (.sendCommand endpoint command claim) = .attach)
    (some : response.session = some received) :
    ∃ watched answer rest, after = watched ++ ⟨detachCommand request received, answer⟩ :: rest ∧
      Stopped watched ∧ ∀ event ∈ before ++ watched ++ rest, stage event.1 ≠ .detach := by
  obtain ⟨looking, window, answer, rest, rfl, sent, rfl, quiet, granted⟩ :=
    attach_of_streamed early session ran closes same here
  have given : grant = .some received := by
    unfold attachCommand at sent
    cases sent
    exact (granted response rfl).trans some
  subst given
  cases closes with
  | @detached _ cleared detached notification told =>
      refine ⟨rest ++ ⟨.started pid, ()⟩ :: (watched ++ [⟨.dropHeartbeat, ()⟩, ⟨.clear, cleared⟩]),
        detached, [⟨.notify notification, told⟩], by simp, ?_, ?_⟩
      · obtain ⟨event, member, stopped⟩ := stopped_of_watched ran
        exact ⟨event, by simp [member], stopped⟩
      · obtain ⟨looks, tells⟩ := List.forall_mem_append.mp quiet
        have ready : ∀ event ∈ prepared, stage event.1 ≠ .detach := fun event member => by
          rw [early event member]
          exact nofun
        have watches : ∀ event ∈ watched, stage event.1 ≠ .detach := fun event member => by
          rw [stage_of_watched ran event member]
          exact nofun
        have opening : ∀ event ∈ prepared ++ ⟨.launch launch, .ok pid⟩ ::
            (looking ++ [⟨.install ⟨.controller, none, window⟩, .ok ()⟩]), stage event.1 ≠ .detach :=
          forall_mem_around ready nofun (List.forall_mem_append.mpr
            ⟨fun event looked => (looks event looked).2, List.forall_mem_singleton.mpr nofun⟩)
        have telling : ∀ event ∈ rest ++ ⟨.started pid, ()⟩ ::
            (watched ++ [⟨.dropHeartbeat, ()⟩, ⟨.clear, cleared⟩]), stage event.1 ≠ .detach :=
          forall_mem_around (fun event told => (tells event told).2) nofun
            (List.forall_mem_append.mpr ⟨watches, by simp [stage]⟩)
        exact List.forall_mem_append.mpr ⟨List.forall_mem_append.mpr ⟨opening, telling⟩, by simp [stage]⟩

/-- What is returned after a launch. -/
theorem returned_of_streamed (early : ∀ event ∈ prepared, stage event.1 = .prepare)
    (session : Shortcuts request shortcuts grant) (ran : Watched request watched result)
    (closes : Ended request grant ended)
    (same : trace = prepared ++ ⟨.launch launch, .ok pid⟩ :: streaming pid shortcuts watched ended) :
    (∃ localAgent remoteAgent,
      (⟨.watch localAgent remoteAgent, .exited result⟩ : PortEvent) ∈ trace) ∨
    ∃ error answer, (⟨.terminate, answer⟩ : PortEvent) ∈ trace ∧
      monitorError (roundsOf trace) = some error ∧ result = .error error := by
  have inside : ∀ event ∈ watched, event ∈ trace := by
    intro event member
    rw [same]
    simp [streaming, member]
  have heard : roundsOf trace = roundsOf watched := by
    have first : roundsOf prepared = [] :=
      roundsOf_of_stage fun event member => by rw [early event member]; exact nofun
    have second : roundsOf shortcuts = [] :=
      roundsOf_of_stage fun event member kind => by
        simpa [kind] using stage_of_shortcuts session event member
    have third : roundsOf ended = [] := by
      cases closes <;> rfl
    calc roundsOf trace
        = roundsOf prepared ++ roundsOf (streaming pid shortcuts watched ended) := by
          rw [same, roundsOf_append]
          rfl
      _ = roundsOf shortcuts ++ roundsOf (watched ++ ended) := by
          rw [first, List.nil_append, streaming, roundsOf_append]
          rfl
      _ = roundsOf watched := by
          rw [second, List.nil_append, roundsOf_append, third, List.append_nil]
  cases ran with
  | exited alive =>
      exact .inl ⟨_, _, inside _ (List.mem_append_right _ (List.mem_singleton_self _))⟩
  | @abandoned rounds error answer failed =>
      refine .inr ⟨error, answer, inside _ (List.mem_append_right _ (List.mem_singleton_self _)), ?_, rfl⟩
      have rest : roundsOf [⟨.terminate, answer⟩] = [] := rfl
      rw [heard, roundsOf_append, roundsOf_checking, rest, List.append_nil, failed]

end Streamed

/-- A connection that was not prepared has done nothing else. -/
theorem disciplined_of_unprepared {error : PortError} (early : ∀ event ∈ trace, stage event.1 = .prepare) :
    Disciplined request trace (.error error) := by
  have never {before after : List PortEvent} {event : PortEvent} (same : trace = before ++ event :: after) :
      stage event.1 = .prepare := early event (same ▸ List.mem_append_right _ List.mem_cons_self)
  constructor
  case launch => exact fun before launch answer after same => nomatch never same
  case unlaunched =>
    intro _ event member
    rw [early event member]
    exact ⟨by decide, nofun⟩
  case localInput =>
    intro _ event member
    rw [early event member]
    decide
  case attach => exact fun before event after same here => nomatch (never same).symm.trans here
  case detach =>
    exact fun before endpoint command claim response grant after same here =>
      nomatch (never same).symm.trans here
  case returned => exact fun launch pid member => nomatch early _ member

/-- A launch that failed is the last that was done. -/
theorem disciplined_of_unlaunched {prepared : List PortEvent} {launch : StreamLaunchRequest}
    {error : PortError} (early : ∀ event ∈ prepared, stage event.1 = .prepare)
    (ready : Prepared request prepared) :
    Disciplined request (prepared ++ [⟨.launch launch, .error error⟩]) (.error error) := by
  have stages : ∀ event ∈ prepared ++ [⟨.launch launch, .error error⟩],
      stage event.1 = .prepare ∨ event = ⟨.launch launch, .error error⟩ := by
    intro event member
    rcases List.mem_append.mp member with first | last
    · exact .inl (early event first)
    · exact .inr (List.mem_singleton.mp last)
  have quiet : ∀ event ∈ prepared ++ [⟨.launch launch, .error error⟩],
      stage event.1 ∉ acting ∧ stage event.1 ≠ .notification := by
    intro event member
    rcases stages event member with kind | rfl
    · rw [kind]
      exact ⟨by decide, nofun⟩
    · change Stage.launch ∉ acting ∧ Stage.launch ≠ .notification
      exact ⟨by decide, nofun⟩
  have never {before after : List PortEvent} {event : PortEvent}
      (same : prepared ++ [(⟨.launch launch, .error error⟩ : PortEvent)] = before ++ event :: after) :
      stage event.1 ≠ .attach := fun here =>
    (quiet event (same ▸ List.mem_append_right _ List.mem_cons_self)).1 (by rw [here]; decide)
  constructor
  case launch =>
    intro before other answer after same
    obtain ⟨rfl, _, rfl⟩ := split_unique same
      (fun event member => by rw [early event member]; exact nofun) (List.forall_mem_nil _)
    refine ⟨ready, fun event member => ?_⟩
    rw [List.append_nil] at member
    rw [early event member]
    exact nofun
  case unlaunched => exact fun _ => quiet
  case localInput => exact fun _ event member => (quiet event member).1
  case attach => exact fun before event after same here => absurd here (never same)
  case detach =>
    exact fun before endpoint command claim response grant after same here => absurd here (never same)
  case returned =>
    intro other pid member
    rcases stages _ member with kind | same
    · exact nomatch kind
    · exact nomatch same

/-- A stream that was launched. -/
theorem disciplined_of_streamed {prepared shortcuts watched ended : List PortEvent}
    {launch : StreamLaunchRequest} {pid : Option Nat} {grant : Option SessionGrant}
    (early : ∀ event ∈ prepared, stage event.1 = .prepare) (ready : Prepared request prepared)
    (session : Shortcuts request shortcuts grant) (ran : Watched request watched result)
    (closes : Ended request grant ended) :
    Disciplined request (prepared ++ ⟨.launch launch, .ok pid⟩ :: streaming pid shortcuts watched ended)
      result := by
  constructor
  case launch =>
    intro before other answer after same
    obtain ⟨rfl, rfl⟩ := launch_of_streamed early session ran closes same rfl
    refine ⟨ready, fun event member => ?_⟩
    rcases List.mem_append.mp member with first | second
    · rw [early event first]
      exact nofun
    · exact (stage_of_streaming session ran closes event second).2
  case unlaunched =>
    exact fun none => absurd (List.mem_append_right _ List.mem_cons_self) (none launch pid)
  case localInput =>
    intro mode event member
    cases session with
    | attempted remote => exact nomatch mode.symm.trans remote
    | skipped =>
        cases closes
        rcases List.mem_append.mp member with first | rest
        · rw [early event first]
          decide
        rcases List.mem_cons.mp rest with rfl | rest
        · change Stage.launch ∉ acting
          decide
        rcases List.mem_cons.mp rest with rfl | rest
        · change Stage.stream ∉ acting
          decide
        · rw [List.append_nil] at rest
          rw [stage_of_watched ran event rest]
          decide
  case attach =>
    intro before event after same here
    obtain ⟨looking, window, _, _, rfl, _⟩ := attach_of_streamed early session ran closes same here
    exact ⟨prepared, launch, pid, _, _, rfl, List.mem_append_right _ (List.mem_singleton_self _)⟩
  case detach =>
    intro before endpoint command claim response grant after same here some
    exact detach_of_streamed early session ran closes same here some
  case returned => exact fun _ _ _ => returned_of_streamed early session ran closes rfl

/-- **The launch discipline**: every connection that runs to its end, whatever its ports answer, is
disciplined. -/
theorem disciplined_of_traces {node : ConnectNode} {rounds : Nat}
    (run : Traces (executeWithStarted node rounds request).run trace result) :
    Disciplined request trace result := by
  cases course_of_traces run with
  | unprepared early => exact disciplined_of_unprepared early
  | unlaunched early ready => exact disciplined_of_unlaunched early ready
  | streamed early ready session ran closes => exact disciplined_of_streamed early ready session ran closes

end Disciplined

/-- The connection of the desk, whose shortcuts were granted. -/
theorem disciplined_of_traces_granted :
    ∃ trace : List PortEvent, ⟨detachCommand deskRequest deskGrant, .ok .done⟩ ∈ trace ∧
      Disciplined deskRequest trace (.ok 0) :=
  ⟨launched ++ granted, by simp [granted, detachCommand], disciplined_of_traces traces_granted⟩

end Omdesky.Application
