/-
**Commands between agents.**

An agent whose session is Remote passes every command that is not about the session on to its
controller, under a fresh request identifier. Nothing in the request tells where it came from.

* `HandledHere`: a command is executed once on the agent's own desktop, or answered with an error and not
  executed, and is not passed on.
* `runs_runCommand`: what one `run_command` passes on, from the state of its coordinator alone; what it does
  not pass on it handles itself.
* `Network`, `Step`: any number of agents with their coordinators and the commands in flight.
  Sessions come and go, clients and sessions send commands, and agents receive them.
* `commands_terminate_iff`: in a whole run every command stops at the first controller it reaches, which
  handles it on its own desktop, exactly as long as no such command is received by an agent that then
  holds a live Remote session.
* `two_controllers_bounce`: two agents that control each other send a command back.
-/

import Omdesky.Agent.Api.Handlers
import Omdesky.Agent.Session.Outcome

namespace Omdesky.Agent

open Interaction Interaction.Program
open Platform (resolveDisplaySwitchShortcut sendShortcut_of_resolve)

/-! ### One agent -/

/-- The surroundings of an agent: its coordinator, and everything else, which may answer anything. -/
def agentWorld : World AgentRequest AgentAnswer Desk
  | .session request, desk, answer, after => sessionWorld anyEffect request desk answer after
  | _, desk, _, after => after = desk

/-- What an agent passed on among these events: the controller and the command. -/
def relayed (trace : List AgentEvent) : List (AgentEndpoint × RemoteCommand) :=
  trace.filterMap fun
    | ⟨.relay controller command, _⟩ => some (controller, command)
    | _ => none

@[simp] theorem relayed_nil : relayed [] = [] := rfl

theorem relayed_append (before after : List AgentEvent) :
    relayed (before ++ after) = relayed before ++ relayed after := List.filterMap_append

/-- The commands that an agent executed on its own desktop among these events. -/
def performed (trace : List AgentEvent) : List RemoteCommand :=
  trace.filterMap fun
    | ⟨.execute command, .ok ()⟩ => some command
    | _ => none

@[simp] theorem performed_nil : performed [] = [] := rfl

theorem performed_append (before after : List AgentEvent) :
    performed (before ++ after) = performed before ++ performed after := List.filterMap_append

/-- The events admit the request: it was authorized and valid, and it is fresh. -/
def Admits (trace : List AgentEvent) : Prop :=
  ∃ requestId issuedAt, ⟨.admitRequest requestId issuedAt, .ok ()⟩ ∈ trace

theorem admits_append {before after : List AgentEvent} :
    Admits (before ++ after) ↔ Admits before ∨ Admits after := by
  simp only [Admits, List.mem_append, exists_or]

/-- The controller of the Remote session that is live at `now`. -/
def liveController (state : CoordinatorState) (now : Instant) : Option AgentEndpoint :=
  controllerOf (if leaseElapsed state now then none else state.active)

/-- The command is carried out as another one: a display switch as the shortcut that it stands for among
the displays of its sender, every other command as itself. -/
def CarriedOut (config : AgentConfig) (source : SocketAddr) (trace : List AgentEvent)
    (command carried : RemoteCommand) : Prop :=
  match command with
  | .switchStreamDisplay display => ∃ displays,
      ⟨.remoteDisplays { address := source.ip, port := config.agentPort }, .ok displays⟩ ∈ trace ∧
        resolveDisplaySwitchShortcut displays display = .ok carried
  | command => carried = command

/-- **The command is handled on the agent's own desktop**: nothing is passed on, and it is either executed
once and answered with `done`, or answered with an error and not executed. -/
structure HandledHere {α : Type} (config : AgentConfig) (source : SocketAddr) (command : RemoteCommand)
    (trace : List AgentEvent) (done : α) (result : Except ApiError α) : Prop where
  kept : relayed trace = []
  settled : (∃ carried, CarriedOut config source trace command carried ∧ performed trace = [carried] ∧
      result = .ok done) ∨
    ∃ error, performed trace = [] ∧ result = .error error

/-- Neither the session, nor another agent, nor the desktop, nor the replay guard. -/
def Quiet : AgentRequest → Prop
  | .session _ | .relay _ _ | .execute _ | .admitRequest _ _ => False
  | _ => True

section OneAgent

variable {config : AgentConfig} {source : SocketAddr} {request : CommandRequest} {command : RemoteCommand}
  {desk after : Desk} {trace : List AgentEvent} {α : Type}

/-- A quiet program executes and passes on nothing, and leaves the session alone. -/
theorem runs_quiet {program : AgentM α} (uses : Uses Quiet program) :
    ∀ {desk after : Desk} {trace : List AgentEvent} {value : α},
      Runs agentWorld program desk trace value after →
        after = desk ∧ relayed trace = [] ∧ performed trace = [] ∧ ¬ Admits trace := by
  induction program with
  | done result =>
      rintro desk after trace value ⟨rfl, rfl, rfl⟩
      exact ⟨rfl, rfl, rfl, by simp [Admits]⟩
  | ask use next ih =>
      rintro desk after trace value ⟨answer, middle, rest, rfl, answered, run⟩
      obtain ⟨rfl, nothing, idle, refused⟩ := ih answer (uses.2 answer) run
      have here := uses.1
      have stays : after = desk ∧ relayed [⟨use, answer⟩] = [] ∧ performed [⟨use, answer⟩] = [] ∧
          ¬ Admits [⟨use, answer⟩] := by
        cases use with
        | session | relay | execute | admitRequest => exact here.elim
        | _ => exact ⟨answered, rfl, rfl, by simp [Admits]⟩
      obtain ⟨same, silent, still, plain⟩ := stays
      refine ⟨same, ?_, ?_, ?_⟩
      · rw [← List.singleton_append, relayed_append, silent, nothing, List.append_nil]
      · rw [← List.singleton_append, performed_append, still, idle, List.append_nil]
      · rw [← List.singleton_append, admits_append]
        exact not_or.mpr ⟨plain, refused⟩

/-- An event before those of a command that is handled here. -/
theorem HandledHere.after_quiet {before : List AgentEvent} {done : α} {result : Except ApiError α}
    (handled : HandledHere config source command trace done result) (silent : relayed before = [])
    (idle : performed before = []) :
    HandledHere config source command (before ++ trace) done result where
  kept := by rw [relayed_append, silent, handled.kept, List.append_nil]
  settled := by
    rw [performed_append, idle, List.nil_append]
    refine handled.settled.imp ?_ id
    rintro ⟨carried, out, once, rfl⟩
    refine ⟨carried, ?_, once, rfl⟩
    unfold CarriedOut at out ⊢
    cases command with
    | switchStreamDisplay display =>
        obtain ⟨displays, asked, resolved⟩ := out
        exact ⟨displays, List.mem_append_right _ asked, resolved⟩
    | _ => exact out

/-- The answer in the reply of the route. -/
theorem HandledHere.reply {done response : CommandResponse}
    (handled : HandledHere config source command trace done (.ok response)) :
    HandledHere config source command trace (ApiReply.command done) (.ok (.command response)) := by
  refine ⟨handled.kept, handled.settled.imp ?_ ?_⟩
  · rintro ⟨carried, out, once, ⟨⟩⟩
    exact ⟨carried, out, once, rfl⟩
  · rintro ⟨error, _, ⟨⟩⟩

theorem HandledHere.refused {α β : Type} {done : α} {other : β} {error : ApiError}
    (handled : HandledHere config source command trace done (.error error)) :
    HandledHere config source command trace other (.error error) := by
  refine ⟨handled.kept, .inr ?_⟩
  obtain ⟨_, _, _, ⟨⟩⟩ | ⟨_, idle, ⟨⟩⟩ := handled.settled
  exact ⟨error, idle, rfl⟩

/-- Every command but a display switch is carried out as itself. -/
theorem carriedOut_self (plain : ∀ display, command ≠ .switchStreamDisplay display) :
    CarriedOut config source trace command command := by
  unfold CarriedOut
  cases command with
  | switchStreamDisplay display => exact absurd rfl (plain display)
  | _ => rfl

theorem runs_executeHere {result : Except ApiError CommandResponse}
    (plain : ∀ display, command ≠ .switchStreamDisplay display)
    (run : Runs agentWorld (executeHere command).run desk trace result after) :
    after = desk ∧ HandledHere config source command trace .done result := by
  unfold executeHere at run
  obtain ⟨answer, _, rest, rfl, rfl, run⟩ := run
  cases answer with
  | error error =>
      obtain ⟨rfl, rfl, rfl⟩ := run
      exact ⟨rfl, rfl, .inr ⟨_, rfl, rfl⟩⟩
  | ok _ =>
      dsimp only [Program.bind] at run
      cases notified : controllerCommandNotification command with
      | none =>
          rw [notified] at run
          obtain ⟨rfl, rfl, rfl⟩ := run
          exact ⟨rfl, rfl, .inl ⟨command, carriedOut_self plain, rfl, rfl⟩⟩
      | some notification =>
          rw [notified] at run
          obtain ⟨answer, _, _, rfl, rfl, rfl, rfl, rfl⟩ := run
          exact ⟨rfl, rfl, .inl ⟨command, carriedOut_self plain, rfl, rfl⟩⟩

theorem eq_ok_of_mapError {ε β : Type} {convert : ε → ApiError} {answer : Except ε β} {value : β}
    (told : .ok value = answer.mapError convert) : answer = .ok value := by
  cases answer with
  | error error => cases told
  | ok other =>
      cases told
      rfl

/-- The notices of a display switch. -/
theorem runs_debug {text : String} {result : Except ApiError Unit}
    (run : Runs agentWorld (liftM (sendDebugNotification config text) : ApiM Unit).run desk trace result
      after) : after = desk ∧ relayed trace = [] ∧ performed trace = [] ∧ result = .ok () := by
  have uses : Uses Quiet (liftM (sendDebugNotification config text) : ApiM Unit).run :=
    uses_bind (uses_sendDebugNotification config text fun _ => trivial) fun _ => trivial
  obtain ⟨same, silent, idle, _⟩ := runs_quiet uses run
  refine ⟨same, silent, idle, ?_⟩
  obtain ⟨_, _, _, _, _, _, last⟩ := runs_bind.mp run
  exact last.2.1

/-- A display switch is executed once as its shortcut, or an error is answered. -/
theorem runs_switchDisplayHere {display : DisplayId} {result : Except ApiError CommandResponse}
    (run : Runs agentWorld (switchDisplayHere config source display).run desk trace result after) :
    after = desk ∧ HandledHere config source (.switchStreamDisplay display) trace .done result := by
  unfold switchDisplayHere at run
  obtain ⟨error, rfl, early⟩ | ⟨before, rest, _, middle, rfl, early, asks⟩ := runs_run_bind.mp run
  · cases (runs_debug early).2.2.2
  obtain ⟨rfl, silent, idle, _⟩ := runs_debug early
  suffices handled : after = middle ∧
      HandledHere config source (.switchStreamDisplay display) rest .done result from
    ⟨handled.1, handled.2.after_quiet silent idle⟩
  obtain ⟨error, rfl, failed⟩ | ⟨_, rest, displays, _, rfl, asked, resolves⟩ := runs_run_bind.mp asks
  · obtain ⟨answer, _, _, rfl, rfl, rfl, refused, rfl⟩ := failed
    exact ⟨rfl, rfl, .inr ⟨_, rfl, rfl⟩⟩
  obtain ⟨answer, _, _, rfl, rfl, rfl, told, rfl⟩ := asked
  obtain rfl := eq_ok_of_mapError told
  obtain ⟨error, rfl, failed⟩ | ⟨_, rest, shortcut, _, rfl, found, executes⟩ := runs_run_bind.mp resolves
  · obtain ⟨rfl, refused, rfl⟩ := failed
    exact ⟨rfl, rfl, .inr ⟨_, rfl, rfl⟩⟩
  obtain ⟨rfl, told, rfl⟩ := found
  have resolved := eq_ok_of_mapError told
  obtain ⟨outcome, _, rest, rfl, rfl, tells⟩ := executes
  obtain ⟨error, rfl, failed⟩ | ⟨told, rest, _, _, rfl, noticed, ends⟩ := runs_run_bind.mp tells
  · cases (runs_debug failed).2.2.2
  obtain ⟨rfl, quiet, still, _⟩ := runs_debug noticed
  obtain ⟨error, rfl, failed⟩ | ⟨_, _, _, _, rfl, succeeded, returns⟩ := runs_run_bind.mp ends
  · obtain ⟨rfl, refused, rfl⟩ := failed
    cases outcome with
    | ok _ => cases refused
    | error error =>
        exact ⟨rfl, (congrArg relayed (List.append_nil told)).trans quiet,
          .inr ⟨_, (congrArg performed (List.append_nil told)).trans still, rfl⟩⟩
  · obtain ⟨rfl, succeeds, rfl⟩ := succeeded
    obtain ⟨rfl, rfl, rfl⟩ := returns
    obtain rfl := eq_ok_of_mapError succeeds
    have once : performed (⟨.execute shortcut, .ok ()⟩ :: (told ++ ([] ++ []))) = [shortcut] := by
      rw [List.append_nil, List.append_nil]
      exact congrArg (shortcut :: ·) still
    exact ⟨rfl, (congrArg relayed (List.append_nil told)).trans quiet,
      .inl ⟨shortcut, ⟨displays, List.mem_cons_self, resolved⟩, once, rfl⟩⟩

/-- **The local branch of `run_command`.** The command is handled on this desktop. -/
theorem runs_handleHere {result : Except ApiError CommandResponse}
    (run : Runs agentWorld (handleHere config source command).run desk trace result after) :
    after = desk ∧ HandledHere config source command trace .done result := by
  unfold handleHere at run
  split at run
  · exact runs_switchDisplayHere run
  · rename_i plain
    exact runs_executeHere (fun display same => plain display same) run

/-- A Remote session passes the command on to its controller; otherwise it is handled here. -/
theorem runs_routeCommand {session : Option ActiveSession} {result : Except ApiError CommandResponse}
    (run : Runs agentWorld (routeCommand config source command session).run desk trace result after) :
    after = desk ∧ relayed trace = (controllerOf session).toList.map (·, command) ∧
      (controllerOf session = none → HandledHere config source command trace .done result) := by
  have here {result} (run : Runs agentWorld (handleHere config source command).run desk trace
      result after) : after = desk ∧ relayed trace = [] ∧
        HandledHere config source command trace .done result := by
    obtain ⟨same, handled⟩ := runs_handleHere run
    exact ⟨same, handled.kept, handled⟩
  unfold routeCommand at run
  cases session with
  | none =>
      obtain ⟨same, nothing, handled⟩ := here run
      exact ⟨same, nothing, fun _ => handled⟩
  | some session =>
      unfold controllerOf
      rw [Option.bind_some]
      dsimp only at run
      cases role : session.role with
      | remote =>
          rw [role] at run
          cases target : session.controller with
          | none =>
              unfold relayCommand at run
              rw [target] at run
              obtain ⟨rfl, refused, rfl⟩ := run
              exact ⟨rfl, rfl, fun _ => ⟨rfl, .inr ⟨_, rfl, refused⟩⟩⟩
          | some controller =>
              unfold relayCommand at run
              rw [target] at run
              obtain ⟨answer, middle, rest, rfl, rfl, run⟩ := run
              cases answer <;> obtain ⟨rfl, _, rfl⟩ := run <;>
                exact ⟨rfl, rfl, fun elsewhere => by cases elsewhere⟩
      | controller =>
          rw [role] at run
          obtain ⟨same, nothing, handled⟩ := here run
          exact ⟨same, nothing, fun _ => handled⟩

/-- What `run_command` does with an admitted command, from the coordinator's state alone. -/
theorem runs_applyCommand {peer : AuthorizedPeer} {result : Except ApiError CommandResponse}
    (control : request.command.isSessionControl = false)
    (run : Runs agentWorld (applyCommand config peer source request).run desk trace result after) :
    ∃ now, desk.clock ≤ now ∧ after = desk.tick now ∧
      relayed trace = (liveController desk.state now).toList.map (·, request.command) ∧
      (liveController desk.state now = none →
        HandledHere config source request.command trace .done result) := by
  unfold applyCommand at run
  rw [if_neg (Bool.eq_false_iff.mp control)] at run
  simp only [snapshot, lock, instant, perform_bind] at run
  obtain ⟨_, desk, _, rfl, ⟨rfl, rfl⟩, now, _, trace, rfl, ⟨later, rfl⟩, run⟩ := run
  have route : Runs agentWorld (routeCommand config source request.command
      (if leaseElapsed desk.state now then none else desk.state.active)).run
      (desk.tick now) trace result after := by
    dsimp only at run
    split at run <;> rename_i elapsed
    · rw [if_pos elapsed]
      exact run
    · rw [if_neg elapsed]
      exact run
  obtain ⟨same, passes, handles⟩ := runs_routeCommand route
  refine ⟨now, later, same, passes, fun elsewhere => ?_⟩
  show HandledHere config source request.command
    ([⟨.session .lock, desk.state⟩, ⟨.session .instant, now⟩] ++ trace) .done result
  exact (handles elsewhere).after_quiet rfl rfl

/-- **One `run_command`.** A command that is not admitted goes nowhere; an admitted one goes to the
controller of the live Remote session, if there is one, and nowhere else. What is not passed on is
handled here. -/
theorem runs_runCommand {result : Except ApiError ApiReply}
    (control : request.command.isSessionControl = false)
    (run : Runs agentWorld (runCommand config source (some request)).run desk trace result after) :
    (¬ Admits trace ∧ after = desk ∧
        HandledHere config source request.command trace (.command .done) result) ∨
      (Admits trace ∧ ∃ now, desk.clock ≤ now ∧ after = desk.tick now ∧
        relayed trace = (liveController desk.state now).toList.map (·, request.command) ∧
        (liveController desk.state now = none →
          HandledHere config source request.command trace (.command .done) result)) := by
  unfold runCommand at run
  have authorizes : Uses Quiet (authorizePeer config source request.command.requiredCapability).run :=
    uses_orFail (uses_onAuthorizer (fun _ => trivial) _)
  rcases runs_run_bind.mp run with ⟨error, rfl, early⟩ |
    ⟨before, rest, peer, middle, rfl, early, late⟩
  · obtain ⟨same, nothing, idle, refused⟩ := runs_quiet authorizes early
    exact .inl ⟨refused, same, nothing, .inr ⟨error, idle, rfl⟩⟩
  obtain ⟨rfl, nothing, idle, refused⟩ := runs_quiet authorizes early
  rw [admits_append, or_iff_right refused]
  cases valid : request.command.validate with
  | error error =>
      rw [valid] at late
      obtain ⟨rfl, failed, rfl⟩ := late
      refine .inl ⟨by simp [Admits], rfl, HandledHere.after_quiet ?_ nothing idle⟩
      exact ⟨rfl, .inr ⟨_, rfl, failed⟩⟩
  | ok _ =>
      rw [valid] at late
      obtain ⟨answer, _, rest, rfl, rfl, late⟩ := late
      cases answer with
      | error error =>
          obtain ⟨rfl, failed, rfl⟩ := late
          refine .inl ⟨by simp [Admits], rfl, HandledHere.after_quiet ?_ nothing idle⟩
          exact ⟨rfl, .inr ⟨_, rfl, failed⟩⟩
      | ok _ =>
          refine .inr ⟨⟨_, _, List.mem_cons_self⟩, ?_⟩
          rw [relayed_append, nothing, List.nil_append]
          rcases runs_run_bind.mp late with ⟨error, rfl, applied⟩ |
            ⟨applying, _, response, _, rfl, applied, rfl, rfl, rfl⟩
          · obtain ⟨now, clock, same, passes, handles⟩ := runs_applyCommand control applied
            refine ⟨now, clock, same, passes, fun elsewhere => HandledHere.after_quiet ?_ nothing idle⟩
            show HandledHere config source request.command
              ([⟨.admitRequest request.requestId request.issuedAt, .ok _⟩] ++ rest) _ _
            exact (handles elsewhere).refused.after_quiet rfl rfl
          · obtain ⟨now, clock, same, passes, handles⟩ := runs_applyCommand control applied
            rw [List.append_nil]
            refine ⟨now, clock, same, passes, fun elsewhere => HandledHere.after_quiet ?_ nothing idle⟩
            show HandledHere config source request.command
              ([⟨.admitRequest request.requestId request.issuedAt, .ok _⟩] ++ applying) _ _
            exact (handles elsewhere).reply.after_quiet rfl rfl

end OneAgent

/-! ### Many agents -/

/-- A command in flight. `route` lists the agents that have sent it to the controller of their own
session so far, the latest first: it is empty as long as the command only comes from a client. -/
structure Message where
  route : List AgentEndpoint
  receiver : AgentEndpoint
  command : RemoteCommand
  deriving DecidableEq, Repr

/-- The message by which its receiver passes a command on. -/
def Message.onward (message : Message) (hop : AgentEndpoint × RemoteCommand) : Message where
  route := message.receiver :: message.route
  receiver := hop.1
  command := hop.2

/-- Agents with their coordinators, and the commands in flight. The controller of an agent's Remote
session is another agent. -/
structure Network where
  desks : AgentEndpoint → Desk
  pending : List Message
  others : ∀ host, controllerOf (desks host).state.active ≠ some host

/-- An agent receives one of the commands that are not about the session. It may refuse it, carry it
out or pass it on, and what it passes on is in flight afterwards. -/
structure Receives (config : AgentEndpoint → AgentConfig) (network : Network) (message : Message)
    (source : SocketAddr) (trace : List AgentEvent) (result : Except ApiError ApiReply) (next : Network) :
    Prop where
  arrived : message ∈ network.pending
  control : message.command.isSessionControl = false
  ran : ∃ request, request.command = message.command ∧
    Runs agentWorld (runCommand (config message.receiver) source (some request)).run
      (network.desks message.receiver) trace result (next.desks message.receiver)
  frame : ∀ other, other ≠ message.receiver → next.desks other = network.desks other
  pending : next.pending = network.pending.erase message ++ (relayed trace).map message.onward

/-- One step of the network. -/
inductive Step (config : AgentEndpoint → AgentConfig) (network next : Network) : Prop
  /-- An operation of one agent's coordinator. -/
  | session (host : AgentEndpoint) (call : Call) (reply : Reply)
      (performs : Performs (config host).lease anyEffect (network.desks host) call reply
        (next.desks host))
      (frame : ∀ other, other ≠ host → next.desks other = network.desks other)
      (pending : next.pending = network.pending)
  /-- A client sends a command to an agent. -/
  | client (receiver : AgentEndpoint) (command : RemoteCommand)
      (desks : next.desks = network.desks)
      (pending : next.pending = ⟨[], receiver, command⟩ :: network.pending)
  /-- A keybinding or the follow-focus task of an agent's Remote session sends a command to its
  controller. -/
  | remote (host controller : AgentEndpoint) (command : RemoteCommand)
      (attached : controllerOf (network.desks host).state.active = some controller)
      (desks : next.desks = network.desks)
      (pending : next.pending = ⟨[host], controller, command⟩ :: network.pending)
  | receive (message : Message) (source : SocketAddr) (trace : List AgentEvent)
      (result : Except ApiError ApiReply)
      (receives : Receives config network message source trace result next)

/-- Every command in flight has been sent to the controller of a session at most once, and is not on
its way back to an agent that has sent it. -/
def SentOnce (network : Network) : Prop :=
  ∀ message ∈ network.pending, message.route.length ≤ 1 ∧ message.receiver ∉ message.route

/-- A command that was sent to a controller, and is received in this step, is handled by this controller on
its own desktop. -/
def HandledThere (config : AgentEndpoint → AgentConfig) (network next : Network) : Prop :=
  ∀ message source trace result, Receives config network message source trace result next →
    message.route ≠ [] →
      HandledHere (config message.receiver) source message.command trace (.command .done) result

/-- **The commands of a run terminate at the controllers**: every controller that receives one handles it on
its own desktop, and no command is ever sent to a second controller or back. -/
structure Terminates (config : AgentEndpoint → AgentConfig) (run : List Network) : Prop where
  handled : run.IsChain (HandledThere config)
  once : ∀ network ∈ run, SentOnce network

/-- A command that was sent to a controller is admitted there while the controller holds a live
Remote session with a controller of its own. -/
def ReachesRemote (config : AgentEndpoint → AgentConfig) (network next : Network) : Prop :=
  ∃ message source trace result, Receives config network message source trace result next ∧
    message.route ≠ [] ∧
    Admits trace ∧ ∃ controller,
      liveController (network.desks message.receiver).state (next.desks message.receiver).clock =
        some controller

section ManyAgents

variable {config : AgentEndpoint → AgentConfig} {network next : Network} {message : Message}
  {source : SocketAddr} {trace : List AgentEvent} {result : Except ApiError ApiReply}

theorem controllerOf_of_live {state : CoordinatorState} {now : Instant} {controller : AgentEndpoint}
    (live : liveController state now = some controller) :
    controllerOf state.active = some controller := by
  unfold liveController at live
  split at live
  · cases live
  · exact live

/-- What a receiver does: it handles the command, or it passes it on to the controller of its live Remote
session. -/
theorem receives_handled (receives : Receives config network message source trace result next) :
    HandledHere (config message.receiver) source message.command trace (.command .done) result ∨
      Admits trace ∧ ∃ controller, liveController (network.desks message.receiver).state
        (next.desks message.receiver).clock = some controller ∧
          relayed trace = [(controller, message.command)] := by
  obtain ⟨request, same, run⟩ := receives.ran
  have control := receives.control
  rw [← same] at control ⊢
  rcases runs_runCommand control run with ⟨_, _, handled⟩ | ⟨admits, now, _, after, passes, handles⟩
  · exact .inl handled
  rw [after, Desk.tick_clock]
  cases live : liveController (network.desks message.receiver).state now with
  | none => exact .inl (handles live)
  | some controller =>
      rw [live] at passes
      exact .inr ⟨admits, controller, rfl, passes⟩

/-- A controller handles what it receives, unless it is remote itself. -/
theorem handledThere (avoids : ¬ ReachesRemote config network next) : HandledThere config network next := by
  intro message source trace result receives sentBefore
  rcases receives_handled receives with handled | ⟨admits, controller, live, _⟩
  · exact handled
  · exact absurd ⟨message, source, trace, result, receives, sentBefore, admits, controller, live⟩ avoids

/-- A step keeps the property unless a command reaches an agent that is remote itself. -/
theorem sentOnce_step (step : Step config network next) (good : SentOnce network)
    (avoids : ¬ ReachesRemote config network next) : SentOnce next := by
  unfold SentOnce at good ⊢
  cases step with
  | session host call reply performs frame pending => rwa [pending]
  | client receiver command desks pending =>
      rw [pending, List.forall_mem_cons]
      exact ⟨⟨Nat.zero_le _, List.not_mem_nil⟩, good⟩
  | remote host controller command attached desks pending =>
      rw [pending, List.forall_mem_cons]
      refine ⟨⟨le_rfl, fun back => ?_⟩, good⟩
      have same : controller = host := List.mem_singleton.mp back
      rw [same] at attached
      exact network.others host attached
  | receive message source trace result receives =>
      rw [receives.pending]
      intro sent member
      rcases List.mem_append.mp member with old | new
      · exact good sent (List.mem_of_mem_erase old)
      · obtain ⟨hop, hops, rfl⟩ := List.mem_map.mp new
        rcases receives_handled receives with handled | ⟨admits, controller, live, passes⟩
        · rw [handled.kept] at hops
          cases hops
        · rw [passes] at hops
          obtain rfl := List.mem_singleton.mp hops
          -- what is passed on is a client's command, on its first way to a controller
          have first : message.route = [] := by
            by_contra sentBefore
            exact avoids ⟨message, source, trace, result, receives, sentBefore, admits, controller, live⟩
          unfold Message.onward
          rw [first]
          refine ⟨le_rfl, fun back => ?_⟩
          have same : controller = message.receiver := List.mem_singleton.mp back
          have attached := controllerOf_of_live live
          rw [same] at attached
          exact network.others message.receiver attached

/-- A command that reaches an agent that is remote itself is passed on a second time. -/
theorem not_sentOnce_of_reaches (reaches : ReachesRemote config network next) : ¬ SentOnce next := by
  obtain ⟨message, source, trace, result, receives, sentBefore, admits, controller, live⟩ := reaches
  obtain ⟨request, same, run⟩ := receives.ran
  have control := receives.control
  rw [← same] at control
  obtain ⟨refused, _, _⟩ | ⟨_, now, _, after, passes, _⟩ := runs_runCommand control run
  · exact absurd admits refused
  rw [after, Desk.tick_clock] at live
  rw [live, same] at passes
  have sent : message.onward (controller, message.command) ∈ next.pending := by
    rw [receives.pending, passes]
    exact List.mem_append_right _ List.mem_cons_self
  intro good
  have short : message.route.length + 1 ≤ 1 := (good _ sent).1
  have sentOnce := List.length_pos_iff.mpr sentBefore
  omega

/-- **When commands terminate.** In every run of any number of agents, each command stops at the first
controller it is sent to, which handles it on its own desktop, exactly as long as no such command is
received by an agent that holds a live Remote session itself. -/
theorem commands_terminate_iff {start : Network} {later : List Network}
    (quiet : start.pending = []) (run : (start :: later).IsChain (Step config)) :
    Terminates config (start :: later) ↔
      (start :: later).IsChain fun network next => ¬ ReachesRemote config network next := by
  have silent : SentOnce start := by
    unfold SentOnce
    rw [quiet]
    exact fun _ => nofun
  have once : (∀ network ∈ start :: later, SentOnce network) ↔
      (start :: later).IsChain fun network next => ¬ ReachesRemote config network next :=
    isChain_forall_iff run silent (fun _ _ => sentOnce_step) fun _ _ _ _ => not_sentOnce_of_reaches
  constructor
  · exact fun terminates => once.mp terminates.once
  · exact fun avoids => ⟨avoids.imp fun _ _ => handledThere, once.mpr avoids⟩

end ManyAgents

/-! ### Two agents -/

/-- A peer that may send every command. -/
def trustedPeer : AllowedController := ⟨"peer", none, 0, [.sendShortcut, .closeStream]⟩

/-- The trace of a request that is authorized and fresh, up to the coordinator. -/
def admission (request : CommandRequest) : List AgentEvent :=
  [⟨.authorizer (.limit (.v4 100 64 0 7)), true⟩,
    ⟨.authorizer .instant, (0 : Nat)⟩,
    ⟨.authorizer (.cachedIdentity (.v4 100 64 0 7)), some ⟨"peer", 0⟩⟩,
    ⟨.authorizer .instant, (0 : Nat)⟩,
    ⟨.authorizer .cachedAllowlist, some ⟨[trustedPeer], 0⟩⟩,
    ⟨.admitRequest request.requestId request.issuedAt, .ok ()⟩]

/-- An admitted command is passed on by an agent with a live Remote session. -/
theorem runs_passing {desk : Desk} {now : Instant} {controller : AgentEndpoint}
    {session : ActiveSession} {request : CommandRequest} (later : desk.clock ≤ now)
    (live : leaseElapsed desk.state now = false) (active : desk.state.active = some session)
    (remote : session.role = .remote) (target : session.controller = some controller)
    (command : request.command = .closeWindow .activeWindow) :
    Runs agentWorld (runCommand deskConfig ⟨.v4 100 64 0 7, 51234⟩ (some request)).run desk
      (admission request ++ [⟨.session .lock, desk.state⟩, ⟨.session .instant, now⟩,
        ⟨.relay controller request.command, .ok { executed := true, session := none }⟩])
      (.ok (.command .done)) (desk.tick now) := by
  obtain ⟨command', session', id, issued⟩ := request
  obtain rfl : command' = .closeWindow .activeWindow := command
  refine ⟨_, _, _, rfl, rfl, _, _, _, rfl, rfl, _, _, _, rfl, rfl, _, _, _, rfl, rfl, _, _, _, rfl, rfl, ?_⟩
  refine ⟨_, _, _, rfl, rfl, ?_⟩
  refine ⟨_, _, _, rfl, ⟨rfl, rfl⟩, _, _, _, rfl, ⟨later, rfl⟩, ?_⟩
  simp only [Program.bind, live, active, Bool.false_eq_true, if_false]
  obtain ⟨_, _, _, role, endpoint, _⟩ := session
  obtain rfl : role = .remote := remote
  obtain rfl : endpoint = some controller := target
  exact ⟨_, _, _, rfl, rfl, rfl, rfl, rfl⟩

/-- A laptop with an agent. -/
def laptop : AgentEndpoint := ⟨.v4 100 64 0 1, 47900⟩

/-- A tower with an agent. -/
def tower : AgentEndpoint := ⟨.v4 100 64 0 2, 47900⟩

/-- The command that travels. -/
def closing : RemoteCommand := .closeWindow .activeWindow

/-- The desk of an agent after a first attach, as the remote computer of a controller. -/
def remoteDesk (controller : AgentEndpoint) : Desk :=
  let session := candidate .new ⟨1⟩ "peer" .remote (some controller) .activeWindow
  ((((Desk.started.tick 0).mint ⟨1⟩).record .cleared).record (.installed session)).hold
    { generation := 1, expiresAt := some ((0 : Instant) + defaultLease), active := some session }

theorem performs_remoteDesk (controller : AgentEndpoint) :
    ∃ reply, Performs defaultLease anyEffect .started
      (.attach "peer" .remote (some controller) .activeWindow) reply (remoteDesk controller) :=
  ⟨_, (@Outcome.granted defaultLease anyEffect .started "peer" .remote (some controller)
    .activeWindow 0 ⟨1⟩ (.ok ()) le_rfl rfl List.not_mem_nil trivial trivial).performs⟩

/-- The two agents. Each may be the remote computer of the other. -/
def twoAgents (laptopHeld towerHeld : Bool) (pending : List Message) : Network where
  desks host :=
    if host = laptop ∧ laptopHeld then remoteDesk tower
    else if host = tower ∧ towerHeld then remoteDesk laptop
    else .started
  pending
  others := by
    intro host
    split <;> rename_i held
    · rw [held.1]
      decide
    · split <;> rename_i held
      · rw [held.1]
        decide
      · exact nofun

theorem step_laptopHeld :
    Step (fun _ => deskConfig) (twoAgents false false []) (twoAgents true false []) := by
  obtain ⟨_, attach⟩ := performs_remoteDesk tower
  exact .session laptop _ _ attach (fun other differs => by simp [twoAgents, differs]) rfl

theorem step_towerHeld :
    Step (fun _ => deskConfig) (twoAgents true false []) (twoAgents true true []) := by
  obtain ⟨_, attach⟩ := performs_remoteDesk laptop
  exact .session tower _ _ attach (fun other differs => by simp [twoAgents, differs]) rfl

/-- The laptop's session sends the command to the tower. -/
theorem step_sends (towerHeld : Bool) : Step (fun _ => deskConfig) (twoAgents true towerHeld [])
    (twoAgents true towerHeld [⟨[laptop], tower, closing⟩]) :=
  .remote laptop tower closing rfl rfl rfl

/-- The tower, which no session makes remote, carries the command out. -/
theorem step_executes : Step (fun _ => deskConfig)
    (twoAgents true false [⟨[laptop], tower, closing⟩]) (twoAgents true false []) := by
  let request : CommandRequest := ⟨closing, none, ⟨1⟩, 0⟩
  let trace : List AgentEvent := admission request ++
    [⟨.session .lock, Desk.started.state⟩, ⟨.session .instant, (0 : Nat)⟩,
      ⟨.execute closing, .ok ()⟩,
      ⟨.notify { summary := "Omdesky", body := "The remote session was closed" }, .ok ()⟩]
  have executing : Runs agentWorld
      (runCommand deskConfig ⟨.v4 100 64 0 7, 51234⟩ (some request)).run .started trace
      (.ok (.command .done)) .started := by
    refine ⟨_, _, _, rfl, rfl, _, _, _, rfl, rfl, _, _, _, rfl, rfl, _, _, _, rfl, rfl, ?_⟩
    refine ⟨_, _, _, rfl, rfl, _, _, _, rfl, rfl, _, _, _, rfl, ⟨rfl, rfl⟩, ?_⟩
    exact ⟨_, _, _, rfl, ⟨le_rfl, rfl⟩, _, _, _, rfl, rfl, _, _, _, rfl, rfl, rfl, rfl, rfl⟩
  refine .receive _ _ trace _ ⟨List.mem_cons_self, rfl, ⟨request, rfl, executing⟩, ?_, rfl⟩
  exact fun _ _ => rfl

/-- A run in which the tower carries out the command of the laptop's session. -/
theorem commands_terminate_iff_executed :
    let later := [twoAgents true false [], twoAgents true false [⟨[laptop], tower, closing⟩],
      twoAgents true false []]
    Terminates (fun _ => deskConfig) (twoAgents false false [] :: later) ↔
      (twoAgents false false [] :: later).IsChain
        fun network next => ¬ ReachesRemote (fun _ => deskConfig) network next := by
  refine commands_terminate_iff rfl ?_
  simp only [List.isChain_cons_cons]
  exact ⟨step_laptopHeld, step_sends false, step_executes, .singleton _⟩

/-- With both attached, each passes on what it receives. -/
theorem receives_bounce {host other : AgentEndpoint} {route : List AgentEndpoint}
    (desk : ∀ pending, (twoAgents true true pending).desks host = remoteDesk other) :
    ∃ source trace result, Receives (fun _ => deskConfig) (twoAgents true true [⟨route, host, closing⟩])
      ⟨route, host, closing⟩ source trace result
        (twoAgents true true [⟨host :: route, other, closing⟩]) := by
  let request : CommandRequest := ⟨closing, none, ⟨1⟩, 0⟩
  have passing := @runs_passing (remoteDesk other) (0 : Nat) other _ request le_rfl rfl rfl rfl rfl
    rfl
  have after : (twoAgents true true [⟨host :: route, other, closing⟩]).desks host =
      (remoteDesk other).tick (0 : Nat) := desk _
  rw [← after, ← desk [⟨route, host, closing⟩]] at passing
  refine ⟨_, _, _, List.mem_cons_self, rfl, ⟨request, rfl, passing⟩, fun _ _ => rfl, ?_⟩
  simp [twoAgents, relayed, admission, Message.onward, request]

/-- **Two agents that control each other.** A command of the laptop's session is passed on by the
tower, and the laptop that sent it passes it on once more. -/
theorem two_controllers_bounce : ∃ start later,
    (∀ host, start.desks host = .started) ∧ start.pending = [] ∧
      (start :: later).IsChain (Step fun _ => deskConfig) ∧
      ¬ Terminates (fun _ => deskConfig) (start :: later) ∧
      ∃ network ∈ later, network.pending = [⟨[laptop, tower, laptop], tower, closing⟩] := by
  obtain ⟨_, _, _, there⟩ := @receives_bounce tower laptop [laptop] fun _ => rfl
  obtain ⟨_, _, _, back⟩ := @receives_bounce laptop tower [tower, laptop] fun _ => rfl
  refine ⟨twoAgents false false [], [twoAgents true false [], twoAgents true true [],
    twoAgents true true [⟨[laptop], tower, closing⟩],
    twoAgents true true [⟨[tower, laptop], laptop, closing⟩],
    twoAgents true true [⟨[laptop, tower, laptop], tower, closing⟩]], ?_, rfl, ?_, ?_, ?_⟩
  · intro host
    simp [twoAgents]
  · simp only [List.isChain_cons_cons]
    exact ⟨step_laptopHeld, step_towerHeld, step_sends true, .receive _ _ _ _ there, .receive _ _ _ _ back,
      .singleton _⟩
  · intro good
    have second := good.once (twoAgents true true [⟨[tower, laptop], laptop, closing⟩]) (by simp)
    have short := (second ⟨[tower, laptop], laptop, closing⟩ List.mem_cons_self).1
    exact absurd short (by decide)
  · exact ⟨twoAgents true true [⟨[laptop, tower, laptop], tower, closing⟩], by simp, rfl⟩

end Omdesky.Agent
