/-
**The main loop of the terminal interface (`omdesky-tui/src/lib.rs`).**

The loop, its connect tasks and whatever else sends it messages take turns. Every call succeeds, and
no other program changes the keybindings of the desktop.

* `Terminal`: the interface, the messages on their way to it, its connect tasks and the desktop.
* `Step`: a turn. `receive` to `pass` are the rounds of `run_loop`, `task` answers one call of a
  connect task, and `other` is a message of any other task.
* `Orderly`: at most one connection has not been reported as ended, and the keybindings made in this
  run are there exactly while its task has installed them and not cleared them.
* `orderly_of_reached`: every reachable state is orderly.
-/

import Mathlib.Logic.Relation
import Omdesky.Interaction.Pool
import Omdesky.Roles
import Omdesky.Tui.Connect

namespace Omdesky.Tui

open Application Interaction Interaction.Program Platform

/-! ### The tasks in their surroundings -/

/-- A connect task. -/
abbrev ConnectTask := Task Connection TaskCall TaskAnswer Unit

/-- The surroundings of a connect task: every call succeeds, and keybindings are made on the desktop. -/
def taskWorld (services : Services) : World TaskCall TaskAnswer Hyprland
  | .port call, desktop, answer, next =>
      PortSucceeds ⟨call, answer⟩ ∧
        Roles.streamWorld (fun _ => services.debugAssertions) call desktop answer next
  | request, desktop, answer, next => Succeeds ⟨request, answer⟩ ∧ next = desktop

/-- The messages that a call sends; the callback of a connection sends that it has started. -/
def messages (connection : Connection) : TaskCall → List AsyncMessage
  | .port (.started pid) => [.sessionStarted connection.generation connection.node.tailnetNodeId
      connection.node.name pid]
  | .send message => [message]
  | _ => []

/-- A task that has something left to do. -/
def goesOn (connection : Connection) (trace : List TaskEvent) : TaskM Unit → List ConnectTask
  | .done _ => []
  | program => [⟨connection, trace, program⟩]

/-- The connect tasks that a handler starts, with the profile they load. -/
def Handled.tasks (services : Services) (profile : StreamProfile) (rounds : Nat)
    (handled : Handled) : List ConnectTask :=
  handled.connects.map fun (node, generation) =>
    let connection : Connection := { node, generation, profile, rounds }
    ⟨connection, [], startConnect services connection⟩

/-! ### The loop -/

/-- The message starts or ends a session. -/
def AsyncMessage.ofSession : AsyncMessage → Bool
  | .sessionStarted _ _ _ _ | .sessionEnded _ _ _ => true
  | _ => false

/-- The message ends a session. -/
def AsyncMessage.endsSession : AsyncMessage → Bool
  | .sessionEnded _ _ _ => true
  | _ => false

/-- The capacity of the channel. -/
def capacity : Nat := 16

/-- The interface, between two things it does: it is `receiving` messages, or waits for an event of
the terminal. -/
structure Terminal where
  app : AppState
  receiving : Bool
  queue : List AsyncMessage
  tasks : List ConnectTask
  desktop : Hyprland

/-- The interface as `run_loop` begins. -/
def Terminal.opened (desktop : Hyprland) : Terminal where
  app := .opened
  receiving := true
  queue := []
  tasks := []
  desktop := desktop

/-- One turn. -/
inductive Step (services : Services) : Terminal → Terminal → Prop
  | receive {t message rest} (receiving : t.receiving = true) (queued : t.queue = message :: rest) :
      Step services t { t with app := applyMessage t.app message, queue := rest }
  | drained {t} (profile rounds) (expired : Bool) (receiving : t.receiving = true)
      (empty : t.queue = []) :
      Step services t { t with
        app := if expired then (takePending t.app).state.expireMessage else (takePending t.app).state
        receiving := false
        tasks := t.tasks ++ (takePending t.app).tasks services profile rounds }
  | key {t} (profile rounds answers key) (waiting : t.receiving = false)
      (stays : (handleKey t.app answers key).quits = false) :
      Step services t { t with
        app := (handleKey t.app answers key).state
        receiving := true
        tasks := t.tasks ++ (handleKey t.app answers key).tasks services profile rounds }
  | pass {t} (waiting : t.receiving = false) : Step services t { t with receiving := true }
  | task {t before later connection trace request next answer desktop}
      (listed : t.tasks = before ++ ⟨connection, trace, .ask request next⟩ :: later)
      (answered : taskWorld services request t.desktop answer desktop)
      (room : t.queue.length + (messages connection request).length ≤ capacity) :
      Step services t { t with
        queue := t.queue ++ messages connection request
        tasks := before ++ goesOn connection (trace ++ [⟨request, answer⟩]) (next answer) ++ later
        desktop }
  | other {t message} (foreign : message.ofSession = false) (room : t.queue.length < capacity) :
      Step services t { t with queue := t.queue ++ [message] }

/-- The states that a run of the interface reaches. -/
def Reached (services : Services) (desktop : Hyprland) (t : Terminal) : Prop :=
  Relation.ReflTransGen (Step services) (.opened desktop) t

/-! ### The invariant -/

/-- The connections whose end the interface has not heard of. -/
def Terminal.owed (t : Terminal) : Nat := t.tasks.length + t.queue.countP AsyncMessage.endsSession

/-- The task is what remains of a connect task whose calls have succeeded. -/
structure Underway (services : Services) (task : ConnectTask) : Prop where
  leaves : Leaves (startConnect services task.input) task.trace task.program
  succeeds : ∀ event ∈ task.trace, Succeeds event

/-- At most one connection is owed, and then the interface is busy; the keybindings made since `mark`
are those that a task has yet to clear. -/
structure Orderly (services : Services) (mark : Nat) (t : Terminal) : Prop where
  owed : t.owed ≤ 1
  busy : 0 < t.owed → t.app.Busy
  underway : ∀ task ∈ t.tasks, Underway services task
  marked : mark ≤ t.desktop.1.next
  left : t.desktop.Since mark ↔ ∃ task ∈ t.tasks, ¬ Restores (portEvents task.trace)

section Orderly

variable {services : Services} {mark : Nat} {t : Terminal}

/-! ### One call -/

/-- **One call of a task.** If the keybindings of the run are those the task has yet to clear, they
still are. -/
theorem since_of_world {request : TaskCall} {answer : TaskAnswer request} {desktop next : Hyprland}
    {trace : List TaskEvent} (marked : mark ≤ desktop.1.next)
    (own : ∀ call, request = .port call → ForController call)
    (left : desktop.Since mark ↔ ¬ Restores (portEvents trace))
    (answered : taskWorld services request desktop answer next) :
    mark ≤ next.1.next ∧
      (next.Since mark ↔ ¬ Restores (portEvents (trace ++ [⟨request, answer⟩]))) := by
  rw [portEvents_append]
  cases request with
  | port call =>
      obtain ⟨_, answered⟩ := answered
      change _ ∧ (_ ↔ ¬ Restores (portEvents trace ++ [⟨call, answer⟩]))
      cases call with
      | install config =>
          obtain ⟨rfl, installed⟩ := answered
          obtain rfl := installKeybinds_ok installed
          refine ⟨Nat.le_trans marked (Hyprland.next_le_install _ _ _ _), ?_⟩
          refine iff_of_true ((Hyprland.since_install marked).mpr ?_) not_restores_install
          rw [Ne, sessionBinds_eq_nil_iff, own _ rfl config rfl]
          rintro ⟨⟨⟩, _⟩
      | clear =>
          obtain ⟨rfl, rfl⟩ := answered
          exact ⟨marked, iff_of_false (Hyprland.not_since_remove _ _ _) (not_not_intro restores_clear)⟩
      | _ =>
          obtain rfl := answered
          refine ⟨marked, left.trans (not_congr (restores_other ?_ ?_).symm)⟩
          · rintro config ⟨⟩
          · rintro ⟨⟩
  | _ =>
      obtain ⟨_, rfl⟩ := answered
      change _ ∧ (_ ↔ ¬ Restores (portEvents trace ++ []))
      rw [List.append_nil]
      exact ⟨marked, left⟩

theorem succeeds_of_world {request : TaskCall} {answer : TaskAnswer request} {desktop next : Hyprland}
    (answered : taskWorld services request desktop answer next) : Succeeds ⟨request, answer⟩ := by
  cases request <;> exact answered.1

/-- The next request of a task installs keybindings of a controller only. -/
theorem Underway.own {connection : Connection} {trace : List TaskEvent} {request : TaskCall}
    {next : TaskAnswer request → TaskM Unit}
    (underway : Underway services ⟨connection, trace, .ask request next⟩) :
    ∀ call, request = .port call → ForController call := by
  have uses : Uses (fun request => ∀ call, request = .port call → ForController call)
      (startConnect services connection) :=
    uses_bind (uses_session.weaken fun _ own => own.2) fun ended =>
      ⟨by rintro call ⟨⟩, fun _ => trivial⟩
  exact (uses.of_leaves underway.leaves).1

/-- A task after its next call. -/
theorem Underway.answer {connection : Connection} {trace : List TaskEvent} {request : TaskCall}
    {next : TaskAnswer request → TaskM Unit} {answer : TaskAnswer request} {desktop after : Hyprland}
    (underway : Underway services ⟨connection, trace, .ask request next⟩)
    (answered : taskWorld services request desktop answer after) :
    Underway services ⟨connection, trace ++ [⟨request, answer⟩], next answer⟩ where
  leaves := .event answer underway.leaves
  succeeds := by
    intro event member
    rcases List.mem_append.mp member with earlier | last
    · exact underway.succeeds event earlier
    · exact List.mem_singleton.mp last ▸ succeeds_of_world answered

/-- A task that is done has cleared what it installed. -/
theorem Underway.restores {connection : Connection} {trace : List TaskEvent}
    (underway : Underway services ⟨connection, trace, .done ()⟩) : Restores (portEvents trace) := by
  have run : Traces (startConnect services connection) (trace ++ []) () :=
    underway.leaves.traces ⟨rfl, rfl⟩
  rw [List.append_nil] at run
  exact restores_of_startConnect run underway.succeeds

/-! ### One turn -/

/-- While a task is there, it is all that is owed. -/
theorem Orderly.alone {before later : List ConnectTask} {task : ConnectTask}
    (orderly : Orderly services mark t) (listed : t.tasks = before ++ task :: later) :
    before = [] ∧ later = [] ∧ t.queue.countP AsyncMessage.endsSession = 0 := by
  have owed := orderly.owed
  rw [Terminal.owed, listed, List.length_append, List.length_cons] at owed
  refine ⟨List.length_eq_zero_iff.mp ?_, List.length_eq_zero_iff.mp ?_, ?_⟩ <;> omega

/-- Messages of another kind change nothing that is owed. -/
theorem countP_messages {connection : Connection} {request : TaskCall}
    (silent : ∀ message, request ≠ .send message) :
    (messages connection request).countP AsyncMessage.endsSession = 0 := by
  cases request with
  | send message => exact absurd rfl (silent message)
  | port call => cases call <;> rfl
  | _ => rfl

theorem length_messages (connection : Connection) (request : TaskCall) :
    (messages connection request).length ≤ 1 := by
  cases request with
  | port call => cases call <;> simp [messages]
  | _ => simp [messages]

/-- A handler of the loop starts a connection only when none is owed. -/
theorem orderly_handled {handled : Handled} {app : AppState} {receiving : Bool}
    (orderly : Orderly services mark t) (paced : Paced t.app handled)
    (busy : handled.state.Busy → app.Busy) (profile : StreamProfile) (rounds : Nat) :
    Orderly services mark { t with
      app, receiving, tasks := t.tasks ++ handled.tasks services profile rounds } := by
  cases paced with
  | none connects keeps =>
      have tasks : handled.tasks services profile rounds = [] := by rw [Handled.tasks, connects]; rfl
      rw [tasks, List.append_nil]
      exact { orderly with busy := fun owed => busy (keeps (orderly.busy owed)) }
  | one free connection connects started =>
      have settled : t.owed = 0 := Nat.eq_zero_of_not_pos fun owed => free (orderly.busy owed)
      have idle : t.tasks = [] := List.length_eq_zero_iff.mp (by rw [Terminal.owed] at settled; omega)
      have quiet : t.queue.countP AsyncMessage.endsSession = 0 := by rw [Terminal.owed] at settled; omega
      obtain ⟨node, generation⟩ := connection
      have tasks : handled.tasks services profile rounds =
          [⟨⟨node, generation, profile, rounds⟩, [],
            startConnect services ⟨node, generation, profile, rounds⟩⟩] := by
        rw [Handled.tasks, connects]
        rfl
      rw [tasks, idle, List.nil_append]
      constructor
      · rw [Terminal.owed, quiet]
        exact Nat.le_refl 1
      · exact fun _ => busy started
      · intro task member
        obtain rfl := List.mem_singleton.mp member
        exact ⟨.begun, fun event member => absurd member List.not_mem_nil⟩
      · exact orderly.marked
      · refine orderly.left.trans (iff_of_false ?_ ?_)
        · simp [idle]
        · simp [portEvents, Restores]

/-- One call of a task. -/
theorem orderly_task {before later : List ConnectTask} {connection : Connection}
    {trace : List TaskEvent} {request : TaskCall} {next : TaskAnswer request → TaskM Unit}
    {answer : TaskAnswer request} {desktop : Hyprland} (orderly : Orderly services mark t)
    (listed : t.tasks = before ++ ⟨connection, trace, .ask request next⟩ :: later)
    (answered : taskWorld services request t.desktop answer desktop) :
    Orderly services mark { t with
      queue := t.queue ++ messages connection request
      tasks := before ++ goesOn connection (trace ++ [⟨request, answer⟩]) (next answer) ++ later
      desktop } := by
  obtain ⟨rfl, rfl, quiet⟩ := orderly.alone listed
  have underway : Underway services ⟨connection, trace, .ask request next⟩ :=
    orderly.underway _ (by rw [listed]; exact List.mem_cons_self)
  have after := underway.answer answered
  have left : t.desktop.Since mark ↔ ¬ Restores (portEvents trace) := by
    rw [orderly.left, listed]
    simp
  obtain ⟨marked, since⟩ := since_of_world orderly.marked underway.own left answered
  have busy : t.app.Busy := orderly.busy (by simp [Terminal.owed, listed])
  rw [List.append_nil, List.nil_append]
  cases remains : next answer with
  | done value =>
      rw [remains] at after
      constructor
      · change 0 + (t.queue ++ _).countP _ ≤ 1
        rw [List.countP_append, quiet]
        have few := length_messages connection request
        have count : (messages connection request).countP AsyncMessage.endsSession ≤ _ :=
          List.countP_le_length
        omega
      · exact fun _ => busy
      · simp [goesOn]
      · exact marked
      · exact since.trans (iff_of_false (not_not_intro after.restores) (by simp [goesOn]))
  | ask more rest =>
      rw [remains] at after
      have silent (message : AsyncMessage) : request ≠ .send message := by
        intro sends
        have last := (sendsLast_startConnect.of_leaves underway.leaves answer).1 message sends
        cases remains.symm.trans last
      constructor
      · change 1 + (t.queue ++ _).countP _ ≤ 1
        rw [List.countP_append, quiet, countP_messages silent]
      · exact fun _ => busy
      · intro task member
        obtain rfl := List.mem_singleton.mp member
        exact after
      · exact marked
      · exact since.trans (by simp [goesOn])

/-- **One turn keeps the order.** -/
theorem orderly_step {next : Terminal} (orderly : Orderly services mark t)
    (step : Step services t next) : Orderly services mark next := by
  cases step with
  | @receive message rest receiving queued =>
      have owed : t.owed = t.tasks.length +
          (rest.countP AsyncMessage.endsSession + if message.endsSession then 1 else 0) := by
        rw [Terminal.owed, queued, List.countP_cons]
      have most := orderly.owed
      rw [owed] at most
      by_cases ends : message.endsSession = true
      · rw [if_pos ends] at most
        have none : t.tasks.length + rest.countP AsyncMessage.endsSession = 0 := by omega
        refine { orderly with owed := ?_, busy := fun some => ?_ }
        · exact Nat.le_trans (Nat.le_of_eq none) (Nat.zero_le 1)
        · exact absurd none (Nat.ne_of_gt some)
      · rw [if_neg ends] at owed most
        refine { orderly with owed := most, busy := fun some => ?_ }
        refine busy_applyMessage ?_ (orderly.busy (owed.symm ▸ some))
        rintro generation result failure rfl
        exact ends rfl
  | drained profile rounds expired receiving empty =>
      refine orderly_handled orderly paced_takePending ?_ profile rounds
      cases expired
      · exact fun busy => busy
      · exact fun busy => busy
  | key profile rounds answers key waiting stays =>
      refine orderly_handled orderly (paced_handleKey answers key) ?_ profile rounds
      exact fun busy => busy
  | pass waiting => exact { orderly with }
  | task listed answered room => exact orderly_task orderly listed answered
  | @other message foreign room =>
      have ends : message.endsSession = false := by cases message <;> first | rfl | cases foreign
      have owed : (t.queue ++ [message]).countP AsyncMessage.endsSession =
          t.queue.countP AsyncMessage.endsSession := by
        rw [List.countP_append, List.countP_singleton, ends]
        rfl
      refine { orderly with owed := ?_, busy := ?_ }
      · exact (congrArg (t.tasks.length + ·) owed).trans_le orderly.owed
      · exact fun some => orderly.busy (lt_of_lt_of_eq some (congrArg (t.tasks.length + ·) owed))

/-- **Every reachable state is orderly**, counting from the keybindings there were before. -/
theorem orderly_of_reached {desktop : Hyprland} (before : ¬ desktop.Since desktop.1.next)
    (reached : Reached services desktop t) : Orderly services desktop.1.next t := by
  induction reached with
  | refl =>
      constructor
      · exact Nat.zero_le 1
      · exact fun owed => absurd owed (Nat.lt_irrefl 0)
      · simp [Terminal.opened]
      · exact Nat.le_refl _
      · exact iff_of_false before (by simp [Terminal.opened])
  | tail _ step ih => exact orderly_step ih step

end Orderly

end Omdesky.Tui
