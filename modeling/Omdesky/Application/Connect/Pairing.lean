/-
**What a connection asks of Moonlight, and when.**

* `pairing`: whether a host is being paired, for the events of a connection so far.
* `Vetted`: the rule of every call, given the calls before it: a PIN goes only to the remote agent, after
  its challenge and after Sunshine was reported to be ready for it; everything but its submission waits
  until the pairing is over; a host is launched only after it was reported to be paired.
* `guarded_pairStream`: pairing leaves the host paired.
* `along_executeWithStarted`: **every call of a connection obeys the rule.**
-/

import Omdesky.Application.Connect.Discipline

namespace Omdesky.Application

open Interaction Interaction.Program

/-! ### The rule -/

/-- Whether a host is being paired after an event, for whether it was before. -/
def pairingAfter (shows : Bool) : PortEvent → Bool
  | ⟨.beginPairing _, .ok _⟩ => true
  | ⟨.completePairing, .ok ()⟩ => false
  | _ => shows

/-- A host is being paired: it shows a PIN and was not waited for since. -/
def pairing (past : List PortEvent) : Bool := past.foldl pairingAfter false

/-- A host was given up while it was being paired. -/
def abandoned (past : List PortEvent) : Bool :=
  past.any fun event => match event with
    | ⟨.completePairing, .error _⟩ => true
    | _ => false

/-- Moonlight takes part in this call. -/
def asksMoonlight : PortCall → Bool
  | .pairingState _ | .beginPairing _ | .completePairing | .launch _ => true
  | _ => false

/-- A call that is neither for Moonlight nor about its PIN. -/
def isPlain (request : PortCall) : Bool :=
  match request with
  | .sunshinePair _ _ => false
  | _ => !asksMoonlight request

/-- A PIN was submitted. -/
def submitted (past : List PortEvent) : Bool :=
  past.any fun event => match event.1 with
    | .sunshinePair _ _ => true
    | _ => false

/-- The request submits the PIN that the host shows, for the challenge that was asked for before. -/
def Submits (clientName : String) (endpoint : AgentEndpoint) (past : List PortEvent)
    (request : SunshinePairRequest) : Prop :=
  ∃ opening status challenge host pin,
    past = opening ++ [⟨.sunshineStatus endpoint, .ok status⟩,
      ⟨.sunshinePairChallenge endpoint, .ok challenge⟩, ⟨.beginPairing host, .ok pin⟩] ∧
    host.address = endpoint.address ∧ status.running = true ∧ status.pairingApiAvailable = true ∧
    submitted opening = false ∧ request = { pairingId := challenge.pairingId, pin, clientName }

/-- The last that was heard of Moonlight is that a host at this address is paired. -/
def Settled (address : IpAddr) (past : List PortEvent) : Prop :=
  ∃ opening host rest, past = opening ++ ⟨.pairingState host, .ok .paired⟩ :: rest ∧
    host.address = address ∧ ∀ event ∈ rest, isPlain event.1 = true

/-- No host is being paired. -/
structure Idle (past : List PortEvent) : Prop where
  quiet : pairing past = false
  kept : abandoned past = false

/-- **The rule of every call**, after those before it. -/
def Vetted (clientName : String) (endpoint : AgentEndpoint) (past : List PortEvent)
    (event : PortEvent) : Prop :=
  match event.1 with
  | .sunshinePair asked request =>
      asked = endpoint ∧ pairing past = true ∧ abandoned past = false ∧
        Submits clientName endpoint past request
  | .completePairing => pairing past = true ∧ abandoned past = false
  | .pairingState host | .beginPairing host => Idle past ∧ host.address = endpoint.address
  | .launch request =>
      Idle past ∧ request.host.address = endpoint.address ∧ Settled endpoint.address past
  | _ => Idle past

/-! ### Plain calls -/

theorem pairing_concat (past : List PortEvent) (event : PortEvent) :
    pairing (past ++ [event]) = pairingAfter (pairing past) event := by
  unfold pairing
  rw [List.foldl_append]
  rfl

theorem pairing_append_plain {past more : List PortEvent}
    (plain : ∀ event ∈ more, isPlain event.1 = true) : pairing (past ++ more) = pairing past := by
  unfold pairing
  rw [List.foldl_append]
  generalize List.foldl _ false past = before
  induction more with
  | nil => rfl
  | cons event rest ih =>
      obtain ⟨here, others⟩ := List.forall_mem_cons.mp plain
      rw [List.foldl_cons]
      obtain ⟨request, answer⟩ := event
      cases request <;> first | exact ih others | cases here

theorem abandoned_plain {more : List PortEvent} (plain : ∀ event ∈ more, isPlain event.1 = true) :
    abandoned more = false := by
  refine List.any_eq_false.mpr ?_
  rintro ⟨request, answer⟩ member
  have here := plain _ member
  cases request <;> first | exact Bool.false_ne_true | cases here

theorem abandoned_append (past more : List PortEvent) :
    abandoned (past ++ more) = (abandoned past || abandoned more) := List.any_append

theorem submitted_append (past more : List PortEvent) :
    submitted (past ++ more) = (submitted past || submitted more) := List.any_append

theorem submitted_plain {more : List PortEvent} (plain : ∀ event ∈ more, isPlain event.1 = true) :
    submitted more = false := by
  refine List.any_eq_false.mpr ?_
  rintro ⟨request, answer⟩ member
  have here := plain _ member
  cases request <;> first | exact Bool.false_ne_true | cases here

theorem Idle.append_plain {past more : List PortEvent} (idle : Idle past)
    (plain : ∀ event ∈ more, isPlain event.1 = true) : Idle (past ++ more) where
  quiet := (pairing_append_plain plain).trans idle.quiet
  kept := by
    rw [abandoned_append, idle.kept, abandoned_plain plain]
    rfl

theorem Settled.append_plain {address : IpAddr} {past more : List PortEvent}
    (settled : Settled address past) (plain : ∀ event ∈ more, isPlain event.1 = true) :
    Settled address (past ++ more) := by
  obtain ⟨opening, host, rest, rfl, same, quiet⟩ := settled
  refine ⟨opening, host, rest ++ more, by rw [List.append_assoc, List.cons_append], same, ?_⟩
  exact List.forall_mem_append.mpr ⟨quiet, plain⟩

variable {clientName : String} {endpoint : AgentEndpoint} {past : List PortEvent}

theorem vetted_plain {event : PortEvent} (idle : Idle past) (plain : isPlain event.1 = true) :
    Vetted clientName endpoint past event := by
  obtain ⟨request, answer⟩ := event
  cases request <;> first | exact idle | cases plain

/-- A program of plain calls, while no host is being paired. -/
theorem along_plain {α : Type} {program : ConnectM α} (idle : Idle past)
    (plain : Uses (fun request => isPlain request = true) program) :
    Along (Vetted clientName endpoint) past program :=
  plain.along_since fun _ quiet _ here => vetted_plain (idle.append_plain quiet) here

/-- The next call, and what follows each of its answers. -/
theorem guarded_ask {α : Type} {request : PortCall} {next : PortAnswer request → ConnectM (PortResult α)}
    {allowed : List PortEvent → PortEvent → Prop} {post : List PortEvent → α → Prop}
    (here : ∀ answer, allowed past ⟨request, answer⟩)
    (later : ∀ answer, Guarded allowed post (past ++ [⟨request, answer⟩]) (ExceptT.mk (next answer))) :
    Guarded allowed post past (ExceptT.mk (.ask request next)) where
  along answer := ⟨here answer, (later answer).along⟩
  returns := by
    rintro trace value ⟨answer, rest, rfl, run⟩
    rw [List.append_cons]
    exact (later answer).returns rest value run

/-- A check on the way. -/
theorem guarded_failWhen {α : Type} {refused : Bool} {error : PortError} {next : Attempt α}
    {allowed : List PortEvent → PortEvent → Prop} {post : List PortEvent → α → Prop}
    (later : refused = false → Guarded allowed post past next) :
    Guarded allowed post past (failWhen refused error >>= fun _ => next) := by
  cases refused with
  | true => exact guarded_throw
  | false => exact later rfl

/-- A host that is paired now. -/
structure Paired (endpoint : AgentEndpoint) (past : List PortEvent) : Prop where
  idle : Idle past
  settled : Settled endpoint.address past

theorem Paired.append_plain {more : List PortEvent} (paired : Paired endpoint past)
    (plain : ∀ event ∈ more, isPlain event.1 = true) : Paired endpoint (past ++ more) :=
  ⟨paired.idle.append_plain plain, paired.settled.append_plain plain⟩

/-- Asking for the state of a host changes nothing. -/
theorem Idle.ask {host : StreamHostDescriptor} {answer : PortResult StreamPairing} (idle : Idle past) :
    Idle (past ++ [⟨.pairingState host, answer⟩]) where
  quiet := (pairing_concat _ _).trans idle.quiet
  kept := by
    rw [abandoned_append, idle.kept]
    rfl

theorem Idle.paired {host : StreamHostDescriptor} (idle : Idle past)
    (there : host.address = endpoint.address) :
    Paired endpoint (past ++ [⟨.pairingState host, .ok .paired⟩]) :=
  ⟨idle.ask, past, host, [], rfl, there, List.forall_mem_nil _⟩

theorem guarded_pair {host : StreamHostDescriptor} (there : host.address = endpoint.address)
    (idle : Idle past) (fresh : submitted past = false) :
    Guarded (Vetted clientName endpoint) (fun after _ => Paired endpoint after) past
      (PairStream.pair clientName endpoint host) := by
  unfold PairStream.pair
  refine guarded_ask (fun _ => idle) ?_
  rintro (error | status)
  · exact guarded_throw
  have asked : Idle (past ++ [⟨.sunshineStatus endpoint, .ok status⟩]) :=
    idle.append_plain (List.forall_mem_singleton.mpr rfl)
  refine guarded_failWhen fun stopped => guarded_failWhen fun unavailable => ?_
  refine guarded_ask (fun _ => asked) ?_
  rintro (error | challenge)
  · exact guarded_throw
  have challenged : Idle (past ++ [⟨.sunshineStatus endpoint, .ok status⟩] ++
      [⟨.sunshinePairChallenge endpoint, .ok challenge⟩]) :=
    asked.append_plain (List.forall_mem_singleton.mpr rfl)
  refine guarded_ask (fun _ => ⟨challenged, there⟩) ?_
  rintro (error | pin)
  · exact guarded_throw
  generalize showing : past ++ [⟨.sunshineStatus endpoint, .ok status⟩] ++
    [⟨.sunshinePairChallenge endpoint, .ok challenge⟩] ++ [⟨.beginPairing host, .ok pin⟩] = shown
  have shows : pairing shown = true := by rw [← showing, pairing_concat]; rfl
  have kept : abandoned shown = false := by
    rw [← showing, abandoned_append, challenged.kept]
    rfl
  refine guarded_ask (fun _ => ⟨rfl, shows, kept, past, status, challenge, host, pin, ?_, ?_⟩) ?_
  · rw [← showing]
    simp
  · exact ⟨there, by simpa using stopped, by simpa using unavailable, fresh, rfl⟩
  rintro (error | ⟨⟩)
  · exact guarded_throw
  generalize submitting : shown ++ [_] = sent
  have waits : pairing sent = true ∧ abandoned sent = false := by
    rw [← submitting, pairing_concat, abandoned_append, kept]
    exact ⟨shows, rfl⟩
  refine guarded_ask (fun _ => waits) ?_
  rintro (error | ⟨⟩)
  · exact guarded_throw
  have done : Idle (sent ++ [⟨.completePairing, .ok ()⟩]) := by
    refine ⟨pairing_concat _ _, ?_⟩
    rw [abandoned_append, waits.2]
    rfl
  refine guarded_ask (fun _ => ⟨done, there⟩) ?_
  rintro (error | _ | _ | _)
  · exact guarded_throw
  · exact guarded_pure (done.paired there)
  · exact guarded_throw
  · exact guarded_throw

theorem guarded_pairStream (idle : Idle past) (fresh : submitted past = false) :
    Guarded (Vetted clientName endpoint) (fun after _ => Paired endpoint after) past
      (PairStream.execute clientName endpoint) := by
  unfold PairStream.execute
  refine guarded_ask (fun _ => ⟨idle, rfl⟩) ?_
  have still : ∀ answer, submitted (past ++ [⟨.pairingState ⟨endpoint.address, "Desktop"⟩, answer⟩]) =
      false := fun answer => by
    rw [submitted_append, fresh]
    rfl
  rintro (error | _ | _ | _)
  · exact guarded_throw
  · exact guarded_pure (idle.paired rfl)
  · exact guarded_pair rfl idle.ask (still _)
  · exact guarded_pair rfl idle.ask (still _)

/-! ### A connection -/

variable {node : ConnectNode} {request : ConnectRequest}

theorem guarded_ensurePaired {host : StreamHostDescriptor} (there : host.address = request.endpoint.address)
    (idle : Idle past) (fresh : submitted past = false) :
    Guarded (Vetted node.clientName request.endpoint) (fun after _ => Paired request.endpoint after) past
      (ensurePaired node request host) := by
  unfold ensurePaired
  refine guarded_ask (fun _ => ⟨idle, there⟩) ?_
  have still : ∀ answer, submitted (past ++ [⟨.pairingState host, answer⟩]) = false := fun answer => by
    rw [submitted_append, fresh]
    rfl
  rintro (error | _ | _ | _)
  · exact guarded_throw
  · exact guarded_pure (idle.paired there)
  · exact guarded_failWhen fun _ => guarded_pairStream idle.ask (still _)
  · exact guarded_failWhen fun _ => guarded_pairStream idle.ask (still _)

/-- A program of plain calls. -/
abbrev Plain {α : Type} (program : ConnectM α) : Prop := Uses (fun request => isPlain request = true) program

theorem plain_call {asked : PortCall} (plain : isPlain asked = true) : Plain (call asked) :=
  ⟨plain, fun _ => trivial⟩

theorem plain_failWhen (refused : Bool) (error : PortError) : Plain (failWhen refused error).run := by
  unfold failWhen
  split <;> exact trivial

theorem plain_verifyCallbackAccess (address : IpAddr) : Plain (verifyCallbackAccess address).run := by
  unfold verifyCallbackAccess
  refine uses_run_bind (plain_call rfl) ?_
  rintro (_ | identity)
  · exact trivial
  · exact uses_run_bind (plain_call rfl) fun allowlist => plain_failWhen _ _

theorem plain_verifyAgents (localAgent remoteAgent : AgentEndpoint) :
    Plain (verifyAgents localAgent remoteAgent).run := by
  unfold verifyAgents
  refine uses_run_bind ⟨rfl, fun _ => trivial⟩ fun answers => ?_
  dsimp only
  split <;> exact trivial

/-- What is neither done before the launch nor the launch itself is plain. -/
theorem plain_of_only {wanted : Stage} {α : Type} {program : ConnectM α} (only : Only wanted program)
    (later : wanted ≠ .prepare) (other : wanted ≠ .launch) : Plain program := by
  refine only.weaken fun request same => ?_
  subst same
  cases request <;> first | rfl | exact absurd rfl later | exact absurd rfl other

theorem plain_notify (body : String) : Plain (notify body) :=
  uses_bind (plain_call rfl) fun _ => trivial

theorem plain_attachSession (window : WindowSelector) : Plain (attachSession request window) := by
  unfold attachSession
  refine uses_bind (plain_call rfl) ?_
  rintro (error | ⟨⟩)
  · exact trivial
  refine uses_bind (plain_call rfl) ?_
  rintro (error | response)
  · exact uses_bind (plain_call rfl) fun _ => trivial
  · dsimp only
    split <;> exact trivial

theorem plain_shortcuts (pid : Option Nat) : Plain (shortcuts node request pid) := by
  unfold shortcuts
  split
  · exact trivial
  · refine uses_bind (plain_of_only (only_locateStreamWindow _ _) (by decide) (by decide)) fun window => ?_
    refine uses_bind (plain_attachSession window) ?_
    rintro (error | grant)
    · exact uses_bind (plain_notify _) fun _ => trivial
    · exact uses_bind (plain_call rfl) fun _ => uses_bind (plain_notify _) fun _ => trivial

theorem plain_restore (grant : Option SessionGrant) : Plain (restore request grant) := by
  cases grant with
  | none => exact trivial
  | some grant =>
      refine uses_bind (plain_call rfl) fun _ => uses_bind ?_ ?_
      · unfold detachSession
        refine uses_bind (plain_call rfl) fun _ => uses_bind (plain_call rfl) fun _ => ?_
        split <;> exact trivial
      · rintro (error | ⟨⟩) <;> exact plain_notify _

theorem plain_stream (rounds : Nat) (pid : Option Nat) : Plain (stream node rounds request pid) := by
  unfold stream
  refine uses_bind (plain_shortcuts pid) fun grant => uses_bind (plain_call rfl) fun _ => ?_
  refine uses_bind (plain_of_only (only_waitForProcessOrMonitor _ _ _ _ _) (by decide) (by decide))
    fun exit => ?_
  exact uses_bind (plain_restore grant) fun _ => trivial

/-- Plain calls, and what is known before and after them. -/
theorem guarded_plain {α β : Type} {first : Attempt α} {second : α → Attempt β}
    {post : List PortEvent → β → Prop} (known : List PortEvent → Prop)
    (calm : ∀ {past}, known past → Idle past)
    (stays : ∀ {past more}, known past → (∀ event ∈ more, isPlain event.1 = true) → known (past ++ more))
    (plain : Plain first.run) (knows : known past)
    (later : ∀ middle value, known middle →
      Guarded (Vetted clientName endpoint) post middle (second value)) :
    Guarded (Vetted clientName endpoint) post past (first >>= second) :=
  guarded_bind (along_plain (calm knows) plain) fun _ value run =>
    later _ value (stays knows (plain.of_traces run))

/-- No host was asked to pair yet. -/
structure Fresh (past : List PortEvent) : Prop where
  idle : Idle past
  fresh : submitted past = false

theorem Fresh.append_plain {past more : List PortEvent} (fresh : Fresh past)
    (plain : ∀ event ∈ more, isPlain event.1 = true) : Fresh (past ++ more) where
  idle := fresh.idle.append_plain plain
  fresh := by
    rw [submitted_append, fresh.fresh, submitted_plain plain]
    rfl

/-- Everything before the launch. -/
theorem guarded_prepare : Guarded (Vetted node.clientName request.endpoint)
    (fun after launch => Paired request.endpoint after ∧ launch.host.address = request.endpoint.address) []
      (prepare node request) := by
  have focused {α : Type} (target : Option α) {focus : α → Attempt Unit}
      (plain : ∀ value, Plain (focus value).run) : Plain (target.forM focus).run := by
    cases target with
    | none => exact trivial
    | some value => exact plain value
  unfold prepare
  refine guarded_plain Fresh Fresh.idle Fresh.append_plain (plain_verifyCallbackAccess _)
    ⟨⟨rfl, rfl⟩, rfl⟩ fun verified _ fresh => ?_
  refine guarded_plain Fresh Fresh.idle Fresh.append_plain (plain_call rfl) fresh
    fun asked status fresh => guarded_failWhen fun _ => ?_
  have pairs : Guarded (Vetted node.clientName request.endpoint)
      (fun after _ => Paired request.endpoint after) asked
      (ensurePaired node request ⟨request.endpoint.address, status.desktopApp.getD "Desktop"⟩) :=
    guarded_ensurePaired rfl fresh.idle fresh.fresh
  refine guarded_bind pairs.along fun trace _ run => ?_
  refine guarded_plain (Paired request.endpoint) Paired.idle Paired.append_plain
    (focused _ fun target => plain_call rfl) (pairs.returns trace _ run) fun placed _ paired => ?_
  refine guarded_plain (Paired request.endpoint) Paired.idle Paired.append_plain
    (focused _ fun window => plain_call rfl) paired fun focused _ paired => ?_
  refine guarded_plain (Paired request.endpoint) Paired.idle Paired.append_plain
    (plain_verifyAgents _ _) paired fun checked _ paired => ?_
  exact guarded_pure ⟨paired, rfl⟩

/-- **Every call of a connection obeys the rule.** -/
theorem along_executeWithStarted (rounds : Nat) : Along (Vetted node.clientName request.endpoint) []
    (executeWithStarted node rounds request).run := by
  unfold executeWithStarted
  refine along_run_bind guarded_prepare.along fun trace launch run => ?_
  obtain ⟨paired, there⟩ := guarded_prepare.returns trace launch run
  rw [List.nil_append] at paired ⊢
  refine fun answer => ⟨⟨paired.idle, there, paired.settled⟩, ?_⟩
  have idle : Idle (trace ++ [⟨.launch launch, answer⟩]) := by
    refine ⟨(pairing_concat _ _).trans paired.idle.quiet, ?_⟩
    rw [abandoned_append, paired.idle.kept]
    rfl
  cases answer with
  | error error => exact trivial
  | ok pid => exact along_plain idle (plain_stream rounds pid)

end Omdesky.Application
