/-
**Which PINs reach Sunshine.**

An agent handles any number of requests at a time, of any peers and on any routes. Handlers are dropped
when a client disconnects, the clock may read anything, and all that is not a pairing challenge answers
as it likes.

* `pinWorld`: the surroundings, in which the challenges are those of the agent.
* `Rule`: what every event of a handler obeys, from the gate and from the order of its own requests.
* `Booked`: the invariant. The challenges know exactly what the journal tells of them.
* `Rests`: what a submitted PIN rests on.
* `PinLaw`, `pin_law`: **every PIN that reaches Sunshine rests on a challenge of its own**, which the
  agent has issued to the same node and which had not expired.
-/

import Omdesky.Agent.Api.Handlers
import Omdesky.Agent.Pairing.SingleUse
import Omdesky.Interaction.Journal

namespace Omdesky.Agent

open Interaction Interaction.Program Platform

/-! ### An agent and its challenges -/

/-- The surroundings of an agent. -/
def pinWorld : World AgentRequest AgentAnswer PairingState
  | .pairing request, state, answer, after => pairingWorld request state answer after
  | _, state, _, after => after = state

/-- The requests an agent handles. -/
abbrev AgentPool := Pool HttpRequest AgentRequest AgentAnswer (Except ApiError ApiReply) PairingState

/-- An event, and the request it is of. -/
abbrev AgentEntry := Entry HttpRequest AgentRequest AgentAnswer

/-- What has happened in an agent since it started. -/
abbrev AgentJournal (config : AgentConfig) (initial : PairingState) :
    List AgentEntry → AgentPool → Prop :=
  Journal (fun request => (handle config request).run) pinWorld undisturbed initial

/-! ### What an event tells -/

/-- The challenge that was issued. -/
def grantOf : AgentEvent → Option Grant
  | ⟨.pairing (.record owner now), .ok pairingId⟩ => some { pairingId, owner, issuedAt := now }
  | _ => none

/-- The challenge that was consumed. -/
def useOf : AgentEvent → Option Use
  | ⟨.pairing (.take owner pairingId now), .ok ()⟩ => some { pairingId, owner, usedAt := now }
  | _ => none

/-- A PIN was submitted. -/
def isSubmission : AgentEvent → Bool
  | ⟨.submitPin _ _, _⟩ => true
  | _ => false

/-- The identifier a request of the pairing route carries. -/
def HttpRequest.pairingId (request : HttpRequest) : Option String :=
  match request.route with
  | .pair (some body) => some body.pairingId
  | _ => none

/-- A PIN was submitted under this identifier. -/
def submitsUnder (pairingId : String) (request : HttpRequest) (event : AgentEvent) : Bool :=
  isSubmission event && request.pairingId == some pairingId

/-- A challenge was consumed under this identifier. -/
def takesUnder (pairingId : String) (event : AgentEvent) : Bool :=
  (useOf event).any fun use => use.pairingId == pairingId

/-! ### What every event obeys -/

/-- The clock reading that a request on the challenges carries was made before it. -/
def Timed (past : List AgentEvent) (event : AgentEvent) : Prop :=
  match event.1 with
  | .pairing (.record _ now) | .pairing (.take _ _ now) => ⟨.pairing .instant, now⟩ ∈ past
  | _ => True

/-- A handler submits one PIN. -/
def Once (past : List AgentEvent) (event : AgentEvent) : Prop :=
  isSubmission event = true → past.countP isSubmission = 0

/-- **What every event of a handler obeys.** -/
def Rule (config : AgentConfig) (request : HttpRequest) (past : List AgentEvent)
    (event : AgentEvent) : Prop :=
  Obeys config request past event ∧ Timed past event ∧ Once past event

/-- A request that is neither on the challenges nor a PIN. -/
def Aside : AgentRequest → Prop
  | .pairing _ | .submitPin _ _ => False
  | _ => True

section Rules

variable {config : AgentConfig} {request : HttpRequest} {past : List AgentEvent} {α : Type}

/-- A request aside is timed, and submits nothing. -/
theorem timed_once_of_aside {event : AgentEvent} (aside : Aside event.1) :
    Timed past event ∧ Once past event := by
  obtain ⟨use, answer⟩ := event
  cases use with
  | pairing use => exact aside.elim
  | submitPin pin clientName => exact aside.elim
  | _ => exact ⟨trivial, fun submits => by cases submits⟩

theorem along_of_aside {program : AgentM α} (uses : Uses Aside program) :
    Along (fun past event => Timed past event ∧ Once past event) past program :=
  uses.along fun _ _ aside => timed_once_of_aside aside

/-- What was done aside submitted nothing. -/
theorem countP_of_aside {program : AgentM α} (uses : Uses Aside program) {trace : List AgentEvent}
    {value : α} (run : Traces program trace value) : trace.countP isSubmission = 0 := by
  refine List.countP_eq_zero.mpr fun event member => ?_
  have aside := uses.of_traces run event member
  obtain ⟨use, answer⟩ := event
  cases use with
  | submitPin pin clientName => exact aside.elim
  | _ => exact Bool.false_ne_true

theorem uses_aside_authorizePeer {source : SocketAddr} {required : ControlCapability} :
    Uses Aside (authorizePeer config source required).run :=
  uses_orFail (uses_onAuthorizer (fun _ => trivial) _)

theorem along_sunshinePairChallenge {source : SocketAddr} :
    Along (fun past event => Timed past event ∧ Once past event) past
      (sunshinePairChallenge config source).run := by
  unfold sunshinePairChallenge
  refine along_run_bind (along_of_aside uses_aside_authorizePeer) fun trace peer _ => ?_
  refine along_run_bind (along_bind ?_ fun _ _ _ => trivial) fun _ _ _ => trivial
  refine fun now => ⟨⟨trivial, fun submits => by cases submits⟩, fun admitted => ?_⟩
  refine ⟨⟨trivial, fun submits => by cases submits⟩, ?_⟩
  rcases admitted with error | _
  · exact trivial
  · refine fun recorded => ⟨⟨?_, fun submits => by cases submits⟩, trivial⟩
    exact List.mem_append_left _ (List.mem_append_right _ List.mem_cons_self)

theorem along_sunshinePair {source : SocketAddr} {body : Option SunshinePairRequest} :
    Along (fun past event => Timed past event ∧ Once past event) []
      (sunshinePair config source body).run := by
  unfold sunshinePair
  cases body with
  | none => exact trivial
  | some body =>
      refine along_run_bind (along_of_aside uses_aside_authorizePeer) fun trace peer authorized => ?_
      have quiet : trace.countP isSubmission = 0 :=
        countP_of_aside uses_aside_authorizePeer authorized
      refine along_run_bind trivial fun _ _ checked => ?_
      obtain ⟨rfl, _⟩ := traces_check.mp checked
      refine along_run_bind (along_bind ?_ fun _ _ _ => trivial) fun taken _ consumed => ?_
      · refine fun now => ⟨⟨trivial, fun submits => by cases submits⟩, fun accepted => ?_⟩
        exact ⟨⟨List.mem_append_right _ List.mem_cons_self, fun submits => by cases submits⟩, trivial⟩
      · -- neither the authorization nor the consumption submits anything
        obtain ⟨inner, rfl, now, rest, rfl, accepted, _, rfl, rfl, _⟩ :=
          traces_within.mp (traces_orFail.mp consumed)
        refine along_run_bind (fun answer => ⟨⟨trivial, fun _ => ?_⟩, trivial⟩) fun _ _ _ => ?_
        · rw [List.countP_append, List.countP_append, List.countP_append, quiet]
          rfl
        · exact fun _ => ⟨⟨trivial, fun submits => by cases submits⟩, trivial⟩

/-- On any other route the gate leaves nothing but what is aside. -/
theorem timed_once_of_obeys {event : AgentEvent} (challenge : request.route ≠ .pairChallenge)
    (pair : ∀ body, request.route ≠ .pair body) (obeys : Obeys config request past event) :
    Timed past event ∧ Once past event := by
  obtain ⟨use, answer⟩ := event
  cases use with
  | pairing use =>
      obtain ⟨peer, _, ⟨route, _⟩ | ⟨body, route, _⟩⟩ := obeys trivial
      · exact absurd route challenge
      · exact absurd route (pair _)
  | submitPin pin clientName =>
      obtain ⟨peer, _, body, route, _⟩ := obeys trivial
      exact absurd route (pair _)
  | _ => exact timed_once_of_aside trivial

/-- **Every event of a handler obeys.** -/
theorem along_rule (config : AgentConfig) (request : HttpRequest) :
    Along (Rule config request) [] (handle config request).run := by
  by_cases health : request.route = .health
  · unfold handle
    rw [if_pos health, health]
    exact trivial
  refine (gated_handle health).along.and ?_
  cases route : request.route with
  | pairChallenge =>
      unfold handle
      rw [if_neg health, route]
      refine along_run_bind trivial fun _ _ _ => along_sunshinePairChallenge
  | pair body =>
      unfold handle
      rw [if_neg health, route]
      refine along_run_bind trivial fun _ _ checked => ?_
      obtain ⟨rfl, _⟩ := traces_check.mp checked
      exact along_sunshinePair
  | _ =>
      refine (gated_handle health).along.weaken fun past event => timed_once_of_obeys ?_ ?_
      · rw [route]; exact Route.noConfusion
      · rw [route]; exact fun _ => Route.noConfusion

end Rules

/-! ### The journal and the challenges -/

/-- **What the challenges know is what the journal tells.** -/
structure Booked (ttl : Duration) (journal : List AgentEntry) (state : PairingState) : Prop where
  accounted : Accounted ttl state
  grants : state.grants = (journal.filterMap fun entry => grantOf entry.2).reverse
  uses : state.uses = (journal.filterMap fun entry => useOf entry.2).reverse

/-- A clock reading is not after the latest one. -/
def Told (state : PairingState) : AgentEvent → Prop
  | ⟨.pairing .instant, now⟩ => now ≤ state.latest
  | _ => True

section Events

variable {ttl : Duration} {state after : PairingState}

/-- What a request on the challenges adds to what was issued and consumed. -/
theorem logs_of_pairing {use : PairingRequest} {answer : PairingAnswer use}
    (answered : pairingWorld use state answer after) :
    after.grants = (grantOf ⟨.pairing use, answer⟩).toList ++ state.grants ∧
      after.uses = (useOf ⟨.pairing use, answer⟩).toList ++ state.uses := by
  cases use with
  | instant =>
      obtain rfl := answered
      exact ⟨rfl, rfl⟩
  | admitIssue owner now =>
      obtain ⟨rfl, rfl⟩ := answered
      exact ⟨rfl, rfl⟩
  | record owner now =>
      obtain ⟨bytes, _, answered⟩ := answered
      rcases @PairingChallenges.record_cases state.challenges owner (randomChallengeId bytes) now with
        recorded | recorded <;>
      · rw [recorded] at answered
        obtain ⟨rfl, rfl⟩ := answered
        exact ⟨rfl, rfl⟩
  | take owner pairingId now =>
      dsimp only [pairingWorld] at answered
      rcases @PairingChallenges.take_cases state.challenges owner pairingId now with
        ⟨challenge, _, _, _, taken⟩ | ⟨_, taken⟩ <;>
      · rw [taken] at answered
        obtain ⟨rfl, rfl⟩ := answered
        exact ⟨rfl, rfl⟩

theorem reverse_filterMap_snoc {β γ : Type} (read : β → Option γ) (items : List β) (item : β) :
    ((items ++ [item]).filterMap read).reverse =
      (read item).toList ++ (items.filterMap read).reverse := by
  rw [List.filterMap_append, List.reverse_append, List.filterMap_cons]
  cases read item <;> rfl

/-- One more entry. -/
theorem Booked.entry {journal : List AgentEntry} {request : HttpRequest} {event : AgentEvent}
    (recorded : Booked ttl journal state) (accounted : Accounted ttl after)
    (grants : after.grants = (grantOf event).toList ++ state.grants)
    (uses : after.uses = (useOf event).toList ++ state.uses) :
    Booked ttl (journal ++ [(request, event)]) after where
  accounted := accounted
  grants := by rw [grants, recorded.grants, reverse_filterMap_snoc]
  uses := by rw [uses, recorded.uses, reverse_filterMap_snoc]

theorem Told.grow {event : AgentEvent} (told : Told state event) (grows : state.Grows after) :
    Told after event := by
  obtain ⟨use, answer⟩ := event
  cases use with
  | pairing use =>
      cases use with
      | instant => exact Nat.le_trans told grows.latest
      | _ => exact trivial
  | _ => exact trivial

/-- **Every event keeps the challenges accounted for.** -/
theorem keeps_booked (config : AgentConfig) (ttl : Duration) :
    Journal.Keeps pinWorld undisturbed (Rule config) (Booked ttl) Told where
  acts := fun _ acts => acts.elim
  event := by
    rintro journal state request past use answer after recorded told ⟨_, timed, _⟩ answered
    cases use with
    | pairing use =>
        have ⟨grants, uses⟩ := logs_of_pairing answered
        have ⟨accounted, grows⟩ : Accounted ttl after ∧ state.Grows after := by
          cases use with
          | instant =>
              obtain rfl := answered
              exact recorded.accounted.read
          | admitIssue owner now =>
              obtain ⟨rfl, rfl⟩ := answered
              exact ⟨recorded.accounted.admitIssue owner now, Nat.le_refl _, List.Subset.refl _,
                List.Subset.refl _⟩
          | record owner now => exact (recorded.accounted.recorded (told _ timed) answered).1
          | take owner pairingId now => exact (recorded.accounted.taken (told _ timed) answered).1
        refine ⟨recorded.entry accounted grants uses, ?_, fun event known => known.grow grows⟩
        cases use with
        | instant =>
            obtain rfl := answered
            exact le_max_right _ _
        | _ => exact trivial
    | _ =>
        obtain rfl := answered
        exact ⟨recorded.entry recorded.accounted rfl rfl, trivial, fun _ => id⟩

end Events

/-- A challenge that was issued was recorded, and one that was consumed was taken. -/
theorem grantOf_eq_some {event : AgentEvent} {grant : Grant} :
    grantOf event = some grant ↔
      event = ⟨.pairing (.record grant.owner grant.issuedAt), .ok grant.pairingId⟩ := by
  constructor
  · intro told
    unfold grantOf at told
    split at told
    · cases told
      rfl
    · cases told
  · rintro rfl
    rfl

/-! ### The law -/

/-- The events of one request among those before show that the request has passed, with this peer. -/
def Shown (config : AgentConfig) (before : List AgentEntry) (request : HttpRequest)
    (peer : AuthorizedPeer) (past : List AgentEvent) : Prop :=
  (past.map (Prod.mk request)).Sublist before ∧ Passed config request peer past

/-- **What a submitted PIN rests on.** Its request has passed the gate on the pairing route, it is the
PIN of the request, and the request has consumed a challenge under its identifier. That challenge was
issued before, to a request of the same node that had passed the gate by then, and had not expired. -/
structure Rests (config : AgentConfig) (ttl : Duration) (before : List AgentEntry)
    (request : HttpRequest) (pin clientName : String) where
  body : SunshinePairRequest
  peer : AuthorizedPeer
  past : List AgentEvent
  usedAt : Instant
  giver : HttpRequest
  host : AuthorizedPeer
  earlier : List AgentEvent
  issuedAt : Instant
  opening : List AgentEntry
  later : List AgentEntry
  route : request.route = .pair (some body)
  pin_eq : pin = body.pin
  name_eq : clientName = body.clientName
  shown : Shown config before request peer past
  consumed : ⟨.pairing (.take peer.tailnetNodeId body.pairingId usedAt), .ok ()⟩ ∈ past
  asked : giver.route = .pairChallenge
  issued : before = opening ++
    (giver, ⟨.pairing (.record peer.tailnetNodeId issuedAt), .ok body.pairingId⟩) :: later
  vetted : Shown config opening giver host earlier
  same : host.tailnetNodeId = peer.tailnetNodeId
  live : usedAt < issuedAt + ttl

/-- **The law of the PINs.** -/
structure PinLaw (config : AgentConfig) (ttl : Duration) (journal : List AgentEntry) : Prop where
  rests : ∀ before request pin clientName answer after,
    journal = before ++ (request, ⟨.submitPin pin clientName, answer⟩) :: after →
      Nonempty (Rests config ttl before request pin clientName)
  once : ∀ pairingId, (journal.countP fun entry => submitsUnder pairingId entry.1 entry.2) ≤ 1
  bounded : (journal.countP fun entry => isSubmission entry.2) ≤
    journal.countP fun entry => (grantOf entry.2).isSome

/-- What was consumed was issued, each under an identifier of its own. -/
theorem Accounted.uses_le_grants {ttl : Duration} {state : PairingState}
    (accounted : Accounted ttl state) : state.uses.length ≤ state.grants.length := by
  rw [← List.length_map Use.pairingId, ← List.length_map Grant.pairingId]
  exact (List.subperm_of_subset accounted.usedOnce fun _ => accounted.used_mem).length_le

section Rules

variable {config : AgentConfig} {request : HttpRequest} {past : List AgentEvent} {event : AgentEvent}

/-- A PIN follows a challenge that was consumed. -/
theorem consumed_of_submission (obeys : Obeys config request past event)
    (submits : isSubmission event = true) : ∃ owner body now, request.route = .pair (some body) ∧
      ⟨.pairing (.take owner body.pairingId now), .ok ()⟩ ∈ past := by
  obtain ⟨use, answer⟩ := event
  cases use with
  | submitPin pin clientName =>
      obtain ⟨peer, _, body, route, _, _, now, consumed⟩ := obeys trivial
      exact ⟨peer.tailnetNodeId, body, now, route, consumed⟩
  | _ => cases submits

/-- A handler submits under an identifier only what it has consumed under it. -/
theorem Rule.frugal_under (rule : Rule config request past event) (pairingId : String) :
    Journal.Frugal (takesUnder pairingId) (submitsUnder pairingId request) past event := by
  intro submits
  obtain ⟨submission, under⟩ := Bool.and_eq_true_iff.mp submits
  obtain ⟨obeys, _, once⟩ := rule
  have none : past.countP (submitsUnder pairingId request) = 0 :=
    Nat.eq_zero_of_le_zero ((List.countP_mono_left fun _ _ both =>
      (Bool.and_eq_true_iff.mp both).1).trans (Nat.le_of_eq (once submission)))
  rw [none, List.countP_pos_iff]
  obtain ⟨owner, body, now, route, consumed⟩ := consumed_of_submission obeys submission
  refine ⟨_, consumed, ?_⟩
  have same : some body.pairingId = some pairingId := by
    rwa [HttpRequest.pairingId, route, beq_iff_eq] at under
  exact beq_iff_eq.mpr (Option.some.inj same)

/-- A handler submits only what it has consumed. -/
theorem Rule.frugal (rule : Rule config request past event) :
    Journal.Frugal (fun event => (useOf event).isSome) isSubmission past event := by
  intro submits
  obtain ⟨obeys, _, once⟩ := rule
  obtain ⟨owner, body, now, route, consumed⟩ := consumed_of_submission obeys submits
  rw [once submits, List.countP_pos_iff]
  exact ⟨_, consumed, rfl⟩

end Rules

section Law

variable {config : AgentConfig} {ttl : Duration} {latest : Instant} {journal : List AgentEntry}
  {pool : AgentPool}

theorem booked_of_journal (kept : AgentJournal config (.new ttl latest) journal pool) :
    Booked ttl journal pool.shared :=
  (kept.keeps (keeps_booked config ttl) (along_rule config)
    ⟨Accounted.new ttl latest, rfl, rfl⟩).1

theorem rests_of_journal (kept : AgentJournal config (.new ttl latest) journal pool)
    {before after : List AgentEntry} {request : HttpRequest} {pin clientName : String}
    {answer : PortResult Unit}
    (split : journal = before ++ (request, ⟨.submitPin pin clientName, answer⟩) :: after) :
    Nonempty (Rests config ttl before request pin clientName) := by
  obtain ⟨past, sub, obeys, _⟩ := kept.justified (along_rule config) split
  obtain ⟨peer, passed, body, route, samePin, sameName, usedAt, consumed⟩ := obeys trivial
  obtain ⟨earlier, _, _, _, journaled, _, _⟩ := kept.entry split
  have recorded := booked_of_journal journaled
  -- the challenge that was consumed is known to the challenges, and so is its grant
  have used : { pairingId := body.pairingId, owner := peer.tailnetNodeId, usedAt : Use } ∈
      earlier.shared.uses := by
    rw [recorded.uses, List.mem_reverse, List.mem_filterMap]
    exact ⟨_, sub.subset (List.mem_map_of_mem consumed), rfl⟩
  obtain ⟨⟨pairingId, owner, issuedAt⟩, granted, sameId, owned, live⟩ :=
    recorded.accounted.justified _ used
  dsimp only at sameId owned
  subst sameId owned
  rw [recorded.grants, List.mem_reverse, List.mem_filterMap] at granted
  obtain ⟨⟨giver, event⟩, member, told⟩ := granted
  obtain rfl := grantOf_eq_some.mp told
  obtain ⟨first, later, whole⟩ := List.append_of_mem member
  obtain ⟨asked, inside, obeyed, _⟩ := journaled.justified (along_rule config) whole
  obtain ⟨host, vetted, suits⟩ := obeyed trivial
  obtain ⟨asks, same⟩ : giver.route = .pairChallenge ∧ host.tailnetNodeId = peer.tailnetNodeId := by
    rcases suits with ⟨asks, now, same | same | same⟩ | ⟨_, _, now, same | same⟩
    · cases same
    · cases same
    · exact ⟨asks, (PairingRequest.record.inj same).1.symm⟩
    · cases same
    · cases same
  exact ⟨
    { body, peer, past, usedAt, giver, host, earlier := asked, issuedAt, opening := first, later, route
      pin_eq := samePin, name_eq := sameName, shown := ⟨sub, passed⟩, consumed, asked := asks
      issued := whole, vetted := ⟨inside, vetted⟩, same, live }⟩

/-- No identifier is submitted under twice. -/
theorem once_of_journal (kept : AgentJournal config (.new ttl latest) journal pool)
    (pairingId : String) :
    (journal.countP fun entry => submitsUnder pairingId entry.1 entry.2) ≤ 1 := by
  have recorded := booked_of_journal kept
  calc (journal.countP fun entry => submitsUnder pairingId entry.1 entry.2)
      ≤ journal.countP fun entry => takesUnder pairingId entry.2 :=
        kept.frugal fun request => (along_rule config request).weaken fun past event rule =>
          rule.frugal_under pairingId
    _ = (pool.shared.uses.map Use.pairingId).count pairingId := by
        rw [recorded.uses, List.count, List.countP_map, List.countP_reverse, List.countP_filterMap]
        refine congrArg (List.countP · journal) (funext fun entry => ?_)
        unfold takesUnder
        cases useOf entry.2 <;> rfl
    _ ≤ 1 := List.nodup_iff_count_le_one.mp recorded.accounted.usedOnce pairingId

theorem bounded_of_journal (kept : AgentJournal config (.new ttl latest) journal pool) :
    (journal.countP fun entry => isSubmission entry.2) ≤
      journal.countP fun entry => (grantOf entry.2).isSome := by
  have recorded := booked_of_journal kept
  calc (journal.countP fun entry => isSubmission entry.2)
      ≤ journal.countP fun entry => (useOf entry.2).isSome :=
        kept.frugal fun request => (along_rule config request).weaken fun past event rule =>
          rule.frugal
    _ = pool.shared.uses.length := by
        rw [recorded.uses, List.length_reverse, List.length_filterMap_eq_countP]
    _ ≤ pool.shared.grants.length := recorded.accounted.uses_le_grants
    _ = journal.countP fun entry => (grantOf entry.2).isSome := by
        rw [recorded.grants, List.length_reverse, List.length_filterMap_eq_countP]

/-- **Every PIN that reaches Sunshine rests on a challenge of its own.** -/
theorem pin_law (kept : AgentJournal config (.new ttl latest) journal pool) :
    PinLaw config ttl journal where
  rests := fun _ _ _ _ _ _ split => rests_of_journal kept split
  once := once_of_journal kept
  bounded := bounded_of_journal kept

end Law

section Paired

/-- A controller that may pair. -/
private def paired : SocketAddr := ⟨.v4 100 64 0 7, 51234⟩

private def laptopPeer : AuthorizedPeer := ⟨"laptop", [.approvePairing]⟩

/-- The authorization of the controller, from what is known of it. -/
private def authorization : List AgentEvent :=
  [⟨.authorizer (.limit paired.ip), true⟩, ⟨.authorizer .instant, (0 : Nat)⟩,
    ⟨.authorizer (.cachedIdentity paired.ip), some ⟨"laptop", 0⟩⟩, ⟨.authorizer .instant, (0 : Nat)⟩,
    ⟨.authorizer .cachedAllowlist, some ⟨[⟨"laptop", none, 0, [.approvePairing]⟩], 0⟩⟩]

private theorem runs_authorizePeer (state : PairingState) :
    Runs pinWorld (authorizePeer deskConfig paired .approvePairing).run state authorization
      (.ok laptopPeer) state :=
  ⟨true, state, _, rfl, rfl, (0 : Nat), state, _, rfl, rfl, some ⟨"laptop", 0⟩, state, _, rfl, rfl,
    (0 : Nat), state, _, rfl, rfl, some ⟨[⟨"laptop", none, 0, [.approvePairing]⟩], 0⟩, state, _, rfl,
    rfl, rfl, rfl, rfl⟩

/-- A request behind the release check. -/
private theorem runs_handle {route : Route} {state final : PairingState} {trace : List AgentEvent}
    {result : Except ApiError ApiReply} (controlled : route ≠ .health)
    (run : Runs pinWorld (handler deskConfig paired route).run state trace result final) :
    Runs pinWorld (handle deskConfig ⟨route, some "0.2.9", paired⟩).run state trace result final := by
  unfold handle
  rw [if_neg controlled]
  refine runs_run_bind.mpr (.inr ⟨[], trace, (), state, rfl, ⟨rfl, ?_, rfl⟩, run⟩)
  have accepted : releaseAccepted (some "0.2.9") = true := by decide
  rw [if_pos accepted]
  rfl

/-- The law after a pairing with a challenge that is a minute old. -/
theorem pin_law_paired :
    let pairingId := randomChallengeId (.replicate 16 7)
    ∃ journal, (⟨.pair (some ⟨pairingId, "1234", "laptop"⟩), some "0.2.9", paired⟩,
        ⟨.submitPin "1234" "laptop", .ok ()⟩) ∈ journal ∧
      PinLaw deskConfig challengeTtl journal := by
  intro pairingId
  have valid : SunshinePairRequest.validate ⟨pairingId, "1234", "laptop"⟩ = .ok () := by
    decide +kernel
  have ⟨middle, issued, final, submitted⟩ : ∃ middle,
      Runs pinWorld (handler deskConfig paired .pairChallenge).run (.new challengeTtl 0)
        (authorization ++ [⟨.pairing .instant, (0 : Nat)⟩,
          ⟨.pairing (.admitIssue "laptop" 0), .ok ()⟩, ⟨.pairing (.record "laptop" 0), .ok pairingId⟩])
        (.ok (.challenge ⟨pairingId, 120⟩)) middle ∧ ∃ final,
      Runs pinWorld (handler deskConfig paired (.pair (some ⟨pairingId, "1234", "laptop"⟩))).run
        middle
        (authorization ++ [⟨.pairing .instant, Duration.fromSecs 60⟩,
          ⟨.pairing (.take "laptop" pairingId (Duration.fromSecs 60)), .ok ()⟩,
          ⟨.submitPin "1234" "laptop", .ok ()⟩,
          ⟨.notify ⟨"Omdesky", "Approved stream pairing for laptop"⟩, .ok ()⟩])
        (.ok .paired) final :=
    ⟨_, runs_run_bind.mpr (.inr ⟨authorization, _, laptopPeer, _, rfl, runs_authorizePeer _,
      (0 : Nat), _, _, rfl, rfl, .ok (), _, _, rfl, ⟨rfl, rfl⟩,
      .ok pairingId, _, _, rfl, ⟨.replicate 16 7, List.not_mem_nil, rfl, rfl⟩, rfl, rfl, rfl⟩),
    _, runs_run_bind.mpr (.inr ⟨authorization, _, laptopPeer, _, rfl, runs_authorizePeer _,
      runs_run_bind.mpr (.inr ⟨[], _, (), _, rfl, ⟨rfl, by rw [valid]; rfl, rfl⟩,
        Duration.fromSecs 60, _, _, rfl, rfl, .ok (), _, _, rfl, ⟨rfl, rfl⟩,
        .ok (), _, _, rfl, rfl, .ok (), _, _, rfl, rfl, rfl, rfl, rfl⟩)⟩)⟩
  exact ⟨_, List.mem_append_right _ (by simp), pin_law (.call (.call .opened
    (runs_handle Route.noConfusion issued)) (runs_handle Route.noConfusion submitted))⟩

end Paired

end Omdesky.Agent
