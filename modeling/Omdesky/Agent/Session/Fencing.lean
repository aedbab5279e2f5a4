/-
**Ownership and fencing of desktop sessions.**

The coordinator hands the desktop to one owner at a time, under a claim and until a deadline: a
`Tenure`. A run's history alone says who holds it (`tenure`), without looking at the coordinator.

* `History`: the runs of the coordinator, with every finished call, its reply and its clock.
* `Coordinated`: the invariant. The record and its deadline come and go together, they are the
  tenure the history gives, and no identifier is granted twice.
* `Fencing`: what the next call can and cannot do; `fencing_of_history` proves it of every run.
-/

import Omdesky.Agent.Session.Outcome

namespace Omdesky.Agent

/-! ### Histories and tenures -/

/-- A finished call with its reply and the clock it left. -/
structure Entry where
  call : Call
  reply : Reply
  clock : Instant

/-- The runs of the coordinator from its start: the finished calls, newest first, and the desk
they leave. -/
inductive History (lease : Duration) : List Entry → Desk → Prop
  | new (clock : Instant) : History lease [] (.new clock)
  | call {past desk call reply after} (before : History lease past desk)
      (run : Performs lease anyEffect desk call reply after) :
      History lease ({ call, reply, clock := after.clock } :: past) after

/-- Who holds the desktop, under which claim and until when. -/
structure Tenure where
  owner : String
  claim : SessionClaim
  deadline : Instant
  deriving DecidableEq, Repr

/-- What one finished call makes of the tenure. -/
def Entry.passes (lease : Duration) (entry : Entry) (held : Option Tenure) : Option Tenure :=
  match entry.call, entry.reply with
  | .attach owner _ _ _, .attached (.ok grant) =>
      some { owner, claim := grant.claim, deadline := entry.clock + lease }
  | .attach _ _ _ _, .attached (.error .effectsFailed) => none
  | .renew _ _, .renewed (.ok _) =>
      held.map fun held => { held with deadline := entry.clock + lease }
  | .detach _ _, .detached (.ok .applied) => none
  | .expireDue, .expired .applied => none
  | .release, _ => none
  | .reconcile, _ => none
  | _, _ => held

/-- The tenure a history leaves: the latest grant, renewed since, unless it was given back, cleared
or replaced. -/
def tenure (lease : Duration) : List Entry → Option Tenure
  | [] => none
  | entry :: past => entry.passes lease (tenure lease past)

/-- The claim a call was granted. -/
def Entry.grant (entry : Entry) : Option SessionClaim :=
  match entry.reply with
  | .attached (.ok grant) => some grant.claim
  | _ => none

/-- The claims granted so far, newest first. -/
def grants (history : List Entry) : List SessionClaim := history.filterMap Entry.grant

/-- The tenure in the coordinator's own state. -/
def CoordinatorState.tenure (state : CoordinatorState) : Option Tenure :=
  match state.active, state.expiresAt with
  | some active, some deadline => some { owner := active.owner, claim := active.claim, deadline }
  | _, _ => none

/-! ### The two comparisons with the deadline -/

theorem tenure_eq_some {state : CoordinatorState} {held : Tenure} :
    state.tenure = some held ↔ ∃ active, state.active = some active ∧
      active.owner = held.owner ∧ active.claim = held.claim ∧
        state.expiresAt = some held.deadline := by
  obtain ⟨active, expiresAt, generation⟩ := state
  obtain ⟨owner, claim, deadline⟩ := held
  cases active <;> cases expiresAt <;> simp [CoordinatorState.tenure]

/-- `attach` refuses strictly before the deadline of another owner's tenure. -/
theorem heldByOther_iff {state : CoordinatorState} {owner : String} {now : Instant} :
    heldByOther state owner now = true ↔
      ∃ held, state.tenure = some held ∧ held.owner ≠ owner ∧ now < held.deadline := by
  obtain ⟨active, expiresAt, generation⟩ := state
  cases active <;> cases expiresAt <;> simp [heldByOther, CoordinatorState.tenure]

/-- `renew` and the sweep count a lease as running strictly before the deadline. -/
theorem leaseElapsed_eq_false {state : CoordinatorState} {now : Instant} :
    leaseElapsed state now = false ↔ ∃ deadline, state.expiresAt = some deadline ∧
      now < deadline := by
  cases expiresAt : state.expiresAt <;> simp [leaseElapsed, expiresAt]

/-! ### The invariant -/

/-- **The invariant of every run.** -/
structure Coordinated (lease : Duration) (history : List Entry) (desk : Desk) : Prop where
  paired : desk.state.active.isSome = desk.state.expiresAt.isSome
  held : tenure lease history = desk.state.tenure
  latest : ∀ held, desk.state.tenure = some held → (grants history).head? = some held.claim
  minted : ∀ claim ∈ grants history, claim.id ∈ desk.minted
  distinct : (grants history).Nodup
  bounded : desk.state.generation < 2 ^ 64

theorem le_saturatingAdd {generation : Nat} (bounded : generation < 2 ^ 64) :
    generation ≤ saturatingAdd generation 1 := by
  unfold saturatingAdd
  omega

theorem saturatingAdd_lt (generation : Nat) : saturatingAdd generation 1 < 2 ^ 64 := by
  unfold saturatingAdd
  omega

namespace Coordinated

variable {lease : Duration} {past : List Entry} {desk after : Desk} {entry : Entry}

theorem new (clock : Instant) : Coordinated lease [] (.new clock) where
  paired := rfl
  held := rfl
  latest := by rintro held ⟨⟩
  minted := by rintro claim ⟨⟩
  distinct := List.nodup_nil
  bounded := by simp [Desk.new, CoordinatorState.new]

/-- A call that grants nothing and leaves the record and its deadline alone, or only extends the
deadline, keeps the claim. -/
theorem keep (before : Coordinated lease past desk) (nothing : entry.grant = none)
    (paired : after.state.active.isSome = after.state.expiresAt.isSome)
    (held : entry.passes lease desk.state.tenure = after.state.tenure)
    (latest : ∀ held, after.state.tenure = some held →
      ∃ earlier, desk.state.tenure = some earlier ∧ earlier.claim = held.claim)
    (minted : desk.minted ⊆ after.minted) (bounded : after.state.generation < 2 ^ 64) :
    Coordinated lease (entry :: past) after := by
  have same : grants (entry :: past) = grants past := by
    simp only [grants, List.filterMap_cons, nothing]
  refine ⟨paired, ?_, fun now holds => ?_, fun claim granted => ?_, ?_, bounded⟩
  · rw [tenure, before.held, held]
  · obtain ⟨earlier, was, claim⟩ := latest now holds
    rw [same, before.latest earlier was, claim]
  · rw [same] at granted
    exact minted (before.minted claim granted)
  · rw [same]
    exact before.distinct

/-- A call that changes neither the record nor the deadline. -/
theorem unchanged (before : Coordinated lease past desk) (nothing : entry.grant = none)
    (passes : ∀ held, entry.passes lease held = held) (same : after.state = desk.state)
    (minted : after.minted = desk.minted) : Coordinated lease (entry :: past) after :=
  before.keep nothing (same ▸ before.paired) (by rw [passes, same])
    (fun held holds => ⟨held, same ▸ holds, rfl⟩) (minted ▸ List.Subset.refl _)
    (same ▸ before.bounded)

/-- A call that clears the record with its deadline. -/
theorem emptied (before : Coordinated lease past desk) (nothing : entry.grant = none)
    (passes : ∀ held, entry.passes lease held = none) {state : CoordinatorState}
    (same : after.state = state.cleared) (minted : desk.minted ⊆ after.minted)
    (bounded : state.generation < 2 ^ 64) : Coordinated lease (entry :: past) after := by
  have none : after.state.tenure = none := by simp [same, CoordinatorState.tenure,
    CoordinatorState.cleared]
  refine before.keep nothing (by simp [same, CoordinatorState.cleared]) (by rw [passes, none])
    (fun held holds => ?_) minted (by simpa [same, CoordinatorState.cleared] using bounded)
  rw [none] at holds
  cases holds

/-- **Every finished call keeps the invariant.** -/
theorem step (before : Coordinated lease past desk) {call : Call} {reply : Reply}
    (outcome : Outcome lease anyEffect desk call reply after) :
    Coordinated lease ({ call, reply, clock := after.clock } :: past) after := by
  cases outcome with
  | snapshotted | refused | detachIdle | detachForeign | detachStale | detachFailed
  | renewIdle | renewForeign | renewStale | renewLate | expireIdle | expireEarly | expireFailed =>
      exact before.unchanged rfl (fun _ => rfl) rfl rfl
  | reconciled | detached | expired | released =>
      exact before.emptied rfl (fun _ => rfl) rfl (List.Subset.refl _) before.bounded
  | rolledBack =>
      exact before.emptied rfl (fun _ => rfl) rfl (List.subset_cons_self _ _) (saturatingAdd_lt _)
  | releaseIdle idle =>
      have none : desk.state.tenure = none := by simp [CoordinatorState.tenure, idle]
      exact before.keep rfl before.paired none.symm (fun held holds => ⟨held, holds, rfl⟩)
        (List.Subset.refl _) before.bounded
  | renewed active own current later live =>
      obtain ⟨deadline, expiresAt, _⟩ := leaseElapsed_eq_false.mp live
      refine before.keep rfl ?_ ?_ ?_ (List.Subset.refl _) before.bounded
      · simp [active]
      · simp [Entry.passes, CoordinatorState.tenure, active, expiresAt]
      · simp [CoordinatorState.tenure, active, expiresAt]
        
  | granted later free fresh canClear can =>
      rename_i owner role controller window now id cleanup
      refine ⟨rfl, rfl, ?_, ?_, ?_, saturatingAdd_lt _⟩
      · rintro held ⟨⟩
        rfl
      · rintro claim (_ | ⟨_, granted⟩)
        · exact List.mem_cons_self
        · exact List.mem_cons_of_mem _ (before.minted claim granted)
      · refine List.nodup_cons.mpr ⟨fun granted => fresh (before.minted _ granted), before.distinct⟩

/-- Every run keeps the invariant. -/
theorem of_history {history : List Entry} (run : History lease history desk) :
    Coordinated lease history desk := by
  induction run with
  | new clock => exact .new clock
  | call _ run ih => exact ih.step (performs_iff.mp run)

end Coordinated

/-! ### The law -/

/-- The session error a call returns. -/
def Reply.error : Reply → Option SessionError
  | .attached (.error error) | .detached (.error error) | .renewed (.error error) => some error
  | _ => none

/-- The tenure is this owner's, under this claim. -/
def HeldBy (held : Option Tenure) (owner : String) (claim : SessionClaim) : Prop :=
  ∃ tenure, held = some tenure ∧ tenure.owner = owner ∧ tenure.claim = claim

/-- **Ownership and fencing**: what any next call does after a run. -/
structure Fencing (lease : Duration) (history : List Entry) (desk : Desk) : Prop where
  /-- A renewal succeeds for the holder of the tenure, strictly before its deadline, and for nobody
  else. -/
  renewals : ∀ {owner claim reply after},
    Performs lease anyEffect desk (.renew owner claim) reply after →
      ((∃ grant, reply = .renewed (.ok grant)) ↔ ∃ held, tenure lease history = some held ∧
        held.owner = owner ∧ held.claim = claim ∧ after.clock < held.deadline)
  /-- The tenure is the latest grant's, and no two grants share a claim. -/
  latest : ∀ held, tenure lease history = some held → (grants history).head? = some held.claim
  distinct : (grants history).Nodup
  /-- An attach is refused for ownership strictly before the deadline of another owner's tenure, and
  never otherwise. -/
  attaches : ∀ {owner role controller window reply after},
    Performs lease anyEffect desk (.attach owner role controller window) reply after →
      (reply = .attached (.error .ownedByAnotherController) ↔
        ∃ held, tenure lease history = some held ∧ held.owner ≠ owner ∧
          after.clock < held.deadline)
  /-- A renew or detach by anyone but the holder, or under another claim, changes nothing. -/
  outsiders : ∀ {owner claim call reply after}, call = .renew owner claim ∨
    call = .detach owner claim → ¬ HeldBy (tenure lease history) owner claim →
      Performs lease anyEffect desk call reply after → SameRecord desk after
  /-- A failed call changes nothing, unless it is an attach whose effects failed. -/
  errors : ∀ {call reply after error}, Performs lease anyEffect desk call reply after →
    reply.error = some error → reply ≠ .attached (.error .effectsFailed) → SameRecord desk after
  /-- A record comes with a deadline. -/
  paired : desk.state.active.isSome ↔ desk.state.expiresAt.isSome
  /-- The generation never decreases. -/
  generation : ∀ {call reply after}, Performs lease anyEffect desk call reply after →
    desk.state.generation ≤ after.state.generation

namespace Coordinated

variable {lease : Duration} {history : List Entry} {desk after : Desk} {reply : Reply}
  (inv : Coordinated lease history desk)
include inv

theorem renewals {owner : String} {claim : SessionClaim}
    (outcome : Outcome lease anyEffect desk (.renew owner claim) reply after) :
    (∃ grant, reply = .renewed (.ok grant)) ↔ ∃ held, tenure lease history = some held ∧
      held.owner = owner ∧ held.claim = claim ∧ after.clock < held.deadline := by
  simp only [inv.held, tenure_eq_some]
  -- a refused renewal names another owner, another claim or a deadline that has passed
  cases outcome with
  | renewIdle idle =>
      constructor
      · rintro ⟨grant, ⟨⟩⟩
      · rintro ⟨held, ⟨session, active, _⟩, _⟩
        rw [idle] at active
        cases active
  | renewForeign active foreign =>
      constructor
      · rintro ⟨grant, ⟨⟩⟩
      · rintro ⟨held, ⟨session, holds, same, _⟩, own, _⟩
        cases active.symm.trans holds
        exact absurd (same.trans own) foreign
  | renewStale active own stale =>
      constructor
      · rintro ⟨grant, ⟨⟩⟩
      · rintro ⟨held, ⟨session, holds, _, same, _⟩, _, current, _⟩
        cases active.symm.trans holds
        exact absurd (same.trans current) stale
  | renewLate active own current later elapsed =>
      constructor
      · rintro ⟨grant, ⟨⟩⟩
      · rintro ⟨held, ⟨session, _, _, _, expiresAt⟩, _, _, before⟩
        have live := leaseElapsed_eq_false.mpr ⟨held.deadline, expiresAt, before⟩
        rw [Desk.tick_clock, elapsed] at live
        cases live
  | renewed active own current later live =>
      obtain ⟨deadline, expiresAt, before⟩ := leaseElapsed_eq_false.mp live
      exact ⟨fun _ => ⟨⟨owner, claim, deadline⟩, ⟨_, active, own, current, expiresAt⟩, rfl, rfl,
        before⟩, fun _ => ⟨_, rfl⟩⟩

theorem attaches {owner : String} {role : SessionRole} {controller : Option AgentEndpoint}
    {window : WindowSelector}
    (outcome : Outcome lease anyEffect desk (.attach owner role controller window) reply after) :
    reply = .attached (.error .ownedByAnotherController) ↔
      ∃ held, tenure lease history = some held ∧ held.owner ≠ owner ∧
        after.clock < held.deadline := by
  rw [inv.held, ← heldByOther_iff]
  cases outcome with
  | refused later held => exact ⟨fun _ => held, fun _ => rfl⟩
  | granted later free =>
      refine ⟨nofun, fun held => ?_⟩
      exact absurd held (by simpa using free)
  | rolledBack later free =>
      refine ⟨nofun, fun held => ?_⟩
      exact absurd held (by simpa using free)

theorem outsiders {owner : String} {claim : SessionClaim} {call : Call}
    (names : call = .renew owner claim ∨ call = .detach owner claim)
    (outsider : ¬ HeldBy (tenure lease history) owner claim)
    (outcome : Outcome lease anyEffect desk call reply after) : SameRecord desk after := by
  -- an own, current claim is the tenure's, because a record has a deadline
  have holder {session : ActiveSession} (active : desk.state.active = some session)
      (own : session.owner = owner) (current : session.claim = claim) : False := by
    have dated : desk.state.expiresAt.isSome := by rw [← inv.paired, active, Option.isSome_some]
    obtain ⟨deadline, expiresAt⟩ := Option.isSome_iff_exists.mp dated
    refine outsider ⟨⟨owner, claim, deadline⟩, ?_, rfl, rfl⟩
    rw [inv.held, tenure_eq_some]
    exact ⟨session, active, own, current, expiresAt⟩
  rcases names with rfl | rfl
  · cases outcome with
    | renewed active own current => exact (holder active own current).elim
    | _ => exact ⟨rfl, rfl⟩
  · cases outcome with
    | detached active own current => exact (holder active own current).elim
    | _ => exact ⟨rfl, rfl⟩

end Coordinated

theorem errors {lease : Duration} {desk after : Desk} {call : Call} {reply : Reply}
    {error : SessionError} (outcome : Outcome lease anyEffect desk call reply after)
    (failed : reply.error = some error) (kept : reply ≠ .attached (.error .effectsFailed)) :
    SameRecord desk after := by
  cases outcome with
  | refused | detachForeign | detachFailed | renewIdle | renewForeign | renewStale | renewLate =>
      exact ⟨rfl, rfl⟩
  | rolledBack => exact absurd rfl kept
  | _ => cases failed

theorem generation_mono {lease : Duration} {desk after : Desk} {call : Call} {reply : Reply}
    (bounded : desk.state.generation < 2 ^ 64)
    (outcome : Outcome lease anyEffect desk call reply after) :
    desk.state.generation ≤ after.state.generation := by
  cases outcome with
  | granted | rolledBack => exact le_saturatingAdd bounded
  | _ => exact Nat.le_refl _

/-- **Every run is fenced.** -/
theorem fencing_of_history {lease : Duration} {history : List Entry} {desk : Desk}
    (run : History lease history desk) : Fencing lease history desk where
  renewals performs := (Coordinated.of_history run).renewals (performs_iff.mp performs)
  latest held holds := (Coordinated.of_history run).latest held
    ((Coordinated.of_history run).held ▸ holds)
  distinct := (Coordinated.of_history run).distinct
  attaches performs := (Coordinated.of_history run).attaches (performs_iff.mp performs)
  outsiders names outsider performs :=
    (Coordinated.of_history run).outsiders names outsider (performs_iff.mp performs)
  errors performs failed kept := errors (performs_iff.mp performs) failed kept
  paired := by rw [(Coordinated.of_history run).paired]
  generation performs :=
    generation_mono (Coordinated.of_history run).bounded (performs_iff.mp performs)

/-- The law after one grant. -/
theorem fencing_of_history_granted : ∃ history desk,
    tenure defaultLease history =
      some { owner := "tower", claim := { id := ⟨1⟩, generation := 1 }, deadline := 45000000007 } ∧
        Fencing defaultLease history desk := by
  have attach := @Outcome.granted defaultLease anyEffect (.new 0) "tower" .controller none
    .activeWindow 7 ⟨1⟩ (.ok ()) (by decide) rfl List.not_mem_nil trivial trivial
  exact ⟨_, _, by decide, fencing_of_history (.call (.new 0) attach.performs)⟩

end Omdesky.Agent
