/-
**A dead session never comes back.**

The record of a session outlives its lease until a sweep succeeds, so no field of the coordinator
says that a session is dead. A call shows it (`Entry.buries`): a refused renewal or a finished
detach by its owner, or a snapshot without it.

* `Issued`: the records a run has granted. Their identifiers differ, and the coordinator's own
  record is one of them.
* `Gone`: the session is not in the record, or its deadline has passed. `Gone.step` keeps it over
  every call, because a lease is renewed only strictly before its deadline.
* `Buried`: what no later call can do. `buried_of_observed` proves it after every run.
-/

import Mathlib.Data.List.Nodup
import Omdesky.Agent.Session.Fencing

namespace Omdesky.Agent

/-! ### The sessions a run has granted -/

/-- The session a finished call was granted. -/
def Entry.issues (entry : Entry) : Option ActiveSession :=
  match entry.call, entry.reply with
  | .attach owner role controller window, .attached (.ok grant) =>
      some { id := grant.id, generation := grant.generation, owner, role, controller, window }
  | _, _ => none

/-- The sessions granted so far, newest first. -/
def issued (history : List Entry) : List ActiveSession := history.filterMap Entry.issues

/-- The granted sessions have different identifiers, none of which is drawn again, and the record
is one of them. -/
structure Issued (history : List Entry) (desk : Desk) : Prop where
  record : ∀ session, desk.state.active = some session → session ∈ issued history
  minted : ∀ session ∈ issued history, session.id ∈ desk.minted
  distinct : ((issued history).map ActiveSession.id).Nodup

namespace Issued

variable {lease : Duration} {past : List Entry} {desk after : Desk} {entry : Entry}

/-- A granted session is known by its identifier. -/
theorem eq_of_id (inv : Issued past desk) {first second : ActiveSession} (one : first ∈ issued past)
    (two : second ∈ issued past) (same : first.id = second.id) : first = second :=
  List.inj_on_of_nodup_map inv.distinct one two same

/-- A call that grants nothing and puts no new session in the record. -/
theorem keep (inv : Issued past desk) (nothing : entry.issues = none)
    (record : ∀ session, after.state.active = some session → desk.state.active = some session)
    (minted : desk.minted ⊆ after.minted) : Issued (entry :: past) after := by
  have same : issued (entry :: past) = issued past := by
    simp only [issued, List.filterMap_cons, nothing]
  refine ⟨fun session active => ?_, fun session member => ?_, ?_⟩
  · rw [same]
    exact inv.record session (record session active)
  · rw [same] at member
    exact minted (inv.minted session member)
  · rw [same]
    exact inv.distinct

theorem step (inv : Issued past desk) {call : Call} {reply : Reply}
    (outcome : Outcome lease anyEffect desk call reply after) :
    Issued ({ call, reply, clock := after.clock } :: past) after := by
  cases outcome with
  | granted later free fresh canClear can =>
      refine ⟨?_, ?_, ?_⟩
      · rintro session ⟨⟩
        exact List.mem_cons_self
      · rintro session (_ | ⟨_, member⟩)
        · exact List.mem_cons_self
        · exact List.mem_cons_of_mem _ (inv.minted session member)
      · refine List.nodup_cons.mpr ⟨fun reused => ?_, inv.distinct⟩
        obtain ⟨session, member, same⟩ := List.mem_map.mp reused
        have used := inv.minted session member
        rw [same] at used
        exact fresh used
  | rolledBack => exact inv.keep rfl nofun (List.subset_cons_self _ _)
  | reconciled | detached | expired | released => exact inv.keep rfl nofun (List.Subset.refl _)
  | _ => exact inv.keep rfl (fun _ active => active) (List.Subset.refl _)

theorem of_history {history : List Entry} (run : History lease history desk) :
    Issued history desk := by
  induction run with
  | new clock => exact ⟨nofun, nofun, List.nodup_nil⟩
  | call _ run ih => exact ih.step (performs_iff.mp run)

end Issued

/-! ### Gone for good -/

/-- The identifier is used up, and a record that still carries it is past its deadline. -/
structure Gone (session : ActiveSession) (desk : Desk) : Prop where
  minted : session.id ∈ desk.minted
  late : ∀ active, desk.state.active = some active → active.id = session.id →
    leaseElapsed desk.state desk.clock = true

/-- A lease that has elapsed stays so. -/
theorem leaseElapsed_mono {state : CoordinatorState} {first second : Instant}
    (later : first ≤ second) (elapsed : leaseElapsed state first = true) :
    leaseElapsed state second = true := by
  cases expiresAt : state.expiresAt with
  | none => simp [leaseElapsed, expiresAt]
  | some deadline =>
      simp only [leaseElapsed, expiresAt, decide_eq_true_eq] at elapsed ⊢
      exact Nat.le_trans elapsed later

namespace Gone

variable {lease : Duration} {session : ActiveSession} {desk after : Desk}

/-- The record is as it was and time has passed. -/
theorem keep (gone : Gone session desk) (same : after.state = desk.state)
    (minted : desk.minted ⊆ after.minted) (later : desk.clock ≤ after.clock) :
    Gone session after := by
  refine ⟨minted gone.minted, fun active holds id => ?_⟩
  rw [same] at holds ⊢
  exact leaseElapsed_mono later (gone.late active holds id)

/-- The record was removed. -/
theorem emptied (gone : Gone session desk) {state : CoordinatorState}
    (same : after.state = state.cleared) (minted : desk.minted ⊆ after.minted) :
    Gone session after := by
  refine ⟨minted gone.minted, fun active holds => ?_⟩
  rw [same] at holds
  cases holds

/-- **No call brings it back.** -/
theorem step (gone : Gone session desk) {call : Call} {reply : Reply}
    (outcome : Outcome lease anyEffect desk call reply after) : Gone session after := by
  cases outcome with
  | snapshotted later | refused later | renewLate _ _ _ later | expireEarly _ later
  | expireFailed _ later => exact gone.keep rfl (List.Subset.refl _) later
  | detachIdle | detachForeign | detachStale | detachFailed | renewIdle | renewForeign | renewStale
  | expireIdle | releaseIdle => exact gone.keep rfl (List.Subset.refl _) (Nat.le_refl _)
  | reconciled | detached | expired | released => exact gone.emptied rfl (List.Subset.refl _)
  | rolledBack => exact gone.emptied rfl (List.subset_cons_self _ _)
  | granted later free fresh =>
      refine ⟨List.mem_cons_of_mem _ gone.minted, ?_⟩
      -- the new record carries a fresh identifier
      rintro active ⟨⟩ same
      exact absurd gone.minted (same ▸ fresh)
  | renewed active own current later live =>
      refine ⟨gone.minted, fun record holds same => ?_⟩
      -- a renewal succeeds before the deadline only
      have elapsed := leaseElapsed_mono later (gone.late record holds same)
      exact absurd elapsed (Bool.eq_false_iff.mp live)

end Gone

/-! ### Observed dead -/

/-- The finished call shows the session to be dead: its owner's renewal failed, its owner's detach
was carried out or ignored, or a snapshot did not show it. -/
inductive Entry.Buries (session : ActiveSession) : Entry → Prop
  | renewal {error clock} : Buries session
      { call := .renew session.owner session.claim, reply := .renewed (.error error), clock }
  | detachment {outcome clock} : Buries session
      { call := .detach session.owner session.claim, reply := .detached (.ok outcome), clock }
  | snapshot {shown clock} (hidden : shown ≠ some session) : Buries session
      { call := .snapshot, reply := .snapshot shown, clock }

section Observed

variable {lease : Duration} {past : List Entry} {desk after : Desk} {session : ActiveSession}

/-- What a snapshot shows is in the record before its deadline. -/
theorem snapshot_shows {shown : ActiveSession}
    (outcome : Outcome lease anyEffect desk .snapshot (.snapshot (some shown)) after) :
    ∃ now, desk.clock ≤ now ∧ desk.state.active = some shown ∧
      leaseElapsed desk.state now = false := by
  generalize called : Call.snapshot = call at outcome
  generalize replied : Reply.snapshot (some shown) = reply at outcome
  cases outcome with
  | @snapshotted now later =>
      injection replied with shows
      cases elapsed : leaseElapsed desk.state now with
      | false => exact ⟨now, later, by simpa [elapsed] using shows.symm, elapsed⟩
      | true => simp [elapsed] at shows
  | _ => cases called

/-- The record under the identifier of a granted session is that session. -/
theorem Issued.record_eq (inv : Issued past desk) (granted : session ∈ issued past)
    {active : ActiveSession} (holds : desk.state.active = some active)
    (same : active.id = session.id) : active = session :=
  inv.eq_of_id (inv.record active holds) granted same

/-- **What is observed dead is gone.** -/
theorem gone_of_buries (inv : Issued past desk) (granted : session ∈ issued past) {call : Call}
    {reply : Reply} (outcome : Outcome lease anyEffect desk call reply after)
    (buries : Entry.Buries session { call, reply, clock := after.clock }) :
    Gone session after := by
  have minted := inv.minted session granted
  have record {active} := @Issued.record_eq past desk session inv granted active
  cases outcome with
  | snapshotted later =>
      refine ⟨minted, fun active holds same => ?_⟩
      obtain rfl := record holds same
      obtain _ | _ | hidden := buries
      -- the snapshot would have shown a session before its deadline
      by_contra live
      rw [Desk.tick_state, Desk.tick_clock, Bool.not_eq_true] at live
      rw [live] at hidden
      exact hidden holds
  | detachIdle idle | renewIdle idle =>
      refine ⟨minted, fun active holds => ?_⟩
      rw [idle] at holds
      cases holds
  | detachStale active own stale | renewForeign active own | renewStale active own stale =>
      refine ⟨minted, fun other holds same => ?_⟩
      obtain rfl := record holds same
      cases active.symm.trans holds
      cases buries
      contradiction
  | renewLate active own current later elapsed => exact ⟨minted, fun _ _ _ => elapsed⟩
  | detached => exact ⟨minted, nofun⟩
  | _ => cases buries

end Observed

/-! ### The law -/

/-- What no call from here on can do with a session that is dead. -/
structure Buried (lease : Duration) (session : ActiveSession) (desk : Desk) : Prop where
  /-- No snapshot shows it. -/
  snapshots : ∀ {shown after},
    Performs lease anyEffect desk .snapshot (.snapshot (some shown)) after → shown.id ≠ session.id
  /-- No renewal with its claim succeeds, whoever asks. -/
  renewals : ∀ {owner grant after},
    ¬ Performs lease anyEffect desk (.renew owner session.claim) (.renewed (.ok grant)) after
  /-- A detach with its claim changes nothing, unless the record is still that of the session. -/
  detaches : ∀ {owner reply after},
    Performs lease anyEffect desk (.detach owner session.claim) reply after →
      after = desk ∨ desk.state.active = some session

theorem Gone.buried {lease : Duration} {past : List Entry} {session : ActiveSession} {desk : Desk}
    (gone : Gone session desk) (inv : Issued past desk) (granted : session ∈ issued past) :
    Buried lease session desk where
  snapshots {shown after} performs same := by
    obtain ⟨now, later, holds, live⟩ := snapshot_shows (performs_iff.mp performs)
    have elapsed := leaseElapsed_mono later (gone.late shown holds same)
    rw [live] at elapsed
    cases elapsed
  renewals performs := by
    cases performs_iff.mp performs with
    | renewed active own current later live =>
        have elapsed := leaseElapsed_mono later (gone.late _ active (congrArg SessionClaim.id current))
        rw [live] at elapsed
        cases elapsed
  detaches performs := by
    have record {active} (holds : desk.state.active = some active)
        (current : active.claim = session.claim) : desk.state.active = some session := by
      rw [holds, inv.record_eq granted holds (congrArg SessionClaim.id current)]
    cases performs_iff.mp performs with
    | detachIdle | detachForeign | detachStale => exact .inl rfl
    | detachFailed active own current | detached active own current =>
        exact .inr (record active current)

/-- **Once a session has been observed dead it stays dead**, whatever calls come after. -/
theorem buried_of_observed {lease : Duration} {later earlier : List Entry} {entry : Entry}
    {session : ActiveSession} {desk : Desk}
    (run : History lease (later ++ entry :: earlier) desk) (granted : session ∈ issued earlier)
    (observed : entry.Buries session) : Buried lease session desk := by
  suffices gone : Gone session desk by
    refine gone.buried (Issued.of_history run) ?_
    have past : issued earlier ⊆ issued (later ++ entry :: earlier) :=
      (((List.suffix_cons entry earlier).trans (List.suffix_append later _)).filterMap _).subset
    exact past granted
  induction later generalizing desk with
  | nil =>
      obtain _ | ⟨before, performs⟩ := run
      exact gone_of_buries (Issued.of_history before) granted (performs_iff.mp performs) observed
  | cons last later ih =>
      obtain _ | ⟨before, performs⟩ := run
      exact (ih before).step (performs_iff.mp performs)

/-- The law after a renewal that came exactly at the deadline. -/
theorem buried_of_observed_late : ∃ desk, Buried defaultLease
    (candidate .new ⟨1⟩ "tower" .controller none .activeWindow) desk := by
  have attach := @Outcome.granted defaultLease anyEffect (.new 0) "tower" .controller none
    .activeWindow 7 ⟨1⟩ (.ok ()) (by decide) rfl List.not_mem_nil trivial trivial
  refine ⟨_, @buried_of_observed defaultLease [] _ _ _ _
    (.call (.call (.new 0) attach.performs) (@Outcome.renewLate defaultLease anyEffect _ "tower"
      ⟨⟨1⟩, 1⟩ _ 45000000007 rfl rfl rfl ?_ ?_).performs) List.mem_cons_self .renewal⟩ <;> decide

end Omdesky.Agent
