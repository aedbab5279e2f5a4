/-
**How long the terminal interface shows a message (`omdesky-tui/src/lib.rs`).**

Between two rounds of the loop anything may happen: here a run is the rounds alone, each with the
state it finds and the time at which it looks.

* `AppState.expireMessageAt`: what a round does with the message and with what was shown before.
* `Displayed`: the message has been left on the screen in every round since a time, with no operation
  under way after that.
* `displayed_shownAfter`, `shownAfter_displayed`: the message that is remembered has been displayed
  since it is remembered, and one that is displayed is remembered for at least as long.
* `expireMessage_iff_displayed`: a round takes a message away exactly when it has been displayed for
  its lifetime and no operation is under way.
-/

import Omdesky.Tui.State

namespace Omdesky.Tui

open Application

/-! ### The message -/

/-- `MessageKind`. -/
inductive MessageKind
  | notice
  | error
  deriving DecidableEq, Repr

/-- `NOTICE_LIFETIME`, in nanoseconds. -/
def noticeLifetime : Nat := 5000000000

/-- `ERROR_LIFETIME`, in nanoseconds. -/
def errorLifetime : Nat := 10000000000

/-- The lifetime that `expire_message` picks for a kind. -/
def MessageKind.lifetime : MessageKind → Nat
  | .notice => noticeLifetime
  | .error => errorLifetime

/-- `ShownMessage`; an instant is a number of nanoseconds. -/
structure ShownMessage where
  kind : MessageKind
  text : String
  since : Nat
  deriving DecidableEq, Repr

/-- `AppState::message`. -/
def AppState.message (state : AppState) : Option (MessageKind × String) :=
  match state.error with
  | some error => some (.error, error)
  | none => state.notice.map fun notice => (.notice, notice)

/-- The operation that keeps a message on the screen. -/
def AppState.operationPending (state : AppState) : Bool :=
  state.activity ≠ .idle || state.pendingNode.isSome

/-- The message that is remembered is this one. -/
def ShownMessage.is (shown : ShownMessage) (kind : MessageKind) (text : String) : Bool :=
  shown.kind = kind && shown.text = text

/-- `AppState::expire_message`, with `message_shown` before and after. -/
def AppState.expireMessageAt (state : AppState) (shown : Option ShownMessage) (now : Nat) :
    AppState × Option ShownMessage :=
  match state.message with
  | none => (state, none)
  | some (kind, text) =>
      let unchanged := shown.any (·.is kind text)
      if state.operationPending || !unchanged then (state, some { kind, text, since := now })
      else
        -- `duration_since` is zero where the clock seems to go back
        let expired := shown.any fun shown => kind.lifetime ≤ now - shown.since
        if expired then ({ state with error := none, notice := none }, none) else (state, shown)

/-! ### Rounds -/

/-- A round of the loop: the state that it finds, and the time. -/
structure Round where
  app : AppState
  now : Nat

/-- What is remembered after the rounds. -/
def shownAfter (past : List Round) : Option ShownMessage :=
  past.foldl (fun shown round => (round.app.expireMessageAt shown round.now).2) none

/-- The state that a round leaves, to be drawn. -/
def leftBy (past : List Round) (round : Round) : AppState :=
  (round.app.expireMessageAt (shownAfter past) round.now).1

/-- The message has been left on the screen in every round from `since` on, and no operation has been
under way in the rounds after that. -/
inductive Displayed (message : MessageKind × String) : List Round → Nat → Prop
  | first {past : List Round} {round : Round} (left : (leftBy past round).message = some message) :
      Displayed message (past ++ [round]) round.now
  | later {past : List Round} {round : Round} {since : Nat} (displayed : Displayed message past since)
      (free : round.app.operationPending = false)
      (left : (leftBy past round).message = some message) :
      Displayed message (past ++ [round]) since

/-- No round is earlier than one before it. -/
def InOrder (rounds : List Round) : Prop := rounds.Pairwise fun first second => first.now ≤ second.now

/-- The round finds a message that has been displayed for its lifetime, and no operation is under
way. -/
def Outlived (past : List Round) (round : Round) : Prop :=
  ∃ message since, round.app.message = some message ∧ round.app.operationPending = false ∧
    Displayed message past since ∧ since + message.1.lifetime ≤ round.now

section Lifetime

variable {state : AppState} {shown : Option ShownMessage} {past : List Round} {round : Round}

theorem ShownMessage.is_iff {shown : ShownMessage} {kind : MessageKind} {text : String} :
    shown.is kind text = true ↔ (shown.kind, shown.text) = (kind, text) := by
  simp [ShownMessage.is]

theorem shownAfter_append (past : List Round) (round : Round) :
    shownAfter (past ++ [round]) =
      (round.app.expireMessageAt (shownAfter past) round.now).2 := by
  simp [shownAfter]

/-! ### One round -/

/-- A message cannot be shown after it is taken away. -/
@[simp] theorem message_expireMessage (state : AppState) : state.expireMessage.message = none := rfl

/-- What a round makes of the message: nothing is shown; the message is new, or an operation keeps it;
or it is the one remembered, whose lifetime is over or not. -/
inductive Passes (state : AppState) (shown : Option ShownMessage) (now : Nat) :
    AppState × Option ShownMessage → Prop
  | nothing (silent : state.message = none) : Passes state shown now (state, none)
  | restarts {kind text} (speaks : state.message = some (kind, text))
      (kept : state.operationPending = true ∨
        ∀ old, shown = some old → (old.kind, old.text) ≠ (kind, text)) :
      Passes state shown now (state, some { kind, text, since := now })
  | expires {old} (speaks : state.message = some (old.kind, old.text)) (known : shown = some old)
      (free : state.operationPending = false) (aged : old.since + old.kind.lifetime ≤ now) :
      Passes state shown now (state.expireMessage, none)
  | stays {old} (speaks : state.message = some (old.kind, old.text)) (known : shown = some old)
      (free : state.operationPending = false) (young : now < old.since + old.kind.lifetime) :
      Passes state shown now (state, some old)

theorem passes_expireMessageAt (state : AppState) (shown : Option ShownMessage) (now : Nat) :
    Passes state shown now (state.expireMessageAt shown now) := by
  unfold AppState.expireMessageAt
  cases speaks : state.message with
  | none => exact .nothing speaks
  | some message =>
      obtain ⟨kind, text⟩ := message
      dsimp only
      cases pending : state.operationPending with
      | true => exact .restarts speaks (.inl pending)
      | false =>
          cases known : shown with
          | none => exact .restarts speaks (.inr fun old same => by cases same)
          | some old =>
              simp only [Option.any_some, Bool.false_or, Bool.not_eq_true']
              cases same : old.is kind text with
              | false =>
                  refine .restarts speaks (.inr fun other equal => ?_)
                  obtain rfl : old = other := by simpa using equal
                  exact fun alike => by simp [ShownMessage.is_iff.mpr alike] at same
              | true =>
                  obtain ⟨rfl, rfl⟩ := Prod.mk.inj (ShownMessage.is_iff.mp same)
                  simp only [Bool.true_eq_false, if_false, decide_eq_true_eq]
                  split
                  · next aged =>
                      have positive : 0 < old.kind.lifetime := by
                        cases old.kind <;> decide
                      exact .expires speaks rfl pending (by omega)
                  · next young => exact .stays speaks rfl pending (by omega)

/-! ### Rounds in order -/

theorem InOrder.of_append (ordered : InOrder (past ++ [round])) : InOrder past :=
  (List.pairwise_append.mp ordered).1

theorem InOrder.le (ordered : InOrder (past ++ [round])) {earlier : Round} (passed : earlier ∈ past) :
    earlier.now ≤ round.now :=
  (List.pairwise_append.mp ordered).2.2 earlier passed round (by simp)

/-- A message is displayed since one of the rounds. -/
theorem Displayed.mem {message : MessageKind × String} {since : Nat}
    (displayed : Displayed message past since) : ∃ round ∈ past, round.now = since := by
  induction displayed with
  | first _ => exact ⟨_, by simp, rfl⟩
  | later _ _ _ ih =>
      obtain ⟨round, passed, same⟩ := ih
      exact ⟨round, List.mem_append_left _ passed, same⟩

/-- The message that is remembered has been displayed since it is remembered. -/
theorem displayed_shownAfter (past : List Round) :
    ∀ shown, shownAfter past = some shown → Displayed (shown.kind, shown.text) past shown.since := by
  induction past using List.reverseRecOn with
  | nil => intro shown known; cases known
  | append_singleton past round ih =>
      intro shown known
      rw [shownAfter_append] at known
      have leaves : leftBy past round = (round.app.expireMessageAt (shownAfter past) round.now).1 := rfl
      have passes := passes_expireMessageAt round.app (shownAfter past) round.now
      generalize round.app.expireMessageAt (shownAfter past) round.now = result at passes known leaves
      cases passes with
      | nothing => cases known
      | restarts speaks =>
          obtain rfl := Option.some.inj known
          exact .first (leaves ▸ speaks)
      | expires => cases known
      | stays speaks before free =>
          obtain rfl := Option.some.inj known
          exact .later (ih _ before) free (leaves ▸ speaks)

/-- A message that is displayed is remembered, for at least as long. -/
theorem shownAfter_displayed {message : MessageKind × String} {since : Nat}
    (displayed : Displayed message past since) (ordered : InOrder past) :
    ∃ shown, shownAfter past = some shown ∧ (shown.kind, shown.text) = message ∧
      shown.since ≤ since := by
  induction displayed with
  | @first past round left =>
      have passes := passes_expireMessageAt round.app (shownAfter past) round.now
      rw [shownAfter_append]
      rw [leftBy] at left
      generalize round.app.expireMessageAt (shownAfter past) round.now = result at passes left ⊢
      cases passes with
      | nothing silent => cases silent.symm.trans left
      | restarts speaks => exact ⟨_, rfl, Option.some.inj (speaks.symm.trans left), Nat.le_refl _⟩
      | expires => cases left
      | stays speaks known =>
          obtain ⟨earlier, passed, same⟩ := (displayed_shownAfter _ _ known).mem
          exact ⟨_, rfl, Option.some.inj (speaks.symm.trans left), same ▸ ordered.le passed⟩
  | @later past round since _ free left ih =>
      obtain ⟨shown, known, same, early⟩ := ih ordered.of_append
      have passes := passes_expireMessageAt round.app (shownAfter past) round.now
      rw [shownAfter_append]
      rw [leftBy] at left
      generalize round.app.expireMessageAt (shownAfter past) round.now = result at passes left ⊢
      cases passes with
      | nothing silent => cases silent.symm.trans left
      | restarts speaks kept =>
          have told := Option.some.inj (speaks.symm.trans left)
          rcases kept with pending | changed
          · simp [pending] at free
          · exact absurd (same.trans told.symm) (changed _ known)
      | expires => cases left
      | stays speaks before =>
          obtain rfl := Option.some.inj (known.symm.trans before)
          exact ⟨_, rfl, same, early⟩

/-! ### The lifetime of a message -/

/-- **A message is taken away exactly when its time is up.** Whatever happens between the rounds, a
round takes the message away if it finds one that has been displayed for its lifetime while no
operation is under way, and leaves the interface as it is otherwise. -/
theorem expireMessage_iff_displayed (past : List Round) (round : Round)
    (ordered : InOrder (past ++ [round])) :
    (Outlived past round → leftBy past round = round.app.expireMessage) ∧
      (¬ Outlived past round → leftBy past round = round.app) := by
  have leaves : leftBy past round = (round.app.expireMessageAt (shownAfter past) round.now).1 := rfl
  have passes := passes_expireMessageAt round.app (shownAfter past) round.now
  generalize round.app.expireMessageAt (shownAfter past) round.now = result at passes leaves
  rw [leaves]
  refine ⟨?_, ?_⟩
  · rintro ⟨message, since, found, idle, displayed, aged⟩
    obtain ⟨shown, known, same, early⟩ := shownAfter_displayed displayed ordered.of_append
    have kind : shown.kind = message.1 := congrArg Prod.fst same
    cases passes with
    | nothing silent => cases silent.symm.trans found
    | restarts speaks kept =>
        rcases kept with pending | changed
        · simp [pending] at idle
        · exact absurd (same.trans (Option.some.inj (found.symm.trans speaks))) (changed _ known)
    | expires => rfl
    | stays speaks before free young =>
        obtain rfl := Option.some.inj (known.symm.trans before)
        rw [kind] at young
        omega
  · intro young
    cases passes with
    | expires speaks known free aged =>
        exact absurd ⟨_, _, speaks, free, displayed_shownAfter _ _ known, aged⟩ young
    | _ => rfl

theorem expireMessage_iff_displayed_notice :
    (leftBy [⟨AppState.new.tell "Saved", 0⟩] ⟨AppState.new.tell "Saved", noticeLifetime⟩).message =
      none := by
  have displayed : Displayed (.notice, "Saved") [⟨AppState.new.tell "Saved", 0⟩] 0 :=
    @Displayed.first _ [] ⟨AppState.new.tell "Saved", 0⟩ rfl
  have outlived : Outlived [⟨AppState.new.tell "Saved", 0⟩]
      ⟨AppState.new.tell "Saved", noticeLifetime⟩ :=
    ⟨_, 0, rfl, rfl, displayed, by decide⟩
  rw [(expireMessage_iff_displayed _ _ (by simp [InOrder])).1 outlived]
  rfl

end Lifetime

end Omdesky.Tui
