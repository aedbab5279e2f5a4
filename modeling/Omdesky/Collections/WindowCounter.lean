/-
**A counter of fixed windows.**

A counter admits at most `limit` attempts from the moment its window starts until `width` later. The
first attempt after that starts the next window.

* `WindowCounter.attempt`, `admits`: one attempt, and the outcomes of attempts at a list of moments.
* `WindowCounter.forget`: the counter, or a fresh one when its window has run out;
  `attempt_eq_of_forget` says that no later attempt notices.
* `WindowCounter.admittedIn_lt`: in any interval as long as a window, wherever it starts, fewer than
  twice `limit` attempts are admitted.
-/

import Mathlib.Algebra.Order.Monoid.Unbundled.Basic
import Mathlib.Tactic.Common

namespace Collections

/-- The attempts admitted in the window that started last. -/
structure WindowCounter (Time : Type) where
  admitted : Nat
  startedAt : Option Time
  deriving DecidableEq, Repr

namespace WindowCounter

variable {Time : Type} [Add Time] [LinearOrder Time] (limit : Nat) (width : Time)

/-- A counter without a window. -/
def fresh : WindowCounter Time := ⟨0, none⟩

/-- The window has not run out. -/
def running (counter : WindowCounter Time) (now : Time) : Bool :=
  counter.startedAt.any fun started => now < started + width

/-- The counter of the window that `now` lies in. -/
def current (counter : WindowCounter Time) (now : Time) : WindowCounter Time :=
  if counter.running width now then counter else ⟨0, some now⟩

/-- An attempt at `now`: whether it is admitted, and the counter it leaves. -/
def attempt (counter : WindowCounter Time) (now : Time) : Bool × WindowCounter Time :=
  if limit ≤ (counter.current width now).admitted then (false, counter.current width now)
  else (true, { counter.current width now with
    admitted := (counter.current width now).admitted + 1 })

/-- The outcomes of attempts at these moments. -/
def admits : WindowCounter Time → List Time → List Bool
  | _, [] => []
  | counter, now :: later =>
      (counter.attempt limit width now).1 :: (counter.attempt limit width now).2.admits later

/-- How many attempts are admitted from `first` on and before `last`. -/
def admittedIn (counter : WindowCounter Time) (moments : List Time) (first last : Time) : Nat :=
  (moments.zip (counter.admits limit width moments)).countP fun outcome =>
    outcome.2 && (first ≤ outcome.1 && outcome.1 < last)

/-- The counter, unless its window has run out. -/
def forget (counter : WindowCounter Time) (now : Time) : WindowCounter Time :=
  if counter.running width now then counter else fresh

variable {limit width} {counter other : WindowCounter Time} {now later : Time}

/-! ### Forgetting -/

theorem running_iff : counter.running width now = true ↔
    ∃ started, counter.startedAt = some started ∧ now < started + width := by
  simp [running, Option.any_eq_true]

@[simp] theorem running_fresh : (fresh : WindowCounter Time).running width now = false := rfl

/-- A window that runs later runs now. -/
theorem running_of_later (after : now ≤ later) (runs : counter.running width later = true) :
    counter.running width now = true := by
  obtain ⟨started, starts, inside⟩ := running_iff.mp runs
  exact running_iff.mpr ⟨started, starts, after.trans_lt inside⟩

/-- To forget once more changes nothing. -/
theorem forget_forget (after : now ≤ later) :
    (counter.forget width now).forget width later = counter.forget width later := by
  unfold forget
  by_cases runs : counter.running width later = true
  · simp [runs, running_of_later after runs]
  · by_cases before : counter.running width now = true <;> simp [runs, before]

/-- An attempt does not notice that its counter was forgotten before. -/
theorem attempt_forget (after : now ≤ later) :
    (counter.forget width now).attempt limit width later = counter.attempt limit width later := by
  have same : (counter.forget width now).current width later = counter.current width later := by
    unfold forget current
    by_cases runs : counter.running width later = true
    · simp [runs, running_of_later after runs]
    · by_cases before : counter.running width now = true <;> simp [runs, before]
  unfold attempt
  rw [same]

/-- **Counters that are the same up to forgetting** decide alike, and stay the same. -/
theorem attempt_eq_of_forget (same : counter.forget width now = other.forget width now)
    (after : now ≤ later) : counter.attempt limit width later = other.attempt limit width later := by
  rw [← attempt_forget after, same, attempt_forget after]

theorem forget_eq_of_forget (same : counter.forget width now = other.forget width now)
    (after : now ≤ later) : counter.forget width later = other.forget width later := by
  rw [← forget_forget after, same, forget_forget after]

/-! ### Admission -/

theorem admittedIn_cons {moments : List Time} {first last : Time} :
    counter.admittedIn limit width (now :: moments) first last =
      (counter.attempt limit width now).2.admittedIn limit width moments first last +
        if (counter.attempt limit width now).1 && (first ≤ now && now < last) then 1 else 0 := by
  simp only [admittedIn, admits, List.zip_cons_cons, List.countP_cons]

/-- A window that has started has admitted an attempt. -/
def Started (counter : WindowCounter Time) : Prop :=
  counter.startedAt.isSome → 0 < counter.admitted

omit [Add Time] [LinearOrder Time] in
theorem started_fresh : (fresh : WindowCounter Time).Started := nofun

/-- **One attempt**, in a window that runs or at the start of the next one. -/
theorem attempt_cases (room : 0 < limit) (counter : WindowCounter Time) (now : Time) :
    (counter.running width now = true ∧ limit ≤ counter.admitted ∧
      counter.attempt limit width now = (false, counter)) ∨
    (counter.running width now = true ∧ counter.admitted < limit ∧
      counter.attempt limit width now = (true, ⟨counter.admitted + 1, counter.startedAt⟩)) ∨
    (counter.running width now = false ∧ counter.attempt limit width now = (true, ⟨1, some now⟩)) := by
  unfold attempt current
  by_cases runs : counter.running width now = true
  · rw [if_pos runs]
    by_cases full : limit ≤ counter.admitted
    · exact .inl ⟨runs, full, if_pos full⟩
    · exact .inr (.inl ⟨runs, Nat.lt_of_not_le full, if_neg full⟩)
  · rw [if_neg runs]
    exact .inr (.inr ⟨Bool.eq_false_iff.mpr runs, if_neg (Nat.not_le.mpr room)⟩)

theorem started_attempt (room : 0 < limit) (started : counter.Started) :
    (counter.attempt limit width now).2.Started := by
  rcases attempt_cases room counter now with ⟨_, _, same⟩ | ⟨_, _, same⟩ | ⟨_, same⟩ <;> rw [same]
  · exact started
  · exact fun _ => Nat.succ_pos _
  · exact fun _ => Nat.one_pos

/-- Nothing is admitted in an interval that has closed. -/
theorem admittedIn_eq_zero {moments : List Time} {first last : Time}
    (late : ∀ moment ∈ moments, last ≤ moment) :
    counter.admittedIn limit width moments first last = 0 := by
  refine List.countP_eq_zero.mpr ?_
  rintro ⟨moment, outcome⟩ member
  simp [not_lt.mpr (late moment (List.of_mem_zip member).1)]

/-- In a window that runs until the interval closes, what is left of it is admitted. -/
theorem admittedIn_le_rest (room : 0 < limit) {moments : List Time} {first last started : Time}
    (ordered : moments.Pairwise (· ≤ ·)) (starts : counter.startedAt = some started)
    (covered : last ≤ started + width) :
    counter.admittedIn limit width moments first last ≤ limit - counter.admitted := by
  induction moments generalizing counter with
  | nil => exact Nat.zero_le _
  | cons now moments ih =>
      obtain ⟨before, later⟩ := List.pairwise_cons.mp ordered
      rcases lt_or_ge now last with inside | closed
      · have runs : counter.running width now = true :=
          running_iff.mpr ⟨started, starts, inside.trans_le covered⟩
        rw [admittedIn_cons]
        rcases attempt_cases room counter now with ⟨_, _, same⟩ | ⟨_, _, same⟩ | ⟨stopped, _⟩
        · rw [same]
          simpa using ih later starts
        · have rest : admittedIn limit width ⟨counter.admitted + 1, counter.startedAt⟩ moments first
              last ≤ limit - (counter.admitted + 1) := ih later starts
          rw [same]
          dsimp only
          split <;> omega
        · cases runs.symm.trans stopped
      · rw [admittedIn_eq_zero (List.forall_mem_cons.mpr ⟨closed, fun moment member =>
          closed.trans (before moment member)⟩)]
        exact Nat.zero_le _

variable [AddRightMono Time]

/-- A window that starts in the interval is the last one. -/
theorem admittedIn_le_limit (room : 0 < limit) {moments : List Time} {first last : Time}
    (ordered : (now :: moments).Pairwise (· ≤ ·)) (short : last ≤ first + width)
    (opened : first ≤ now) (stopped : counter.running width now = false) :
    counter.admittedIn limit width (now :: moments) first last ≤ limit := by
  have covered : last ≤ now + width := short.trans (by gcongr)
  have starts : counter.attempt limit width now = (true, ⟨1, some now⟩) := by
    rcases attempt_cases room counter now with ⟨runs, _⟩ | ⟨runs, _⟩ | ⟨_, same⟩
    · cases runs.symm.trans stopped
    · cases runs.symm.trans stopped
    · exact same
  have rest : admittedIn limit width ⟨1, some now⟩ moments first last ≤ limit - 1 :=
    admittedIn_le_rest room (List.pairwise_cons.mp ordered).2 rfl covered
  rw [admittedIn_cons, starts]
  dsimp only
  split <;> omega

/-- Two windows meet the interval. -/
theorem admittedIn_le_windows (room : 0 < limit) {moments : List Time} {first last : Time}
    (ordered : moments.Pairwise (· ≤ ·)) (short : last ≤ first + width)
    (opened : ∀ moment ∈ moments, first ≤ moment) :
    counter.admittedIn limit width moments first last ≤ limit - counter.admitted + limit := by
  induction moments generalizing counter with
  | nil => exact Nat.zero_le _
  | cons now moments ih =>
      obtain ⟨inside, opened⟩ := List.forall_mem_cons.mp opened
      have later := (List.pairwise_cons.mp ordered).2
      rcases attempt_cases room counter now with ⟨_, _, same⟩ | ⟨_, space, same⟩ | ⟨stopped, _⟩
      · rw [admittedIn_cons, same]
        simpa using ih later opened
      · have rest : admittedIn limit width ⟨counter.admitted + 1, counter.startedAt⟩ moments first
            last ≤ limit - (counter.admitted + 1) + limit := ih later opened
        rw [admittedIn_cons, same]
        dsimp only
        split <;> omega
      · exact (admittedIn_le_limit room ordered short inside stopped).trans (Nat.le_add_left _ _)

/-- **Any interval as long as a window** admits fewer than two windows do: if it meets two, the first
of them started, and with an attempt, before the second. -/
theorem admittedIn_lt (room : 0 < limit) (started : counter.Started) {moments : List Time}
    {first last : Time} (ordered : moments.Pairwise (· ≤ ·)) (short : last ≤ first + width) :
    counter.admittedIn limit width moments first last < 2 * limit := by
  induction moments generalizing counter with
  | nil => exact Nat.mul_pos Nat.two_pos room
  | cons now moments ih =>
      obtain ⟨before, later⟩ := List.pairwise_cons.mp ordered
      rcases lt_or_ge now first with early | opened
      · rw [admittedIn_cons, decide_eq_false (not_le.mpr early)]
        simpa using ih (started_attempt room started) later
      · cases runs : counter.running width now with
        | false =>
            have most := admittedIn_le_limit room ordered short opened runs
            omega
        | true =>
            obtain ⟨_, starts, _⟩ := running_iff.mp runs
            have admitted := started (by rw [starts]; rfl)
            have inside : ∀ moment ∈ now :: moments, first ≤ moment :=
              List.forall_mem_cons.mpr ⟨opened, fun moment member =>
                opened.trans (before moment member)⟩
            have most : counter.admittedIn limit width (now :: moments) first last ≤
                limit - counter.admitted + limit := admittedIn_le_windows room ordered short inside
            omega

end WindowCounter

end Collections
