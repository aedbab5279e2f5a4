/-
**What a shortcut learns from the active window (`omdesky-platform/src/input.rs`).**

Before a shortcut for another window, the executor asks `hyprctl activewindow -j` where to return to.
`run_hyprland` looks for an error phrase in the raw text of every reply, and this reply holds the title
of the window.

* `shortcutRun`: the commands and the result of a shortcut, for a reply and the behaviour of `eval`.
* `saysMissing_iff`: the phrase is searched for in both outputs of `hyprctl`.
* `shortcutRun_eq`: a reply with the phrase ends the shortcut; any other one leads to the same `eval`.
* `title_independent_iff`: two replies with one address make no difference exactly when both or
  neither of them have the phrase.
-/

import Mathlib.Data.List.Infix
import Omdesky.Platform.Input

namespace Omdesky.Platform

open Interaction Interaction.Program

/-! ### The error phrase -/

theorem contains_iff {text needle : String} :
    contains text needle = true ↔ needle.toList <:+: text.toList := by
  rw [contains, List.any_eq_true, List.infix_iff_prefix_suffix]
  simp only [List.mem_tails, List.isPrefixOf_iff_prefix]
  exact exists_congr fun _ => and_comm

/-- What begins before a separator it does not contain also ends there. -/
theorem prefix_of_prefix_separated {α : Type} {separator : α} {needle first second : List α}
    (apart : separator ∉ needle) (begins : needle <+: first ++ separator :: second) :
    needle <+: first := by
  rcases List.prefix_or_prefix_of_prefix begins (List.prefix_append first _) with inside | across
  · exact inside
  · obtain ⟨rest, rfl⟩ := across
    cases rest with
    | nil => exact (List.append_nil first).symm ▸ List.prefix_rfl
    | cons head rest =>
        have follows := (List.prefix_append_right_inj first).mp begins
        obtain ⟨rfl, _⟩ := List.cons_prefix_cons.mp follows
        exact absurd (List.mem_append_right _ List.mem_cons_self) apart

/-- What does not contain a separator stands on one side of it. -/
theorem infix_separated {α : Type} {separator : α} {needle first second : List α}
    (apart : separator ∉ needle) :
    needle <:+: first ++ separator :: second ↔ needle <:+: first ∨ needle <:+: second := by
  constructor
  · intro found
    induction first with
    | nil =>
        rcases List.infix_cons_iff.mp found with begins | later
        · exact .inl (prefix_of_prefix_separated apart begins).isInfix
        · exact .inr later
    | cons head first ih =>
        rcases List.infix_cons_iff.mp found with begins | later
        · exact .inl (prefix_of_prefix_separated apart begins).isInfix
        · exact (ih later).imp_left fun inside => List.infix_cons_iff.mpr (.inr inside)
  · rintro (inside | inside)
    · exact inside.trans (List.prefix_append _ _).isInfix
    · exact inside.trans ((List.suffix_cons _ _).trans (List.suffix_append _ _)).isInfix

/-- The text in which `run_hyprland` looks for an error phrase has it. -/
def HyprctlOutput.saysMissing (output : HyprctlOutput) : Bool :=
  let combined := output.stdout ++ "\n" ++ output.stderr
  contains combined "window not found" || contains combined "not found"

/-- The phrase is on one of the outputs. -/
theorem saysMissing_iff {output : HyprctlOutput} : output.saysMissing = true ↔
    contains output.stdout "not found" = true ∨ contains output.stderr "not found" = true := by
  have longer : "not found".toList <:+: "window not found".toList := ⟨"window ".toList, [], by decide⟩
  have combined : (output.stdout ++ "\n" ++ output.stderr).toList =
      output.stdout.toList ++ '\n' :: output.stderr.toList := by simp
  have found : output.saysMissing = true ↔
      "not found".toList <:+: output.stdout.toList ++ '\n' :: output.stderr.toList := by
    simp only [HyprctlOutput.saysMissing, Bool.or_eq_true, contains_iff, combined]
    exact or_iff_right_of_imp longer.trans
  rw [found, infix_separated (by decide), contains_iff, contains_iff]

/-! ### One shortcut -/

/-- The query for the active window. -/
def activeWindowCall : HyprctlCall := ⟨["activewindow", "-j"]⟩

/-- `hyprctl`, with this reply to the query for the active window. -/
def replying (reply : HyprctlOutput) (others : ∀ call, HyprctlAnswer call) :
    ∀ call, HyprctlAnswer call :=
  fun call => if call.args = activeWindowCall.args then .ok reply else others call

/-- The commands that a shortcut issues, and its result. -/
def shortcutRun (decode : String → Except String (Option String)) (chord : KeyChord)
    (window : WindowSelector) (others : ∀ call, HyprctlAnswer call) (reply : HyprctlOutput) :
    List HyprctlCall × Except PortError Unit :=
  under (replying reply others) (execute decode (.sendShortcut chord window)).run

/-- The requested window is gone. -/
def targetMissing : PortError where
  code := "HYPRLAND_TARGET_MISSING"
  message := "The requested window is no longer available."
  retryable := false

/-- What `run_hyprland` makes of an answer. -/
def received : PortResult HyprctlOutput → PortResult String
  | .error error =>
      .error
        { code := "HYPRLAND_UNAVAILABLE", message := error.message, retryable := error.retryable }
  | .ok output => if output.saysMissing then .error targetMissing else .ok output.stdout

theorem under_runHyprland (answers : ∀ call, HyprctlAnswer call) (args : List String) :
    under answers (runHyprland args).run = ([⟨args⟩], received (answers ⟨args⟩)) := by
  have asks : (runHyprland args).run = .ask ⟨args⟩ fun answer => .done (received answer) := by
    refine congrArg (Program.ask _) (funext fun answer => ?_)
    cases answer with
    | error error => rfl
    | ok output =>
        have same : received (.ok output) =
            if output.saysMissing then .error targetMissing else .ok output.stdout := rfl
        rw [same, apply_ite Program.done]
        rfl
  rw [asks]
  rfl

section Shortcut

variable {decode : String → Except String (Option String)} {chord : KeyChord}
  {window : WindowSelector} {others : ∀ call, HyprctlAnswer call} {reply : HyprctlOutput}
  {address : String}

/-- The query is answered with the reply. -/
theorem under_activewindow : under (replying reply others) (runHyprland ["activewindow", "-j"]).run =
    ([activeWindowCall],
      if reply.saysMissing then .error targetMissing else .ok reply.stdout) := by
  rw [under_runHyprland]
  rfl

/-- Where to return to, for a reply with a valid address. -/
theorem under_previousWindow (aimed : window ≠ .activeWindow) (valid : isHexHandle address = true)
    (carries : decode reply.stdout = .ok (some address)) :
    under (replying reply others) (previousWindow decode window).run =
      ([activeWindowCall], if reply.saysMissing then .error targetMissing else .ok (some address)) := by
  have found : activeWindowAddress decode reply.stdout = .ok address := by
    simp [activeWindowAddress, carries, Option.filter, valid]
  have asked : under (replying reply others) (do
      let output ← runHyprland ["activewindow", "-j"]
      let address ← ExceptT.mk (return activeWindowAddress decode output)
      return some address : HyprctlA (Option String)).run = ([activeWindowCall],
        if reply.saysMissing then .error targetMissing else .ok (some address)) := by
    rw [under_run_bind, under_activewindow]
    cases reply.saysMissing with
    | true => rfl
    | false =>
        have read : under (replying reply others) (do
            let address ← ExceptT.mk (return activeWindowAddress decode reply.stdout)
            return some address : HyprctlA (Option String)).run = ([], .ok (some address)) := by
          rw [found]
          rfl
        simp only [Bool.false_eq_true, if_false]
        rw [read]
        rfl
  cases window with
  | activeWindow => exact absurd rfl aimed
  | byClass name => exact asked
  | address value => exact asked

/-- The program that `eval` gets. -/
def evalCall (chord : KeyChord) (window : WindowSelector) (restoreAddress : Option String) :
    HyprctlCall := ⟨["eval", timedShortcutLua chord window restoreAddress]⟩

/-- The last step of a shortcut. -/
theorem under_eval (restoreAddress : Option String) : under (replying reply others) (do
      let _ ← runHyprland ["eval", timedShortcutLua chord window restoreAddress] : HyprctlA Unit).run =
    ([evalCall chord window restoreAddress],
      (received (others (evalCall chord window restoreAddress))).map fun _ => ()) := by
  have other : replying reply others (evalCall chord window restoreAddress) =
      others (evalCall chord window restoreAddress) :=
    if_neg fun same => absurd (List.cons.inj same).1 (by decide)
  have asked : under (replying reply others)
      (runHyprland ["eval", timedShortcutLua chord window restoreAddress]).run =
        ([evalCall chord window restoreAddress],
          received (others (evalCall chord window restoreAddress))) := by
    rw [under_runHyprland, ← other]
    rfl
  rw [under_run_bind, asked]
  cases received (others (evalCall chord window restoreAddress)) <;> rfl

/-- An accepted shortcut is sent. -/
theorem shortcutRun_of_validate (accepted : (RemoteCommand.sendShortcut chord window).validate = .ok ()) :
    shortcutRun decode chord window others reply =
      under (replying reply others) (sendShortcut decode chord window).run := by
  unfold shortcutRun execute
  rw [under_run_bind, accepted]
  rfl

/-- **A shortcut for another window.** The phrase ends it; any other reply leads to the same `eval`. -/
theorem shortcutRun_eq (accepted : (RemoteCommand.sendShortcut chord window).validate = .ok ())
    (aimed : window ≠ .activeWindow) (valid : isHexHandle address = true)
    (carries : decode reply.stdout = .ok (some address)) :
    shortcutRun decode chord window others reply =
      if reply.saysMissing then ([activeWindowCall], .error targetMissing)
      else ([activeWindowCall, evalCall chord window (some address)],
        (received (others (evalCall chord window (some address)))).map fun _ => ()) := by
  rw [shortcutRun_of_validate accepted]
  unfold sendShortcut
  rw [under_run_bind, under_previousWindow aimed valid carries]
  cases reply.saysMissing with
  | true => rfl
  | false =>
      simp only [Bool.false_eq_true, if_false]
      rw [under_eval]
      rfl

/-- A shortcut for the active window asks for nothing. -/
theorem shortcutRun_activeWindow
    (accepted : (RemoteCommand.sendShortcut chord .activeWindow).validate = .ok ()) :
    shortcutRun decode chord .activeWindow others reply = ([evalCall chord .activeWindow none],
      (received (others (evalCall chord .activeWindow none))).map fun _ => ()) := by
  rw [shortcutRun_of_validate accepted]
  unfold sendShortcut
  rw [under_run_bind]
  change ([] ++ (under (replying reply others) _).1, (under (replying reply others) _).2) = _
  rw [under_eval]
  rfl

end Shortcut

/-! ### Two replies -/

/-- **A shortcut depends on nothing but the address, exactly when** it is for the active window, or the
error phrase is in both replies or in neither. -/
theorem title_independent_iff {decode : String → Except String (Option String)} {chord : KeyChord}
    {window : WindowSelector} {address : String} {first second : HyprctlOutput}
    (accepted : (RemoteCommand.sendShortcut chord window).validate = .ok ())
    (valid : isHexHandle address = true) (firstCarries : decode first.stdout = .ok (some address))
    (secondCarries : decode second.stdout = .ok (some address))
    (others : ∀ call, HyprctlAnswer call) :
    shortcutRun decode chord window others first = shortcutRun decode chord window others second ↔
      window = .activeWindow ∨ first.saysMissing = second.saysMissing := by
  by_cases aimed : window = .activeWindow
  · subst aimed
    rw [shortcutRun_activeWindow accepted, shortcutRun_activeWindow accepted]
    exact iff_of_true rfl (.inl rfl)
  · rw [shortcutRun_eq accepted aimed valid firstCarries,
      shortcutRun_eq accepted aimed valid secondCarries]
    cases first.saysMissing <;> cases second.saysMissing <;> simp [aimed]

/-- Two active windows with one address, as `hyprctl` lists them. -/
def plainReply : HyprctlOutput where
  stdout := "\x7b\"address\": \"0x55aa\", \"title\": \"Documents\"\x7d"
  stderr := ""

/-- The page of this window was not found. -/
def missingReply : HyprctlOutput where
  stdout := "\x7b\"address\": \"0x55aa\", \"title\": \"404 not found\"\x7d"
  stderr := ""

/-- What the JSON decoder makes of these replies. -/
def decodeReplies (text : String) : Except String (Option String) :=
  if text = plainReply.stdout ∨ text = missingReply.stdout then .ok (some "0x55aa")
  else .error "expected value at line 1 column 1"

/-- `hyprctl eval` prints that all is well. -/
def evaluates : ∀ call, HyprctlAnswer call := fun _ => .ok { stdout := "ok", stderr := "" }

/-- The window that streams are shown in. -/
def streamClass : WindowSelector := .byClass "com.moonlight_stream.Moonlight"

theorem decodeReplies_plainReply : decodeReplies plainReply.stdout = .ok (some "0x55aa") :=
  if_pos (.inl rfl)

theorem decodeReplies_missingReply : decodeReplies missingReply.stdout = .ok (some "0x55aa") :=
  if_pos (.inr rfl)

/-- **A title stops a shortcut**, though the window it is for is there. -/
theorem title_stops_shortcut :
    (RemoteCommand.sendShortcut captureToggleChord streamClass).validate = .ok () ∧
      isHexHandle "0x55aa" = true ∧ decodeReplies plainReply.stdout = .ok (some "0x55aa") ∧
        decodeReplies missingReply.stdout = .ok (some "0x55aa") ∧
          shortcutRun decodeReplies captureToggleChord streamClass evaluates plainReply ≠
            shortcutRun decodeReplies captureToggleChord streamClass evaluates missingReply := by
  have accepted : (RemoteCommand.sendShortcut captureToggleChord streamClass).validate = .ok () := by
    decide
  have valid : isHexHandle "0x55aa" = true := by decide
  have aimed : streamClass ≠ .activeWindow := nofun
  have sent : (shortcutRun decodeReplies captureToggleChord streamClass evaluates plainReply).1 =
      [activeWindowCall, evalCall captureToggleChord streamClass (some "0x55aa")] := by
    have clear : plainReply.saysMissing = false := by decide
    rw [shortcutRun_eq accepted aimed valid decodeReplies_plainReply, clear]
    rfl
  have stopped : (shortcutRun decodeReplies captureToggleChord streamClass evaluates missingReply).1 =
      [activeWindowCall] := by
    have missing : missingReply.saysMissing = true := by decide
    rw [shortcutRun_eq accepted aimed valid decodeReplies_missingReply, missing]
    rfl
  refine ⟨accepted, valid, decodeReplies_plainReply, decodeReplies_missingReply, fun same => ?_⟩
  rw [same, stopped] at sent
  cases sent

/-- The two replies, one with the phrase and one without. -/
theorem title_independent_iff_missing :
    shortcutRun decodeReplies captureToggleChord streamClass evaluates plainReply =
        shortcutRun decodeReplies captureToggleChord streamClass evaluates missingReply ↔
      streamClass = .activeWindow ∨ plainReply.saysMissing = missingReply.saysMissing :=
  title_independent_iff (by decide) (by decide) decodeReplies_plainReply decodeReplies_missingReply
    evaluates

end Omdesky.Platform
