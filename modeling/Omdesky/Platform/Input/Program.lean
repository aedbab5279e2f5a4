/-
**Programs of dispatches, as Hyprland's Lua evaluates them.**

A text is cut into tokens of Lua and read as a program: dispatches, timers that run once, and
`return true`.

* `Statement`, `programOf`: the programs, and the program of a text. `programOf_eq` says that a text with
  the tokens of a program is that program.
* `trace`, `traceOf`: what a program dispatches; the body of a timer runs after the block that creates it.
* `reads_shortcutSequence`: the nested timers of a sequence have the tokens of `sequenceProgram`.
* `trace_sequenceProgram`: they dispatch one action after the other.
-/

import Omdesky.Lua.Lexer
import Omdesky.Platform.Input

namespace Omdesky.Platform

open Scan Lua

/-! ### Programs of dispatches -/

/-- `hl.dsp.send_key_state`: a key goes down or up, with modifiers of the event's own. -/
structure KeyEvent where
  mods : String
  key : String
  pressed : Bool
  deriving DecidableEq, Repr

/-- What a program dispatches. -/
inductive Dispatch
  | focus (window : String)
  | key (event : KeyEvent)
  deriving DecidableEq, Repr

/-- A statement of a program. -/
inductive Statement
  | dispatch (action : Dispatch)
  | timer (body : List Statement) (timeout : List Char)
  | finish

/-- The tokens of a text. -/
def lexed (text : String) : List Token := (lexer.scan text.toList).getD []

/-- A string between quotes. -/
def quoted (text : String) : List Token := [(.short, text.toList)]

/-- The state of a key event. -/
def stateText (pressed : Bool) : String := if pressed then "down" else "up"

/-- The tokens of a dispatcher. -/
def Dispatch.tokens : Dispatch → List Token
  | .focus window => lexed "hl.dsp.focus(\x7b window =" ++ quoted window ++ lexed "\x7d)"
  | .key event =>
      lexed "hl.dsp.send_key_state(\x7b mods =" ++ quoted event.mods ++ lexed ", key =" ++
        quoted event.key ++ lexed ", state =" ++ quoted (stateText event.pressed) ++ lexed "\x7d)"

mutual

/-- The tokens of a statement. -/
def Statement.tokens : Statement → List Token
  | .dispatch action => lexed "hl.dispatch(" ++ action.tokens ++ lexed ")"
  | .timer body timeout =>
      lexed "hl.timer(function()" ++ blockTokens body ++ lexed "end, \x7b timeout =" ++
        [(.numeral, timeout)] ++ lexed ", type = \"oneshot\" \x7d)"
  | .finish => lexed "return true"

/-- The tokens of several statements. -/
def blockTokens : List Statement → List Token
  | [] => []
  | statement :: rest => statement.tokens ++ furtherTokens rest

/-- The tokens of further statements. -/
def furtherTokens : List Statement → List Token
  | [] => []
  | statement :: rest => lexed ";" ++ statement.tokens ++ furtherTokens rest

end

/-! ### Reading a program -/

/-- The tokens after those of a text. -/
def expect (text : String) (tokens : List Token) : Option (List Token) :=
  if (lexed text).isPrefixOf tokens then some (tokens.drop (lexed text).length) else none

/-- A string without escape sequences. -/
def readString : List Token → Option (String × List Token)
  | (.short, text) :: rest => if text.contains '\\' then none else some (String.ofList text, rest)
  | _ => none

/-- A numeral. -/
def readNumeral : List Token → Option (List Char × List Token)
  | (.numeral, digits) :: rest => some (digits, rest)
  | _ => none

/-- A dispatcher. -/
def readDispatch (tokens : List Token) : Option (Dispatch × List Token) :=
  match expect "hl.dsp.focus(\x7b window =" tokens with
  | some rest => do
      let (window, rest) ← readString rest
      let rest ← expect "\x7d)" rest
      return (.focus window, rest)
  | none => do
      let rest ← expect "hl.dsp.send_key_state(\x7b mods =" tokens
      let (mods, rest) ← readString rest
      let rest ← expect ", key =" rest
      let (key, rest) ← readString rest
      let rest ← expect ", state =" rest
      let (state, rest) ← readString rest
      let rest ← expect "\x7d)" rest
      if state = "down" then return (.key { mods, key, pressed := true }, rest)
      else if state = "up" then return (.key { mods, key, pressed := false }, rest)
      else none

mutual

/-- A statement. -/
def readStatement : Nat → List Token → Option (Statement × List Token)
  | 0, _ => none
  | fuel + 1, tokens =>
      match expect "return true" tokens, expect "hl.timer(function()" tokens with
      | some rest, _ => some (.finish, rest)
      | none, some rest => do
          let (body, rest) ← readBlock fuel rest
          let rest ← expect "end, \x7b timeout =" rest
          let (timeout, rest) ← readNumeral rest
          let rest ← expect ", type = \"oneshot\" \x7d)" rest
          return (.timer body timeout, rest)
      | none, none => do
          let rest ← expect "hl.dispatch(" tokens
          let (action, rest) ← readDispatch rest
          let rest ← expect ")" rest
          return (.dispatch action, rest)

/-- The statements of a block, as far as they go. -/
def readBlock : Nat → List Token → Option (List Statement × List Token)
  | 0, _ => none
  | fuel + 1, tokens =>
      match readStatement fuel tokens with
      | none => some ([], tokens)
      | some (statement, rest) =>
          match expect ";" rest with
          | none => some ([statement], rest)
          | some rest => do
              let (later, rest) ← readBlock fuel rest
              return (statement :: later, rest)

end

/-- The program of a text, if it is one. -/
def programOf (text : String) : Option (List Statement) := do
  let tokens ← lexer.scan text.toList
  match ← readBlock (tokens.length + 1) tokens with
  | (program, []) => return program
  | _ => none

/-! ### Running a program -/

/-- What a block dispatches before it returns. -/
def dispatched : List Statement → List Dispatch
  | [] | .finish :: _ => []
  | .dispatch action :: rest => action :: dispatched rest
  | .timer _ _ :: rest => dispatched rest

mutual

/-- What a statement leaves to be dispatched after its block has returned. -/
def Statement.deferred : Statement → List Dispatch
  | .timer body _ => dispatched body ++ deferredBy body
  | .dispatch _ | .finish => []

/-- What the timers of a block dispatch, in the order in which they are created. -/
def deferredBy : List Statement → List Dispatch
  | [] | .finish :: _ => []
  | statement :: rest => statement.deferred ++ deferredBy rest

end

/-- What a program dispatches. -/
def trace (program : List Statement) : List Dispatch := dispatched program ++ deferredBy program

/-- What the program of a text dispatches. -/
def traceOf (text : String) : Option (List Dispatch) := (programOf text).map trace

/-! ### Every program is read back -/

section Expect

variable {text : String} {tokens rest : List Token}

theorem expect_self : expect text (lexed text ++ rest) = some rest := by
  unfold expect
  rw [if_pos (List.isPrefixOf_iff_prefix.mpr (List.prefix_append _ _)), List.drop_left]

/-- Neither of two lists begins with the other. -/
def apart (first second : List Token) : Bool :=
  !first.isPrefixOf second && !second.isPrefixOf first

/-- Other tokens than those of the text. -/
theorem expect_other (other : apart (lexed text) tokens = true) :
    expect text (tokens ++ rest) = none := by
  simp only [apart, Bool.and_eq_true, Bool.not_eq_true'] at other
  refine if_neg fun begins => ?_
  rw [List.isPrefixOf_iff_prefix] at begins
  rcases List.prefix_or_prefix_of_prefix begins (List.prefix_append tokens rest) with inside | across
  · rw [List.isPrefixOf_iff_prefix.mpr inside] at other
    cases other.1
  · rw [List.isPrefixOf_iff_prefix.mpr across] at other
    cases other.2

end Expect

/-- The strings of a dispatcher are written without escape sequences. -/
def Dispatch.Plain : Dispatch → Prop
  | .focus window => '\\' ∉ window.toList
  | .key event => '\\' ∉ event.mods.toList ∧ '\\' ∉ event.key.toList

theorem readString_quoted {text : String} (plain : '\\' ∉ text.toList) (rest : List Token) :
    readString (quoted text ++ rest) = some (text, rest) := by
  simp [readString, quoted, plain]

theorem readDispatch_tokens {action : Dispatch} (plain : action.Plain) (rest : List Token) :
    readDispatch (action.tokens ++ rest) = some (action, rest) := by
  cases action with
  | focus window =>
      simp only [Dispatch.tokens, List.append_assoc, readDispatch, expect_self,
        readString_quoted plain, Option.bind_eq_bind, Option.bind_some, Option.pure_def]
  | key event =>
      obtain ⟨mods, key⟩ := plain
      have other : apart (lexed "hl.dsp.focus(\x7b window =")
          (lexed "hl.dsp.send_key_state(\x7b mods =") = true := by decide
      have state : '\\' ∉ (stateText event.pressed).toList := by cases event.pressed <;> decide
      simp only [Dispatch.tokens, List.append_assoc, readDispatch, expect_other other, expect_self,
        readString_quoted mods, readString_quoted key, readString_quoted state, Option.bind_eq_bind,
        Option.bind_some]
      obtain ⟨mods, key, pressed⟩ := event
      cases pressed <;> rfl

mutual

/-- All strings of a statement are written without escape sequences. -/
def Statement.Plain : Statement → Prop
  | .dispatch action => action.Plain
  | .timer body _ => PlainBlock body
  | .finish => True

/-- All strings of several statements are written without escape sequences. -/
def PlainBlock : List Statement → Prop
  | [] => True
  | statement :: rest => statement.Plain ∧ PlainBlock rest

end

mutual

/-- How much fuel it takes to read a statement. -/
def Statement.cost : Statement → Nat
  | .dispatch _ | .finish => 1
  | .timer body _ => blockCost body + 1

/-- How much fuel it takes to read several statements. -/
def blockCost : List Statement → Nat
  | [] => 1
  | statement :: rest => statement.cost + blockCost rest + 1

end

/-- No statement goes on with these tokens. -/
structure Stops (rest : List Token) : Prop where
  statement : ∀ fuel, readStatement fuel rest = none
  separator : expect ";" rest = none

theorem stops_of_expect {rest : List Token} (finish : expect "return true" rest = none)
    (timer : expect "hl.timer(function()" rest = none) (dispatch : expect "hl.dispatch(" rest = none)
    (separator : expect ";" rest = none) : Stops rest := by
  refine ⟨fun fuel => ?_, separator⟩
  cases fuel with
  | zero => rfl
  | succ fuel => simp only [readStatement, finish, timer, dispatch, Option.bind_eq_bind,
      Option.bind_none]

theorem stops_nil : Stops [] := stops_of_expect (by decide) (by decide) (by decide) (by decide)

theorem stops_end (rest : List Token) : Stops (lexed "end, \x7b timeout =" ++ rest) :=
  stops_of_expect (expect_other (by decide)) (expect_other (by decide)) (expect_other (by decide))
    (expect_other (by decide))

theorem furtherTokens_cons (statement : Statement) (rest : List Statement) :
    furtherTokens (statement :: rest) = lexed ";" ++ blockTokens (statement :: rest) := by
  rw [furtherTokens, blockTokens, List.append_assoc]

mutual

theorem readStatement_tokens {fuel : Nat} (statement : Statement) (plain : statement.Plain)
    (enough : statement.cost ≤ fuel) (rest : List Token) :
    readStatement fuel (statement.tokens ++ rest) = some (statement, rest) := by
  cases fuel with
  | zero => cases statement <;> simp [Statement.cost] at enough
  | succ fuel =>
      cases statement with
      | dispatch action =>
          have finish : apart (lexed "return true") (lexed "hl.dispatch(") = true := by decide
          have timer : apart (lexed "hl.timer(function()") (lexed "hl.dispatch(") = true := by decide
          have read := readDispatch_tokens (show action.Plain from plain) (lexed ")" ++ rest)
          simp only [Statement.tokens, List.append_assoc, readStatement, expect_other finish,
            expect_other timer, expect_self, read, Option.bind_eq_bind, Option.bind_some,
            Option.pure_def]
      | timer body timeout =>
          have finish : apart (lexed "return true") (lexed "hl.timer(function()") = true := by decide
          have less : blockCost body ≤ fuel := Nat.le_of_succ_le_succ enough
          have read := readBlock_tokens body plain less (stops_end
            ([(.numeral, timeout)] ++ (lexed ", type = \"oneshot\" \x7d)" ++ rest)))
          simp only [Statement.tokens, List.append_assoc, readStatement, expect_other finish,
            expect_self, read, Option.bind_eq_bind, Option.bind_some, Option.pure_def]
          simp only [List.cons_append, List.nil_append, readNumeral, expect_self, Option.bind_some]
      | finish => simp only [Statement.tokens, readStatement, expect_self]

theorem readBlock_tokens {fuel : Nat} (block : List Statement) (plain : PlainBlock block)
    (enough : blockCost block ≤ fuel) {rest : List Token} (stops : Stops rest) :
    readBlock fuel (blockTokens block ++ rest) = some (block, rest) := by
  cases fuel with
  | zero => cases block <;> simp [blockCost] at enough
  | succ fuel =>
      cases block with
      | nil => simp only [blockTokens, List.nil_append, readBlock, stops.statement]
      | cons statement later =>
          have enough : statement.cost + blockCost later ≤ fuel := Nat.le_of_succ_le_succ enough
          have first := readStatement_tokens statement plain.1
            (Nat.le_trans (Nat.le_add_right _ _) enough) (furtherTokens later ++ rest)
          rw [blockTokens, List.append_assoc, readBlock, first]
          cases later with
          | nil => simp only [furtherTokens, List.nil_append, stops.separator]
          | cons next others =>
              have second := readBlock_tokens (next :: others) plain.2
                (Nat.le_trans (Nat.le_add_left _ _) enough) stops
              rw [furtherTokens_cons, List.append_assoc]
              simp only [expect_self, second, Option.bind_eq_bind, Option.bind_some, Option.pure_def]

end

mutual

theorem cost_lt_length (statement : Statement) : statement.cost < statement.tokens.length := by
  cases statement with
  | dispatch action =>
      have opening : (lexed "hl.dispatch(").length = 4 := by decide
      simp only [Statement.cost, Statement.tokens, List.length_append, opening]
      omega
  | timer body timeout =>
      have opening : (lexed "hl.timer(function()").length = 7 := by decide
      have inside := blockCost_le_length body
      simp only [Statement.cost, Statement.tokens, List.length_append, opening]
      omega
  | finish => decide

theorem blockCost_le_length (block : List Statement) :
    blockCost block ≤ (blockTokens block).length + 1 := by
  cases block with
  | nil => exact Nat.le_refl 1
  | cons statement later =>
      have first := cost_lt_length statement
      have others : blockCost later ≤ (furtherTokens later).length + 1 := by
        cases later with
        | nil => exact Nat.le_refl 1
        | cons next others =>
            have inside := blockCost_le_length (next :: others)
            rw [furtherTokens_cons, List.length_append]
            omega
      simp only [blockCost, blockTokens, List.length_append]
      omega

end

/-- **A text with the tokens of a program is that program.** -/
theorem programOf_eq {text : String} {program : List Statement} (plain : PlainBlock program)
    (scanned : lexer.scan text.toList = some (blockTokens program)) :
    programOf text = some program := by
  have read := readBlock_tokens program plain (blockCost_le_length program) stops_nil
  rw [List.append_nil] at read
  simp only [programOf, scanned, Option.bind_eq_bind, Option.bind_some, read, Option.pure_def]

/-! ### One action after the other -/

/-- One dispatch after the other, each in a timer of the one before. -/
def sequenceProgram : List Dispatch → List Statement
  | [] => []
  | [last] => [.dispatch last, .finish]
  | action :: rest => [.dispatch action, .timer (sequenceProgram rest) "25".toList]

theorem sequenceProgram_ne_nil {actions : List Dispatch} (some : actions ≠ []) :
    sequenceProgram actions ≠ [] := by
  match actions, some with
  | [_], _ => exact List.cons_ne_nil _ _
  | _ :: _ :: _, _ => exact List.cons_ne_nil _ _

/-! ### Texts of programs -/

section Tokens

variable {text : String} {action : Dispatch}

theorem reads_separator : Reads "; " (lexed ";") := by decide +kernel

theorem reads_focus (plain : PlainText text) :
    Reads ("hl.dsp.focus(\x7b window = \"" ++ text ++ "\" \x7d)") (Dispatch.focus text).tokens := by
  have opening : Reads "hl.dsp.focus(\x7b window = " (lexed "hl.dsp.focus(\x7b window =") := by
    decide +kernel
  have closing : Reads " \x7d)" (lexed "\x7d)") := by decide +kernel
  have mark : "hl.dsp.focus(\x7b window = \"" = "hl.dsp.focus(\x7b window = " ++ "\"" := by
    decide +kernel
  have endMark : "\" \x7d)" = "\"" ++ " \x7d)" := by decide
  have cut : "hl.dsp.focus(\x7b window = \"" ++ text ++ "\" \x7d)" =
      "hl.dsp.focus(\x7b window = " ++ ("\"" ++ text ++ "\"") ++ " \x7d)" := by
    rw [mark, endMark]
    simp only [String.append_assoc]
  rw [cut]
  exact (opening.append (reads_short plain)).append closing

theorem reads_sendKeyState {mods key : String} (modsPlain : PlainText mods) (keyPlain : PlainText key)
    (pressed : Bool) :
    Reads (sendKeyState mods key (stateText pressed)) (Dispatch.key ⟨mods, key, pressed⟩).tokens := by
  have opening : Reads "hl.dsp.send_key_state(\x7b mods = "
    (lexed "hl.dsp.send_key_state(\x7b mods =") := by decide +kernel
  have second : Reads ", key = " (lexed ", key =") := by decide +kernel
  have third : Reads ", state = " (lexed ", state =") := by decide +kernel
  have closing : Reads " \x7d)" (lexed "\x7d)") := by decide +kernel
  have mark : "hl.dsp.send_key_state(\x7b mods = \"" = "hl.dsp.send_key_state(\x7b mods = " ++ "\"" := by
    decide +kernel
  have keyMark : "\", key = \"" = "\"" ++ (", key = " ++ "\"") := by decide
  have stateMark : "\", state = \"" = "\"" ++ (", state = " ++ "\"") := by decide
  have endMark : "\" \x7d)" = "\"" ++ " \x7d)" := by decide
  have cut : sendKeyState mods key (stateText pressed) = "hl.dsp.send_key_state(\x7b mods = " ++
      ("\"" ++ mods ++ "\"") ++ ", key = " ++ ("\"" ++ key ++ "\"") ++ ", state = " ++
        ("\"" ++ stateText pressed ++ "\"") ++ " \x7d)" := by
    unfold sendKeyState
    rw [mark, keyMark, stateMark, endMark]
    simp only [String.append_assoc]
  have state : PlainText (stateText pressed) := by cases pressed <;> decide
  rw [cut]
  exact (((((opening.append (reads_short modsPlain)).append second).append
    (reads_short keyPlain)).append third).append (reads_short state)).append closing

theorem reads_dispatch (reads : Reads text action.tokens) :
    Reads ("hl.dispatch(" ++ text ++ ")") (Statement.dispatch action).tokens := by
  have opening : Reads "hl.dispatch(" (lexed "hl.dispatch(") := by decide +kernel
  have closing : Reads ")" (lexed ")") := by decide +kernel
  rw [Statement.tokens]
  exact (opening.append reads).append closing

/-- A timer, in which the body is followed by a blank. -/
theorem reads_timer {body : String} {block : List Statement} (inside : Reads (body ++ " ")
      (blockTokens block)) (timeout : String)
    (numeral : Reads ("end, \x7b timeout = " ++ timeout ++ ", type = \"oneshot\" \x7d)")
      (lexed "end, \x7b timeout =" ++ [(.numeral, timeout.toList)] ++
        lexed ", type = \"oneshot\" \x7d)")) :
    Reads ("hl.timer(function() " ++ (body ++ " ") ++
        ("end, \x7b timeout = " ++ timeout ++ ", type = \"oneshot\" \x7d)"))
      (Statement.timer block timeout.toList).tokens := by
  have opening : Reads "hl.timer(function() " (lexed "hl.timer(function()") := by decide +kernel
  have tokens : (Statement.timer block timeout.toList).tokens = lexed "hl.timer(function()" ++
      blockTokens block ++ (lexed "end, \x7b timeout =" ++ [(.numeral, timeout.toList)] ++
        lexed ", type = \"oneshot\" \x7d)") := by
    simp only [Statement.tokens, List.append_assoc]
  rw [tokens]
  exact (opening.append inside).append numeral

/-- The texts of these dispatchers. -/
abbrev Write (texts : List String) (actions : List Dispatch) : Prop :=
  List.Forall₂ (fun text action => Reads text (Dispatch.tokens action)) texts actions

/-- **The nested timers** are the program of their actions. -/
theorem reads_shortcutSequence {texts : List String} {actions : List Dispatch}
    (writes : Write texts actions) :
    Reads (shortcutSequence texts ++ " ") (blockTokens (sequenceProgram actions)) := by
  induction writes with
  | nil => decide +kernel
  | @cons text action texts actions first others ih =>
      have start := (reads_dispatch first).append reads_separator
      cases others with
      | nil =>
          have finish : Reads "return true " (lexed "return true") := by decide +kernel
          have mark : "); return true" ++ " " = ")" ++ ("; " ++ "return true ") := by decide
          have cut : shortcutSequence [text] ++ " " =
              "hl.dispatch(" ++ text ++ ")" ++ "; " ++ "return true " := by
            rw [shortcutSequence, String.append_assoc, mark]
            simp only [String.append_assoc]
          have tokens : blockTokens (sequenceProgram [action]) =
              (Statement.dispatch action).tokens ++ lexed ";" ++ lexed "return true" := by
            simp [sequenceProgram, blockTokens, furtherTokens, Statement.tokens]
          rw [cut, tokens]
          exact start.append finish
      | @cons next nextAction later laterActions second others =>
          have blank : Reads " " [] := by decide
          have mark : "); hl.timer(function() " = ")" ++ ("; " ++ "hl.timer(function() ") := by
            decide +kernel
          have endMark : " end, \x7b timeout = 25, type = \"oneshot\" \x7d)" =
              " " ++ ("end, \x7b timeout = " ++ ("25" ++ ", type = \"oneshot\" \x7d)")) := by
            decide +kernel
          have cut : shortcutSequence (text :: next :: later) ++ " " =
              "hl.dispatch(" ++ text ++ ")" ++ "; " ++ ("hl.timer(function() " ++
                (shortcutSequence (next :: later) ++ " ") ++
                  ("end, \x7b timeout = " ++ "25" ++ ", type = \"oneshot\" \x7d)")) ++ " " := by
            have nested : shortcutSequence (text :: next :: later) = "hl.dispatch(" ++ text ++
                "); hl.timer(function() " ++ shortcutSequence (next :: later) ++
                  " end, \x7b timeout = 25, type = \"oneshot\" \x7d)" := rfl
            rw [nested, mark, endMark]
            simp only [String.append_assoc]
          have tokens : blockTokens (sequenceProgram (action :: nextAction :: laterActions)) =
              (Statement.dispatch action).tokens ++ lexed ";" ++
                (Statement.timer (sequenceProgram (nextAction :: laterActions)) "25".toList).tokens ++
                  [] := by
            simp [sequenceProgram, blockTokens, furtherTokens]
          have timer := reads_timer ih "25" (by decide +kernel)
          rw [cut, tokens]
          exact (start.append timer).append blank

end Tokens

/-! ### Traces -/

section Trace

variable {actions : List Dispatch} {block : List Statement}

theorem dispatched_append : dispatched (actions.map .dispatch ++ block) = actions ++ dispatched block := by
  induction actions with
  | nil => rfl
  | cons action actions ih => exact congrArg (action :: ·) ih

theorem deferredBy_append : deferredBy (actions.map .dispatch ++ block) = deferredBy block := by
  induction actions with
  | nil => rfl
  | cons action actions ih => exact ih

theorem trace_append : trace (actions.map .dispatch ++ block) = actions ++ trace block := by
  rw [trace, dispatched_append, deferredBy_append, List.append_assoc]
  rfl

/-- **Nested timers dispatch one action after the other.** -/
theorem trace_sequenceProgram (actions : List Dispatch) : trace (sequenceProgram actions) = actions := by
  induction actions with
  | nil => rfl
  | cons action rest ih =>
      cases rest with
      | nil => rfl
      | cons next later =>
          have nested : trace (sequenceProgram (action :: next :: later)) =
              action :: (trace (sequenceProgram (next :: later)) ++ []) := rfl
          rw [nested, List.append_nil, ih]

theorem plainBlock_append : PlainBlock (actions.map .dispatch ++ block) ↔
    (∀ action ∈ actions, action.Plain) ∧ PlainBlock block := by
  induction actions with
  | nil => simp
  | cons action actions ih =>
      have first : PlainBlock ((action :: actions).map .dispatch ++ block) ↔
          action.Plain ∧ PlainBlock (actions.map .dispatch ++ block) := Iff.rfl
      rw [first, ih, List.forall_mem_cons, and_assoc]

theorem plainBlock_sequenceProgram (plain : ∀ action ∈ actions, action.Plain) :
    PlainBlock (sequenceProgram actions) := by
  induction actions with
  | nil => exact trivial
  | cons action rest ih =>
      obtain ⟨first, others⟩ := List.forall_mem_cons.mp plain
      cases rest with
      | nil => exact ⟨first, trivial, trivial⟩
      | cons next later => exact ⟨first, ih others, trivial⟩

end Trace

end Omdesky.Platform
