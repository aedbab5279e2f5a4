/-
**The tokens of a command line.**

A line is cut into words and operators. A word is read part by part, so that the tokens tell its quoted
parts from its bare ones, and each word ends with a token of its own.

* `lineScanner`: a POSIX shell's token recognition, without substitutions and continued lines.
* `absorb`: a bare word is absorbed between, in and after words, and inside quotes.
-/

import Omdesky.Scan.Scanner
import Omdesky.Shell.Words

namespace Shell

open Scan

/-! ### The scanner -/

/-- The kinds of tokens: the parts of words, the ends of words, and operators. A word that a redirection
follows at once has an end of its own kind, since a number there belongs to the redirection. -/
inductive LineKind
  | bare
  | single
  | double
  | wordEnd
  | redirected
  | operator
  deriving DecidableEq, Repr

/-- The parts of words. -/
def LineKind.isPart : LineKind → Bool
  | .bare | .single | .double => true
  | .wordEnd | .redirected | .operator => false

/-- Where in a line the scanner is: between words, in a bare part, after a quoted part, and so on. -/
inductive LineMode
  | between
  | bare
  | joint
  | escaped
  | single
  | double
  | doubleEscaped
  | operator (pending : List Char)
  | comment
  | failed
  deriving DecidableEq, Repr

/-- The operators of several characters. -/
def longOperators : List (List Char) :=
  ["&&".toList, "||".toList, ";;".toList, "<<".toList, ">>".toList, "<&".toList, ">&".toList,
    "<>".toList, "<<-".toList, ">|".toList]

/-- The next part of a word. -/
def beginPart (c : Char) : LineMode × List (Mark LineKind) :=
  if c == singleQuote then (.single, [])
  else if c == doubleQuote then (.double, [])
  else if c == backslash then (.escaped, [.keep c])
  else if isSubstitution c then (.failed, [])
  else (.bare, [.keep c])

/-- A character between words. -/
def beginWord (c : Char) : LineMode × List (Mark LineKind) :=
  if isBlank c then (.between, [])
  else if isOperator c then (.operator [c], [.keep c])
  else if c == '#' then (.comment, [])
  else beginPart c

/-- A character in a word, after these marks for its last part. -/
def inWord (marks : List (Mark LineKind)) (c : Char) : LineMode × List (Mark LineKind) :=
  if isBlank c then (.between, marks ++ [.finish .wordEnd])
  else if isOperator c then
    let ending := if c == '<' || c == '>' then LineKind.redirected else .wordEnd
    (.operator [c], marks ++ [.finish ending, .keep c])
  else ((beginPart c).1, marks ++ (beginPart c).2)

/-- The character begins a new part of a word, or ends the word. -/
def endsBare (c : Char) : Bool :=
  isBlank c || isOperator c || c == singleQuote || c == doubleQuote

/-- One character. -/
def stepLine : LineMode → Char → LineMode × List (Mark LineKind)
  | .between, c => beginWord c
  | .bare, c => if endsBare c then inWord [.finish .bare] c else beginPart c
  | .joint, c => inWord [] c
  | .escaped, c => if c == '\n' then (.failed, []) else (.bare, [.keep c])
  | .single, c => if c == singleQuote then (.joint, [.finish .single]) else (.single, [.keep c])
  | .double, c =>
      if c == doubleQuote then (.joint, [.finish .double])
      else if c == backslash then (.doubleEscaped, [.keep c])
      else if isSubstitution c then (.failed, [])
      else (.double, [.keep c])
  | .doubleEscaped, c => if c == '\n' then (.failed, []) else (.double, [.keep c])
  | .operator pending, c =>
      if longOperators.contains (pending ++ [c]) then (.operator (pending ++ [c]), [.keep c])
      else ((beginWord c).1, .finish .operator :: (beginWord c).2)
  | .comment, c => if c == '\n' then (.operator [c], [.keep c]) else (.comment, [])
  | .failed, _ => (.failed, [])

/-- The end of the line. -/
def closeLine : LineMode → Option (List (Mark LineKind))
  | .between | .comment => some []
  | .bare => some [.finish .bare, .finish .wordEnd]
  | .joint => some [.finish .wordEnd]
  | .operator _ => some [.finish .operator]
  | .escaped | .single | .double | .doubleEscaped | .failed => none

/-- The scanner of command lines. -/
def lineScanner : Scanner LineMode LineKind :=
  { start := .between, step := stepLine, close := closeLine }

example : lineScanner.scan "run 'a b'c >/dev/null 2>&1||x".toList =
    some [(.bare, "run".toList), (.wordEnd, []), (.single, "a b".toList), (.bare, ['c']), (.wordEnd, []),
      (.operator, ['>']), (.bare, "/dev/null".toList), (.wordEnd, []), (.bare, ['2']), (.redirected, []),
      (.operator, ">&".toList), (.bare, ['1']), (.wordEnd, []), (.operator, "||".toList), (.bare, ['x']),
      (.wordEnd, [])] := by decide

/-! ### Bare words -/

/-- The modes in which a word of bare characters is absorbed, and the mode after it. -/
def absorb : LineMode → Option LineMode
  | .between | .bare | .joint => some .bare
  | .single => some .single
  | .double => some .double
  | _ => none

/-- A bare word is absorbed by every part of a word. -/
theorem absorbs {safe : Char → Bool} (bare : ∀ c, safe c = true → isBare c = true) :
    Absorbs lineScanner safe absorb := by
  have keeps : ∀ {mode later}, absorb mode = some later → ∀ c, isBare c = true →
      stepLine mode c = (later, [.keep c]) ∧ stepLine later c = (later, [.keep c]) := by
    intro mode later absorbed c plain
    simp [isBare] at plain
    cases mode with
    | between | bare | joint | single | double =>
        obtain rfl := Option.some.inj absorbed
        simp [stepLine, beginWord, inWord, beginPart, endsBare, plain]
    | _ => cases absorbed
  exact ⟨fun absorbed c safely => (keeps absorbed c (bare c safely)).1,
    fun absorbed c safely => (keeps absorbed c (bare c safely)).2⟩

end Shell
