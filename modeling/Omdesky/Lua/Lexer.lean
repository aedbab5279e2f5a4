/-
**The tokens of Lua.**

* `lexer`: names, numerals, strings between quotes or long brackets, symbols and comments, as Lua cuts a
  text into them. A string keeps the characters between its delimiters as they are written.
* `absorb`: a safe word is absorbed inside a string.
* `Reads`: the text is made up of these tokens; `reads_short` is about a string between double quotes.
-/

import Omdesky.Scan.Scanner

namespace Lua

open Scan

/-! ### The lexer -/

/-- The kinds of tokens. A keyword is a name, and there are two kinds of strings. -/
inductive Kind
  | name
  | numeral
  | short
  | long
  | symbol
  deriving DecidableEq, Repr

/-- The strings. -/
def Kind.isString : Kind → Bool
  | .short | .long => true
  | .name | .numeral | .symbol => false

/-- The quotes around a string. -/
inductive Quote
  | single
  | double
  deriving DecidableEq, Repr

/-- The character of a quote. -/
def Quote.char : Quote → Char
  | .single => '\x27'
  | .double => '\x22'

/-- Where in a program the lexer is. -/
inductive Mode
  | ground
  | name
  /-- A first digit zero, which may begin a hexadecimal numeral. -/
  | zero
  /-- In a numeral, and whether a sign may follow. -/
  | numeral (hexadecimal sign : Bool)
  | symbol (pending : List Char)
  | short (quote : Quote)
  | escape (quote : Quote)
  /-- After one minus, and after two of them. -/
  | dash
  | dashes
  | line
  /-- After a bracket and some equals signs, in a comment or not. -/
  | opening (comment : Bool) (level : Nat)
  | long (comment : Bool) (level : Nat)
  /-- After a closing bracket and some equals signs. -/
  | closing (comment : Bool) (level seen : Nat)
  | failed
  deriving DecidableEq, Repr

/-- The characters between tokens. -/
def isBlank (c : Char) : Bool := [' ', '\t', '\n', '\r', '\x0b', '\x0c'].contains c

/-- The characters that begin a name. -/
def isNameStart (c : Char) : Bool := c.isAlpha || c == '_'

/-- The characters of a name. -/
def isNameChar (c : Char) : Bool := c.isAlphanum || c == '_'

/-- The symbols of several characters. -/
def longSymbols : List (List Char) :=
  ["==".toList, "<<".toList, "<=".toList, ">>".toList, ">=".toList, "~=".toList, "//".toList,
    "::".toList, "..".toList, "...".toList]

/-- The characters that are a symbol of their own and begin no other. -/
def isSymbol (c : Char) : Bool := "+*%^#&|()\x7b\x7d];,".toList.contains c

/-- The characters that begin symbols of several characters. -/
def beginsSymbol (c : Char) : Bool := "=<>~/:.".toList.contains c

/-- The first character of a token, or a blank. -/
def begin (c : Char) : Mode × List (Mark Kind) :=
  if isBlank c then (.ground, [])
  else if isNameStart c then (.name, [.keep c])
  else if c == '0' then (.zero, [.keep c])
  else if c.isDigit then (.numeral false false, [.keep c])
  else if c == Quote.double.char then (.short .double, [])
  else if c == Quote.single.char then (.short .single, [])
  else if c == '-' then (.dash, [])
  else if c == '[' then (.opening false 0, [])
  else if beginsSymbol c then (.symbol [c], [.keep c])
  else if isSymbol c then (.ground, [.keep c, .finish .symbol])
  else (.failed, [])

/-- The end of a token at a character that is not part of it. -/
def endAt (marks : List (Mark Kind)) (c : Char) : Mode × List (Mark Kind) :=
  ((begin c).1, marks ++ (begin c).2)

/-- The exponent mark of a numeral. -/
def isExponent (hexadecimal : Bool) (c : Char) : Bool :=
  if hexadecimal then c == 'p' || c == 'P' else c == 'e' || c == 'E'

/-- A character of a numeral. -/
def stepNumeral (hexadecimal sign : Bool) (c : Char) : Mode × List (Mark Kind) :=
  if sign && (c == '+' || c == '-') then (.numeral hexadecimal false, [.keep c])
  else if isNameChar c || c == '.' then (.numeral hexadecimal (isExponent hexadecimal c), [.keep c])
  else endAt [.finish .numeral] c

/-- The characters of a long bracket, unless it is around a comment. -/
def kept (comment : Bool) (text : List Char) : List (Mark Kind) :=
  if comment then [] else text.map .keep

/-- One character. -/
def step : Mode → Char → Mode × List (Mark Kind)
  | .ground, c => begin c
  | .name, c => if isNameChar c then (.name, [.keep c]) else endAt [.finish .name] c
  | .zero, c =>
      if c == 'x' || c == 'X' then (.numeral true false, [.keep c]) else stepNumeral false false c
  | .numeral hexadecimal sign, c => stepNumeral hexadecimal sign c
  | .symbol pending, c =>
      if longSymbols.contains (pending ++ [c]) then (.symbol (pending ++ [c]), [.keep c])
      else if pending == ['.'] && c.isDigit then (.numeral false false, [.keep c])
      else endAt [.finish .symbol] c
  | .short quote, c =>
      if c == quote.char then (.ground, [.finish .short])
      else if c == '\\' then (.escape quote, [.keep c])
      else if c == '\n' || c == '\r' then (.failed, [])
      else (.short quote, [.keep c])
  | .escape quote, c => (.short quote, [.keep c])
  | .dash, c => if c == '-' then (.dashes, []) else endAt [.keep '-', .finish .symbol] c
  | .dashes, c =>
      if c == '[' then (.opening true 0, []) else if c == '\n' then (.ground, []) else (.line, [])
  | .line, c => if c == '\n' then (.ground, []) else (.line, [])
  | .opening comment level, c =>
      if c == '=' then (.opening comment (level + 1), [])
      else if c == '[' then (.long comment level, [])
      else if comment then if c == '\n' then (.ground, []) else (.line, [])
      else if level == 0 then endAt [.keep '[', .finish .symbol] c
      else (.failed, [])
  | .long comment level, c =>
      if c == ']' then (.closing comment level 0, []) else (.long comment level, kept comment [c])
  | .closing comment level seen, c =>
      if c == ']' then
        if seen == level then (.ground, if comment then [] else [.finish .long])
        else (.closing comment level 0, kept comment (']' :: List.replicate seen '='))
      else if c == '=' && seen < level then (.closing comment level (seen + 1), [])
      else (.long comment level, kept comment (']' :: List.replicate seen '=' ++ [c]))
  | .failed, _ => (.failed, [])

/-- The end of the program. -/
def close : Mode → Option (List (Mark Kind))
  | .ground | .dashes | .line | .opening true _ => some []
  | .name => some [.finish .name]
  | .zero | .numeral _ _ => some [.finish .numeral]
  | .symbol _ => some [.finish .symbol]
  | .dash => some [.keep '-', .finish .symbol]
  | .opening false 0 => some [.keep '[', .finish .symbol]
  | .opening false (_ + 1) | .short _ | .escape _ | .long _ _ | .closing _ _ _ | .failed => none

/-- The lexer of Lua. -/
def lexer : Scanner Mode Kind := { start := .ground, step, close }

/-- A token of Lua. -/
abbrev Token := Scan.Token Kind Char

example : lexer.scan "hl.x(\"a b\", [=[c]]=])--d".toList =
    some [(.name, "hl".toList), (.symbol, ".".toList), (.name, "x".toList), (.symbol, "(".toList),
      (.short, "a b".toList), (.symbol, ",".toList), (.long, "c]".toList), (.symbol, ")".toList)] := by
  decide

/-! ### Words inside strings -/

/-- The modes in which a word of letters, digits and some more characters changes nothing. -/
def absorb : Mode → Option Mode
  | .short quote => some (.short quote)
  | .long false level => some (.long false level)
  | _ => none

/-- The characters that mean something in a string. -/
def specials : List Char := ['\x22', '\x27', '\\', '\n', '\r', ']']

/-- A character that means nothing in a string. -/
def isPlain (c : Char) : Bool := !specials.contains c

/-- Characters of a class that has none of the special ones. -/
theorem isPlain_of_apart {safe : Char → Bool} (apart : specials.any safe = false) {c : Char}
    (safely : safe c = true) : isPlain c = true := by
  rw [isPlain, Bool.not_eq_true', Bool.eq_false_iff, Ne, List.contains_iff_mem]
  intro special
  exact absurd safely (List.any_eq_false.mp apart c special)

/-- A text in which nothing is special. -/
def PlainText (text : String) : Prop := ∀ c ∈ text.toList, isPlain c = true

instance (text : String) : Decidable (PlainText text) :=
  decidable_of_iff (text.toList.all isPlain = true) List.all_eq_true

theorem PlainText.append {first second : String} (early : PlainText first) (late : PlainText second) :
    PlainText (first ++ second) := by
  rw [PlainText, String.toList_append]
  exact List.forall_mem_append.mpr ⟨early, late⟩

theorem step_short {quote : Quote} {c : Char} (plain : isPlain c = true) :
    step (.short quote) c = (.short quote, [.keep c]) := by
  simp only [isPlain, specials, List.contains_eq_mem, List.mem_cons, List.not_mem_nil, or_false,
    Bool.not_eq_true', decide_eq_false_iff_not, not_or] at plain
  cases quote <;> simp [step, Quote.char, plain]

/-- A plain word is absorbed by every string. -/
theorem absorbs {safe : Char → Bool} (plain : ∀ c, safe c = true → isPlain c = true) :
    Absorbs lexer safe absorb := by
  have keeps : ∀ {mode later}, absorb mode = some later → ∀ c, safe c = true →
      later = mode ∧ step mode c = (mode, [.keep c]) := by
    intro mode later absorbed c safely
    have known := plain c safely
    match mode, absorbed with
    | .short quote, rfl => exact ⟨rfl, step_short known⟩
    | .long false level, rfl =>
        have other : (c == ']') = false := by
          rw [beq_eq_false_iff_ne]
          rintro rfl
          revert known
          decide
        exact ⟨rfl, by simp [step, other, kept]⟩
  constructor
  · intro mode later absorbed c safely
    obtain ⟨rfl, stays⟩ := keeps absorbed c safely
    exact stays
  · intro mode later absorbed c safely
    obtain ⟨rfl, stays⟩ := keeps absorbed c safely
    exact stays

/-- The text is made up of these tokens, and ends between two tokens. -/
def Reads (text : String) (tokens : List Token) : Prop := Whole lexer text.toList tokens

instance {text : String} {tokens : List Token} : Decidable (Reads text tokens) :=
  inferInstanceAs (Decidable (Whole _ _ _))

theorem Reads.append {first second : String} {tokens others : List Token}
    (early : Reads first tokens) (late : Reads second others) :
    Reads (first ++ second) (tokens ++ others) := by
  rw [Reads, String.toList_append]
  exact Whole.append early late

/-- **A string between double quotes** is one token. -/
theorem reads_short {text : String} (plain : PlainText text) :
    Reads ("\"" ++ text ++ "\"") [(.short, text.toList)] := by
  have opens : lexer.advance id ⟨.ground, [], []⟩ '\x22' = ⟨.short .double, [], []⟩ := by decide
  have keeps : ∀ c ∈ text.toList, lexer.step (.short .double) c = (.short .double, [.keep c]) :=
    fun c member => step_short (plain c member)
  have inside : lexer.read ⟨.short .double, [], []⟩ text.toList = ⟨.short .double, text.toList, []⟩ :=
    read_word keeps rfl
  have closes : lexer.advance id ⟨.short .double, text.toList, []⟩ '\x22' =
      ⟨.ground, [], [(.short, text.toList)]⟩ := rfl
  have start : lexer.start = .ground := rfl
  have cut : ("\"" ++ text ++ "\"").toList = '\x22' :: (text.toList ++ ['\x22']) := by simp
  rw [Reads, Whole, start, cut, read_cons, opens, read_append, inside, read_cons, closes, read_nil]

/-! ### A blank at the end -/

/-- Where a blank ends the current token, the end of the program does the same. -/
theorem close_of_blank {mode : Mode} (ends : (step mode ' ').1 = .ground) :
    close mode = some (step mode ' ').2 := by
  have blank : begin ' ' = (.ground, []) := by decide
  have numeral (hexadecimal sign : Bool) :
      stepNumeral hexadecimal sign ' ' = endAt [.finish .numeral] ' ' := by
    cases sign <;> rfl
  match mode with
  | .ground | .name | .dash => rfl
  | .zero => rfl
  | .numeral hexadecimal sign =>
      rw [step, numeral]
      rfl
  | .symbol pending =>
      have short : longSymbols.contains (pending ++ [' ']) = false := by
        rw [Bool.eq_false_iff, Ne, List.contains_iff_mem]
        intro member
        have without : ∀ symbol ∈ longSymbols, ' ' ∉ symbol := by decide
        exact without _ member (List.mem_append_right _ List.mem_cons_self)
      have digit : (pending == ['.'] && ' '.isDigit) = false := Bool.and_false _
      simp only [step, short, digit, Bool.false_eq_true, if_false]
      rfl
  | .opening false 0 => rfl
  | .short .single | .short .double | .escape _ | .dashes | .line | .opening true _
  | .opening false (_ + 1) | .long _ _ | .failed => cases ends
  | .closing comment level seen => cases ends

/-- A program that ends with a whole token and a blank does not need the blank. -/
theorem scan_of_reads_blank {text : String} {tokens : List Token}
    (reads : Reads (text ++ " ") tokens) : lexer.scan text.toList = some tokens := by
  have cut : (text ++ " ").toList = text.toList ++ [' '] := by simp
  rw [Reads, Whole, cut, read_append] at reads
  have blank : lexer.advance id (lexer.read ⟨lexer.start, [], []⟩ text.toList) ' ' =
      ⟨.ground, [], tokens⟩ := reads
  have ends := congrArg Reader.mode blank
  have emits := congrArg Reader.tokens blank
  exact Option.map_eq_some_iff.mpr ⟨_, close_of_blank ends, emits⟩

end Lua
