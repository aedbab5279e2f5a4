/-
**How a POSIX shell reads the words of a command.**

A line is cut into words first, and quoting marks the characters that stand for themselves. A word
then expands unless its marks forbid it, and in the end the quoting is gone.

* `scan`: the marked words, or `none` where the line is more than the words of one command: an
  operator, a comment, a substitution, or a quote that stays open.
* `Word.expands`: the tilde and pathname expansions of a word.
* `words`: the words of a line without any expansion.
* `words_cons`, `words_cons_quoted`: a bare word, or one in single quotes, in front of a line is its
  first word.
* `words_eq_word_iff`: when a text that quotes nothing is one word, in terms of its characters.
-/

import Mathlib.Tactic.Common

namespace Shell

/-! ### Token recognition -/

/-- The characters of a word, each with whether it was quoted. -/
abbrev Word := List (Char × Bool)

/-- Where in a line the reader is. -/
inductive Mode
  | plain
  | escaped
  | single
  | double
  | doubleEscaped
  deriving DecidableEq, Repr

/-- `<blank>`. -/
def isBlank (c : Char) : Bool := c == ' ' || c == '\t'

/-- A character that begins an operator, or ends the command. -/
def isOperator (c : Char) : Bool := ['\n', ';', '&', '|', '<', '>', '(', ')'].contains c

/-- A character that begins a parameter, arithmetic or command substitution. -/
def isSubstitution (c : Char) : Bool := c == '$' || c == '\x60'

/-- The backslash. -/
def backslash : Char := '\x5c'

/-- The single quote. -/
def singleQuote : Char := '\x27'

/-- The double quote. -/
def doubleQuote : Char := '\x22'

/-- One more character of the current word. -/
def extend (word : Option Word) (c : Char) (quoted : Bool) : Option Word :=
  some (word.getD [] ++ [(c, quoted)])

/-- The words of the rest of a line, the current one among them. -/
def scan : Mode → Option Word → List Char → Option (List Word)
  | .plain, word, [] => some word.toList
  | _, _, [] => none
  | .plain, word, c :: rest =>
      if isBlank c then (word.toList ++ ·) <$> scan .plain none rest
      else if c == backslash then scan .escaped word rest
      else if c == singleQuote then scan .single (some (word.getD [])) rest
      else if c == doubleQuote then scan .double (some (word.getD [])) rest
      else if isOperator c || isSubstitution c || (word.isNone && c == '#') then none
      else scan .plain (extend word c false) rest
  | .escaped, word, c :: rest =>
      -- A quoted newline continues the line and is not part of it.
      scan .plain (if c == '\n' then word else extend word c true) rest
  | .single, word, c :: rest =>
      if c == singleQuote then scan .plain word rest else scan .single (extend word c true) rest
  | .double, word, c :: rest =>
      if c == doubleQuote then scan .plain word rest
      else if c == backslash then scan .doubleEscaped word rest
      else if isSubstitution c then none
      else scan .double (extend word c true) rest
  | .doubleEscaped, word, c :: rest =>
      if c == '\n' then scan .double word rest
      else if isSubstitution c || c == doubleQuote || c == backslash then
        scan .double (extend word c true) rest
      else scan .double (extend (extend word backslash true) c true) rest

/-! ### Expansions -/

namespace Word

/-- A tilde-prefix of which no character is quoted. -/
def tilde : Word → Bool
  | ('~', false) :: rest => (rest.takeWhile (· != ('/', false))).all fun mark => !mark.2
  | _ => false

/-- What follows an opening bracket makes it a bracket expression. -/
def closes (rest : Word) : Bool :=
  let members := if rest.head? == some ('!', false) then rest.tail else rest
  ((members.takeWhile fun mark => mark.1 != '/').drop 1).contains (']', false)

/-- The word is a pattern of file names. -/
def pattern : Word → Bool
  | [] => false
  | (c, quoted) :: rest =>
      (!quoted && (c == '*' || c == '?' || (c == '[' && closes rest))) || pattern rest

/-- The shell may replace the word by others. -/
def expands (word : Word) : Bool := tilde word || pattern word

/-- The word without its quoting. -/
def text (word : Word) : String := String.ofList (word.map Prod.fst)

end Word

/-- The words of a line, if it is the words of one command and none of them expands. -/
def words (line : String) : Option (List String) :=
  (scan .plain none line.toList).bind fun tokens =>
    if tokens.any Word.expands then none else some (tokens.map Word.text)

example : words "allow 'my desk' my\\ desk" = some ["allow", "my desk", "my desk"] := by decide

/-! ### Bare words -/

/-- A character that means nothing to the shell wherever it stands. -/
def isBare (c : Char) : Bool :=
  !(isBlank c || isOperator c || isSubstitution c ||
    [backslash, singleQuote, doubleQuote, '#', '~', '*', '?', '['].contains c)

/-- A letter or digit is bare. -/
theorem isBare_of_isAlphanum {c : Char} (plain : c.isAlphanum = true) : isBare c = true := by
  by_contra special
  simp [isBare, isBlank, isOperator, isSubstitution] at special
  have known : c ∈ [' ', '\t', '\n', ';', '&', '|', '<', '>', '(', ')', '$', '\x60', backslash,
      singleQuote, doubleQuote, '#', '~', '*', '?', '['] := by
    simp only [List.mem_cons, List.not_mem_nil, or_false]
    tauto
  have apart : [' ', '\t', '\n', ';', '&', '|', '<', '>', '(', ')', '$', '\x60', backslash,
      singleQuote, doubleQuote, '#', '~', '*', '?', '['].all (fun c => !c.isAlphanum) = true := by
    decide
  have other := List.all_eq_true.mp apart c known
  rw [plain] at other
  cases other

/-- The word of unquoted characters. -/
def bare (text : String) : Word := text.toList.map fun c => (c, false)

theorem scan_char {c : Char} {word : Option Word} {rest : List Char} (plain : isBare c = true) :
    scan .plain word (c :: rest) = scan .plain (extend word c false) rest := by
  simp [isBare] at plain
  simp [scan, plain]

/-- Bare characters only extend the current word. -/
theorem scan_bare {text rest : List Char} {word : Word} (plain : ∀ c ∈ text, isBare c = true) :
    scan .plain (some word) (text ++ rest) =
      scan .plain (some (word ++ text.map fun c => (c, false))) rest := by
  induction text generalizing word with
  | nil => simp
  | cons c text ih =>
      obtain ⟨first, others⟩ := List.forall_mem_cons.mp plain
      rw [List.cons_append, scan_char first, extend, ih others]
      simp

/-- A bare word does not expand. -/
theorem expands_bare {text : List Char} (plain : ∀ c ∈ text, isBare c = true) :
    Word.expands (text.map fun c => (c, false)) = false := by
  have pattern : ∀ text : List Char, (∀ c ∈ text, isBare c = true) →
      Word.pattern (text.map fun c => (c, false)) = false := by
    intro text plain
    induction text with
    | nil => rfl
    | cons c text ih =>
        obtain ⟨first, others⟩ := List.forall_mem_cons.mp plain
        simp [isBare] at first
        simp [Word.pattern, ih others, first]
  have tilde : Word.tilde (text.map fun c => (c, false)) = false := by
    cases text with
    | nil => rfl
    | cons c text =>
        have first := plain c List.mem_cons_self
        simp [isBare] at first
        simp [Word.tilde, first]
  simp [Word.expands, pattern text plain, tilde]

/-- A bare word ends at the next blank. -/
theorem scan_word {text rest : List Char} (plain : ∀ c ∈ text, isBare c = true) (some : text ≠ []) :
    scan .plain none (text ++ ' ' :: rest) =
      ((text.map fun c => (c, false)) :: ·) <$> scan .plain none rest := by
  cases text with
  | nil => exact absurd rfl some
  | cons c text =>
      obtain ⟨first, others⟩ := List.forall_mem_cons.mp plain
      rw [List.cons_append, scan_char first, extend, scan_bare others]
      simp [scan, isBlank]

/-- The unquoted word of a text. -/
theorem text_bare (word : String) : Word.text (bare word) = word := by
  simp [Word.text, bare, Function.comp_def]

/-- A token that ends at the next blank, and does not expand, is the first word of a line. -/
theorem words_token {token : Word} {word line : String} (literal : token.expands = false)
    (ends : ∀ rest, scan .plain none (word.toList ++ ' ' :: rest) =
      (token :: ·) <$> scan .plain none rest) :
    words (word ++ " " ++ line) = (token.text :: ·) <$> words line := by
  have cut : (word ++ " " ++ line).toList = word.toList ++ ' ' :: line.toList := by simp
  unfold words
  rw [cut, ends]
  cases scan .plain none line.toList with
  | none => rfl
  | some tokens =>
      simp only [Option.map_eq_map, Option.map_some, Option.bind_some, List.any_cons, literal,
        Bool.false_or, List.map_cons]
      split <;> rfl

/-- **A bare word in front of a line is its first word.** -/
theorem words_cons {word line : String} (plain : ∀ c ∈ word.toList, isBare c = true)
    (nonempty : word.toList ≠ []) : words (word ++ " " ++ line) = (word :: ·) <$> words line := by
  have token := @words_token (bare word) word line (expands_bare plain)
    fun _ => scan_word plain nonempty
  rwa [text_bare] at token

/-- A bare word is read as it stands. -/
theorem words_bare {word : String} (plain : ∀ c ∈ word.toList, isBare c = true)
    (nonempty : word.toList ≠ []) : words word = some [word] := by
  have whole : scan .plain none word.toList = some [word.toList.map fun c => (c, false)] := by
    cases text : word.toList with
    | nil => exact absurd text nonempty
    | cons c rest =>
        obtain ⟨first, others⟩ := List.forall_mem_cons.mp (text ▸ plain)
        have scanned := @scan_bare rest [] [(c, false)] others
        rw [List.append_nil] at scanned
        rw [scan_char first, extend, Option.getD_none, List.nil_append, scanned]
        rfl
  unfold words
  rw [whole]
  simp [expands_bare plain, Word.text, Function.comp_def]

/-! ### Words in single quotes -/

/-- Within single quotes every other character stands for itself. -/
theorem scan_single {text rest : List Char} {word : Word} (inside : singleQuote ∉ text) :
    scan .single (some word) (text ++ singleQuote :: rest) =
      scan .plain (some (word ++ text.map fun c => (c, true))) rest := by
  induction text generalizing word with
  | nil => simp [scan]
  | cons c text ih =>
      obtain ⟨other, later⟩ := List.ne_and_not_mem_of_not_mem_cons inside
      have first : (c == singleQuote) = false := beq_eq_false_iff_ne.mpr (Ne.symm other)
      rw [List.cons_append, scan, first]
      simp only [Bool.false_eq_true, if_false, extend, Option.getD_some]
      rw [ih later]
      simp

/-- A word without unquoted characters does not expand. -/
theorem expands_quoted (text : List Char) :
    Word.expands (text.map fun c => (c, true)) = false := by
  have pattern : Word.pattern (text.map fun c => (c, true)) = false := by
    induction text with
    | nil => rfl
    | cons c text ih => simp [Word.pattern, ih]
  have tilde : Word.tilde (text.map fun c => (c, true)) = false := by
    cases text <;> simp [Word.tilde]
  rw [Word.expands, tilde, pattern, Bool.or_false]

/-- **What single quotes enclose is one word.** -/
theorem words_cons_quoted {text line : String} (inside : singleQuote ∉ text.toList) :
    words ("'" ++ text ++ "'" ++ " " ++ line) = (text :: ·) <$> words line := by
  have opens : isBlank singleQuote = false ∧ (singleQuote == backslash) = false := by decide
  have ends : ∀ rest, scan .plain none (("'" ++ text ++ "'").toList ++ ' ' :: rest) =
      ((text.toList.map fun c => (c, true)) :: ·) <$> scan .plain none rest := by
    intro rest
    have cut : ("'" ++ text ++ "'").toList ++ ' ' :: rest =
        singleQuote :: (text.toList ++ singleQuote :: ' ' :: rest) := by
      simp [singleQuote]
    rw [cut, scan]
    simp only [opens, Bool.false_eq_true, if_false, beq_self_eq_true, if_true, Option.getD_none]
    rw [scan_single inside]
    simp [scan, isBlank]
  have token := @words_token (text.toList.map fun c => (c, true)) _ line (expands_quoted _) ends
  have same : Word.text (text.toList.map fun c => (c, true)) = text := by
    simp [Word.text, Function.comp_def]
  rwa [same] at token

/-! ### Texts without quotes -/

/-- A character that quotes others. -/
def isQuoting (c : Char) : Bool := [backslash, singleQuote, doubleQuote].contains c

/-- A character that stands for itself within a word. -/
def isLiteral (c : Char) : Bool :=
  !(isBlank c || isQuoting c || isOperator c || isSubstitution c)

/-- A character that is no quote is a blank, ends the command, or stands for itself. -/
theorem scan_unquoted {c : Char} {word : Option Word} {rest : List Char} (unquoted : isQuoting c = false) :
    scan .plain word (c :: rest) =
      if isBlank c then (word.toList ++ ·) <$> scan .plain none rest
      else if isLiteral c && !(word.isNone && c == '#') then scan .plain (extend word c false) rest
      else none := by
  have quotes : (c == backslash) = false ∧ (c == singleQuote) = false ∧ (c == doubleQuote) = false := by
    simpa [isQuoting] using unquoted
  rw [scan]
  simp only [quotes, isLiteral, unquoted, Bool.false_eq_true, if_false, Bool.or_false]
  cases isBlank c <;> cases isOperator c <;> cases isSubstitution c <;>
    cases word.isNone && c == '#' <;> rfl

/-- A word that is under way is there in the end. -/
theorem scan_ne_nil {text : List Char} {word : Word} (unquoted : ∀ c ∈ text, isQuoting c = false) :
    scan .plain (some word) text ≠ some [] := by
  induction text generalizing word with
  | nil => simp [scan]
  | cons c rest ih =>
      obtain ⟨here, later⟩ := List.forall_mem_cons.mp unquoted
      rw [scan_unquoted here]
      split
      · simp
      · split
        · exact ih later
        · simp

/-- Only a text of blanks has no word. -/
theorem scan_eq_nil_iff {text : List Char} (unquoted : ∀ c ∈ text, isQuoting c = false) :
    scan .plain none text = some [] ↔ ∀ c ∈ text, isBlank c = true := by
  induction text with
  | nil => simp [scan]
  | cons c rest ih =>
      obtain ⟨here, later⟩ := List.forall_mem_cons.mp unquoted
      rw [scan_unquoted here, List.forall_mem_cons]
      cases isBlank c with
      | true => simp [ih later]
      | false =>
          refine iff_of_false ?_ fun blank => Bool.false_ne_true blank.1
          rw [if_neg Bool.false_ne_true]
          split
          · exact scan_ne_nil later
          · simp

/-- **The word that is under way** ends with the literal characters that are left, before blanks only. -/
theorem scan_eq_token_iff {text : List Char} {word token : Word}
    (unquoted : ∀ c ∈ text, isQuoting c = false) :
    scan .plain (some word) text = some [token] ↔ (∀ c ∈ text.dropWhile isLiteral, isBlank c = true) ∧
      token = word ++ (text.takeWhile isLiteral).map fun c => (c, false) := by
  induction text generalizing word with
  | nil =>
      constructor
      · rintro ⟨⟩
        exact ⟨List.forall_mem_nil _, (List.append_nil _).symm⟩
      · rintro ⟨_, rfl⟩
        simp [scan]
  | cons c rest ih =>
      obtain ⟨here, later⟩ := List.forall_mem_cons.mp unquoted
      rw [scan_unquoted here, List.dropWhile_cons, List.takeWhile_cons]
      cases blank : isBlank c with
      | true =>
          have other : isLiteral c = false := by simp [isLiteral, blank]
          simp only [other, if_true, Bool.false_eq_true, if_false, List.forall_mem_cons, blank, true_and,
            List.map_nil, List.append_nil, ← scan_eq_nil_iff later, Option.toList_some]
          cases scan .plain none rest with
          | none => simp
          | some tokens => simp [eq_comm, and_comm]
      | false =>
          simp only [Bool.false_eq_true, if_false, Option.isNone_some, Bool.false_and, Bool.not_false,
            Bool.and_true]
          cases isLiteral c with
          | true =>
              rw [if_pos rfl, if_pos rfl, if_pos rfl, extend, ih later]
              simp
          | false => simp [blank]

/-- **One word**: blanks, literal characters that begin no comment, and blanks again. -/
theorem scan_eq_word_iff {text : List Char} {token : Word} (unquoted : ∀ c ∈ text, isQuoting c = false) :
    scan .plain none text = some [token] ↔ ∃ c rest, text.dropWhile isBlank = c :: rest ∧
      isLiteral c = true ∧ c ≠ '#' ∧ (∀ c ∈ rest.dropWhile isLiteral, isBlank c = true) ∧
        token = (c :: rest.takeWhile isLiteral).map fun c => (c, false) := by
  induction text with
  | nil => simp [scan]
  | cons c rest ih =>
      obtain ⟨here, later⟩ := List.forall_mem_cons.mp unquoted
      rw [scan_unquoted here, List.dropWhile_cons]
      cases blank : isBlank c with
      | true => simpa using ih later
      | false =>
          simp only [Bool.false_eq_true, if_false, Option.isNone_none, Bool.true_and]
          by_cases literal : isLiteral c = true ∧ c ≠ '#'
          · have begins : (isLiteral c && !(c == '#')) = true := by simpa using literal
            rw [if_pos begins, extend, scan_eq_token_iff later]
            constructor
            · rintro ⟨blanks, rfl⟩
              exact ⟨c, rest, rfl, literal.1, literal.2, blanks, rfl⟩
            · rintro ⟨_, _, ⟨⟩, _, _, blanks, rfl⟩
              exact ⟨blanks, rfl⟩
          · have special : ¬(isLiteral c && !(c == '#')) = true := by simpa using literal
            rw [if_neg special]
            refine iff_of_false nofun ?_
            rintro ⟨_, _, ⟨⟩, plain, other, _⟩
            exact literal ⟨plain, other⟩

/-- Between blanks the text has only the literal characters of this word, the first one begins no comment,
and they are no pattern and no tilde-prefix. -/
def IsWord (text word : String) : Prop :=
  ∃ c rest, text.toList.dropWhile isBlank = c :: rest ∧ isLiteral c = true ∧ c ≠ '#' ∧
    (∀ c ∈ rest.dropWhile isLiteral, isBlank c = true) ∧ word.toList = c :: rest.takeWhile isLiteral ∧
      (bare word).expands = false

/-- **A text that quotes nothing** is read as one word exactly if it is this word between blanks. -/
theorem words_eq_word_iff {text word : String} (unquoted : ∀ c ∈ text.toList, isQuoting c = false) :
    words text = some [word] ↔ IsWord text word := by
  unfold words IsWord
  rw [Option.bind_eq_some_iff]
  constructor
  · rintro ⟨tokens, scanned, kept⟩
    obtain ⟨literal, same⟩ := Option.ite_none_left_eq_some.mp kept
    obtain ⟨token, rfl, rfl⟩ := List.map_eq_singleton_iff.mp (Option.some.inj same)
    obtain ⟨c, rest, starts, plain, other, blanks, rfl⟩ := (scan_eq_word_iff unquoted).mp scanned
    refine ⟨c, rest, starts, plain, other, blanks, by simp [Word.text, Function.comp_def], ?_⟩
    simpa [Word.text, bare, Function.comp_def] using literal
  · rintro ⟨c, rest, starts, plain, other, blanks, same, literal⟩
    have scanned := (scan_eq_word_iff unquoted).mpr ⟨c, rest, starts, plain, other, blanks, rfl⟩
    rw [← same] at scanned
    exact ⟨_, scanned, by rw [← bare, List.any_cons, literal]; simp [text_bare]⟩

end Shell
