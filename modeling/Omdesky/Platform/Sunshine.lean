/-
**Which host may be trusted without its certificate (`omdesky-platform/src/sunshine.rs`).**

* `isLoopbackApi`: the check that turns certificate validation off.
* `urlHost`: the host of a URL, as the syntax of URIs has it: the authority up to a slash, a question
  mark or a hash, without user information and without a port.
* `HidesInUser`, `HidesInLiteral`: the two ways in which a text reads like a loopback host in front
  of its last colon, and names another one.
* `skipsOnlyLoopback_iff`: **certificates are skipped only for loopback, unless the text is one of
  these.**
-/

import Mathlib.Data.List.DropRight
import Mathlib.Data.List.TakeWhile
import Omdesky.Text.Charset
import Omdesky.Text.Split

namespace Omdesky

/-- `IpAddr::is_loopback`. -/
def IpAddr.isLoopback : IpAddr → Bool
  | .v4 a _ _ _ => a == 127
  | .v6 s0 s1 s2 s3 s4 s5 s6 s7 => [s0, s1, s2, s3, s4, s5, s6, s7] == [0, 0, 0, 0, 0, 0, 0, 1]

end Omdesky

namespace Omdesky.Platform

/-! ### The code -/

/-- What follows the scheme of an `http` URL. -/
def stripScheme (url : List Char) : Option (List Char) :=
  (stripPrefix "https://".toList url).or (stripPrefix "http://".toList url)

/-- What the check takes for the host: all in front of the last colon of the authority. -/
def apiHost (rest : List Char) : List Char :=
  let authority := rest.takeWhile (· != '/')
  match rsplitOnce ':' authority with
  | some (host, _) => host
  | none => authority

/-- `trim_start_matches('[')` and `trim_end_matches(']')`. -/
def trimBrackets (host : List Char) : List Char :=
  (host.dropWhile (· == '[')).rdropWhile (· == ']')

/-- `localhost`, or a loopback address. -/
def isLoopbackText (candidate : List Char) : Bool :=
  candidate == "localhost".toList || (IpAddr.parse (String.ofList candidate)).any IpAddr.isLoopback

/-- `is_loopback_api`. -/
def isLoopbackApi (apiBase : String) : Bool :=
  match stripScheme apiBase.toList with
  | some rest => isLoopbackText (trimBrackets (apiHost rest))
  | none => false

/-- The address that `submit_pairing_pin` sends the credentials to. -/
def pinUrl (apiBase : String) : String := apiBase ++ "/api/pin"

/-! ### The host of a URL -/

/-- The host of a URL: a name, which may be a dotted address, or an address between brackets. -/
inductive UrlHost
  | name (text : List Char)
  | literal (address : IpAddr)
  deriving DecidableEq, Repr

/-- The host is this computer. -/
def UrlHost.isLoopback : UrlHost → Bool
  | .name text =>
      text.map Char.toLower == "localhost".toList ||
        (IpAddr.parse (String.ofList text)).any IpAddr.isLoopback
  | .literal address => address.isLoopback

/-- A character of an authority. -/
def inAuthority (c : Char) : Bool := c != '/' && c != '?' && c != '#'

/-- The authority without its user information. -/
def hostAndPort (authority : List Char) : List Char :=
  match rsplitOnce '@' authority with
  | some (_, rest) => rest
  | none => authority

/-- What may follow a host: nothing, or a colon and digits. -/
def isPort : List Char → Bool
  | [] => true
  | c :: digits => c == ':' && digits.all Char.isDigit

/-- A bracket, which no name has. -/
def isBracket (c : Char) : Bool := c == '[' || c == ']'

/-- The host between brackets, the first of which has been read. -/
def readLiteral (text : List Char) : Option UrlHost :=
  match text.dropWhile (· != ']') with
  | _ :: port =>
      if isPort port then
        ((IpAddr.parse (String.ofList (text.takeWhile (· != ']')))).filter
          fun address => !address.isIpv4).map .literal
      else none
  | [] => none

/-- The host that is a name. -/
def readName (text : List Char) : Option UrlHost :=
  let name := text.takeWhile (· != ':')
  if name.isEmpty || name.any isBracket || !isPort (text.dropWhile (· != ':')) then none
  else some (.name name)

/-- The host, without its port. -/
def readHost (text : List Char) : Option UrlHost :=
  if text.head? = some '[' then readLiteral text.tail else readName text

/-- The host of a URL. A text that is none has no host.

This is the RFC's split of an authority, not the parser that reads the URL for a request, which drops line
breaks, completes addresses such as `127.1`, and refuses a name with blanks in it. -/
def urlHost (url : String) : Option UrlHost := do
  let rest ← stripScheme url.toList
  readHost (hostAndPort (rest.takeWhile inAuthority))

/-- Whenever certificates are not checked, the credentials go to this computer. -/
def SkipsOnlyLoopback (apiBase : String) : Prop :=
  isLoopbackApi apiBase = true → ∀ host, urlHost (pinUrl apiBase) = some host →
    host.isLoopback = true

example : isLoopbackApi "https://[::1]:47990" = true := by decide

/-! ### What reads like a loopback host -/

/-- An end of the authority, with no colon in front of the first slash. -/
def EndsAuthority (tail : List Char) : Prop :=
  (∀ c ∈ tail.head?, inAuthority c = false) ∧ ':' ∉ tail.takeWhile (· != '/')

/-- The loopback host and its port are user information: a name follows that is another host. -/
def HidesInUser (rest : List Char) : Prop :=
  ∃ opening loopback closing secret name tail,
    rest = opening ++ loopback ++ closing ++ ':' :: (secret ++ '@' :: name) ++ tail ∧
    (∀ c ∈ opening, c = '[') ∧ (∀ c ∈ closing, c = ']') ∧ isLoopbackText loopback = true ∧
    (∀ c ∈ secret ++ '@' :: name, inAuthority c = true ∧ c ≠ ':') ∧ '@' ∉ name ∧ EndsAuthority tail ∧
    ∃ host, readHost name = some host ∧ host.isLoopback = false

/-- The loopback address goes on after its last colon, between the same brackets. -/
def HidesInLiteral (rest : List Char) : Prop :=
  ∃ loopback group tail address,
    rest = '[' :: loopback ++ ':' :: (group ++ [']']) ++ tail ∧ isLoopbackText loopback = true ∧
    ':' ∉ group ∧ EndsAuthority tail ∧ IpAddr.parse (String.ofList (loopback ++ ':' :: group)) = some address ∧
    address.isIpv4 = false ∧ address.isLoopback = false

/-- The text reads like a loopback host and names another one. -/
def Disguised (apiBase : String) : Prop :=
  ∃ rest, stripScheme apiBase.toList = some rest ∧ (HidesInUser rest ∨ HidesInLiteral rest)

/-! ### Loopback texts -/

theorem isAddressChar_of_loopback {text : List Char} (loopback : isLoopbackText text = true) :
    ∀ c ∈ text, isAddressChar c = true := by
  rcases Bool.or_eq_true_iff.mp loopback with named | address
  · obtain rfl := beq_iff_eq.mp named
    exact List.all_eq_true.mp (by decide)
  · obtain ⟨found, parsed, _⟩ := (Option.any_eq_true _ _).mp address
    have plain := isAddressChar_of_parse parsed
    rwa [String.toList_ofList] at plain

theorem ne_nil_of_loopback {text : List Char} (loopback : isLoopbackText text = true) :
    text ≠ [] := by
  rintro rfl
  exact absurd loopback (by decide)

/-- An address that reads like a loopback host is a loopback address. -/
theorem isLoopback_of_parse {text : List Char} (loopback : isLoopbackText text = true)
    {address : IpAddr} (parsed : IpAddr.parse (String.ofList text) = some address) :
    address.isLoopback = true := by
  rcases Bool.or_eq_true_iff.mp loopback with named | address
  · obtain rfl := beq_iff_eq.mp named
    have none : IpAddr.parse (String.ofList "localhost".toList) = none := by decide
    rw [none] at parsed
    cases parsed
  · rw [parsed] at address
    exact address

theorem isLoopback_name {text : List Char} (loopback : isLoopbackText text = true) :
    (UrlHost.name text).isLoopback = true := by
  rcases Bool.or_eq_true_iff.mp loopback with named | address
  · obtain rfl := beq_iff_eq.mp named
    rfl
  · exact Bool.or_eq_true_iff.mpr (Or.inr address)

/-- A character of an address is no delimiter of an authority. -/
theorem plain_of_isAddressChar {c : Char} (plain : isAddressChar c = true) :
    c ≠ '[' ∧ c ≠ ']' ∧ c ≠ '@' ∧ c ≠ '/' ∧ inAuthority c = true := by
  have other (d : Char) (delimiter : isAddressChar d = false) : c ≠ d := by
    rintro rfl
    rw [plain] at delimiter
    cases delimiter
  refine ⟨other _ rfl, other _ rfl, other _ rfl, other _ rfl, ?_⟩
  simp [inAuthority, other '/' rfl, other '?' rfl, other '#' rfl]

/-! ### The check -/

section Check

variable {opening loopback closing : List Char}

theorem dropWhile_of_absent {stops : Char → Bool} {text : List Char}
    (absent : ∀ c ∈ text, stops c = false) : text.dropWhile stops = text := by
  cases text with
  | nil => rfl
  | cons c rest => exact List.dropWhile_cons_of_neg (by simp [absent c List.mem_cons_self])

/-- Brackets around a loopback host are trimmed. -/
theorem trimBrackets_eq (opened : ∀ c ∈ opening, c = '[') (closed : ∀ c ∈ closing, c = ']')
    (is : isLoopbackText loopback = true) :
    trimBrackets (opening ++ loopback ++ closing) = loopback := by
  have plain := isAddressChar_of_loopback is
  obtain ⟨first, rest, cons⟩ := List.exists_cons_of_ne_nil (ne_nil_of_loopback is)
  have front : first ≠ '[' := (plain_of_isAddressChar (plain first (by rw [cons]; exact List.mem_cons_self))).1
  have left : (opening ++ loopback ++ closing).dropWhile (· == '[') = loopback ++ closing := by
    rw [List.append_assoc, List.dropWhile_append_of_pos fun c member => beq_iff_eq.mpr (opened c member),
      cons, List.cons_append, List.dropWhile_cons_of_neg (by simpa using front)]
  have right : loopback.reverse.dropWhile (· == ']') = loopback.reverse := by
    refine dropWhile_of_absent fun c member => ?_
    exact beq_eq_false_iff_ne.mpr (plain_of_isAddressChar (plain c (List.mem_reverse.mp member))).2.1
  rw [trimBrackets, left, List.rdropWhile, List.reverse_append, List.dropWhile_append_of_pos fun c member =>
    beq_iff_eq.mpr (closed c (List.mem_reverse.mp member)), right, List.reverse_reverse]

/-- A host is what is left of it when its brackets are trimmed, between brackets. -/
theorem split_trimBrackets (host : List Char) :
    ∃ opening closing, host = opening ++ trimBrackets host ++ closing ∧
      (∀ c ∈ opening, c = '[') ∧ ∀ c ∈ closing, c = ']' := by
  refine ⟨host.takeWhile (· == '['), ((host.dropWhile (· == '[')).reverse.takeWhile (· == ']')).reverse,
    ?_, fun c member => ?_, fun c member => ?_⟩
  · have back := congrArg List.reverse
      (List.takeWhile_append_dropWhile (p := (· == ']')) (l := (host.dropWhile (· == '[')).reverse))
    rw [List.reverse_append, List.reverse_reverse] at back
    rw [trimBrackets, List.rdropWhile, List.append_assoc, back, List.takeWhile_append_dropWhile]
  · have opens := List.mem_takeWhile_imp member
    exact beq_iff_eq.mp opens
  · have closes := List.mem_takeWhile_imp (List.mem_reverse.mp member)
    exact beq_iff_eq.mp closes

/-- A loopback host between brackets has no delimiter of an authority. -/
theorem plain_of_brackets (opened : ∀ c ∈ opening, c = '[') (closed : ∀ c ∈ closing, c = ']')
    (is : isLoopbackText loopback = true) :
    ∀ c ∈ opening ++ loopback ++ closing, inAuthority c = true ∧ c ≠ '/' ∧ c ≠ '@' := by
  refine List.forall_mem_append.mpr ⟨List.forall_mem_append.mpr ⟨?_, ?_⟩, ?_⟩
  · intro c member
    rw [opened c member]
    decide
  · intro c member
    have spared := plain_of_isAddressChar (isAddressChar_of_loopback is c member)
    exact ⟨spared.2.2.2.2, spared.2.2.2.1, spared.2.2.1⟩
  · intro c member
    rw [closed c member]
    decide

/-- The host that the check reads, in front of the last colon of the authority. -/
theorem apiHost_eq {host hidden tail : List Char} (plain : '/' ∉ host) (single : ':' ∉ hidden)
    (within : '/' ∉ hidden) (ends : EndsAuthority tail) :
    apiHost (host ++ ':' :: hidden ++ tail) = host := by
  have front : ∀ c ∈ host ++ ':' :: hidden, (c != '/') = true := by
    refine List.forall_mem_append.mpr ⟨fun c member => ?_, List.forall_mem_cons.mpr ⟨rfl, ?_⟩⟩
    · exact bne_iff_ne.mpr fun slash => plain (slash ▸ member)
    · exact fun c member => bne_iff_ne.mpr fun slash => within (slash ▸ member)
  have absent : ':' ∉ hidden ++ tail.takeWhile (· != '/') := by
    rw [List.mem_append]
    exact not_or.mpr ⟨single, ends.2⟩
  rw [apiHost, List.takeWhile_append_of_pos front, List.append_assoc, List.cons_append,
    rsplitOnce_append absent]

/-- The authority of the address that credentials are sent to. -/
theorem authority_eq {front tail : List Char} (plain : ∀ c ∈ front, inAuthority c = true)
    (ends : ∀ c ∈ tail.head?, inAuthority c = false) :
    (front ++ tail ++ "/api/pin".toList).takeWhile inAuthority = front := by
  rw [List.append_assoc]
  refine takeWhile_append_of_stop plain fun c first => ?_
  cases tail with
  | nil =>
      obtain rfl := Option.some.inj first
      rfl
  | cons d rest => exact ends c first

end Check

theorem stripScheme_eq_some_iff {url rest : List Char} :
    stripScheme url = some rest ↔
      url = "https://".toList ++ rest ∨ url = "http://".toList ++ rest := by
  rw [stripScheme, Option.or_eq_some_iff, stripPrefix_eq_some_iff, stripPrefix_eq_some_iff]
  refine or_congr_right ⟨fun both => both.2, fun plain => ⟨?_, plain⟩⟩
  rw [plain]
  rfl

/-- The scheme of what the credentials are sent to. -/
theorem stripScheme_pinUrl {apiBase : String} {rest : List Char}
    (scheme : stripScheme apiBase.toList = some rest) :
    stripScheme (pinUrl apiBase).toList = some (rest ++ "/api/pin".toList) := by
  rw [stripScheme_eq_some_iff] at scheme ⊢
  rw [pinUrl, String.toList_append]
  rcases scheme with secure | plain
  · exact Or.inl (by rw [secure, List.append_assoc])
  · exact Or.inr (by rw [plain, List.append_assoc])

/-! ### The host behind a loopback text -/

section Host

variable {opening loopback closing port : List Char}

/-- What follows a host in front of the end of the authority: nothing, or its last colon and the
rest. A text without a colon is what the check takes for a host whole. -/
def Follows (loopback port : List Char) : Prop :=
  port = [] ∧ ':' ∉ loopback ∨ ∃ hidden, port = ':' :: hidden ∧ ':' ∉ hidden

/-- A name that reads like a loopback host is one. -/
theorem readName_loopback (closed : ∀ c ∈ closing, c = ']') (is : isLoopbackText loopback = true)
    (follows : Follows loopback port) {host : UrlHost}
    (read : readName (loopback ++ closing ++ port) = some host) : host.isLoopback = true := by
  unfold readName at read
  dsimp only at read
  split at read
  · cases read
  · next accepted =>
      obtain rfl := Option.some.inj read
      simp only [Bool.or_eq_true, not_or, Bool.not_eq_true, Bool.not_eq_false'] at accepted
      obtain ⟨⟨_, bare⟩, digits⟩ := accepted
      by_cases colon : ':' ∈ loopback
      · -- The first colon would begin a port with another colon in it.
        obtain ⟨front, back, rfl, first⟩ := List.eq_append_cons_of_mem colon
        obtain ⟨_, absent⟩ | ⟨hidden, rfl, _⟩ := follows
        · exact absurd colon absent
        · have apart : ∀ c ∈ front, (c != ':') = true :=
            fun c member => bne_iff_ne.mpr fun same => first (same ▸ member)
          have rest : (front ++ ':' :: back ++ closing ++ ':' :: hidden).dropWhile (· != ':') =
              ':' :: (back ++ closing ++ ':' :: hidden) := by
            rw [List.append_assoc, List.append_assoc, List.dropWhile_append_of_pos apart]
            simp
          rw [rest] at digits
          have every := List.all_eq_true.mp digits ':' (by simp)
          exact absurd every (by decide)
      · have stops : ∀ c ∈ port.head?, (c != ':') = false := by
          obtain ⟨rfl, _⟩ | ⟨hidden, rfl, _⟩ := follows
          · exact fun c first => by cases first
          · exact fun c first => by obtain rfl := Option.some.inj first; rfl
        have inside : ∀ c ∈ loopback ++ closing, (c != ':') = true := by
          refine List.forall_mem_append.mpr ⟨fun c member => ?_, fun c member => ?_⟩
          · exact bne_iff_ne.mpr fun same => colon (same ▸ member)
          · rw [closed c member]
            rfl
        rw [takeWhile_append_of_stop inside stops] at bare ⊢
        have unclosed : closing = [] := by
          cases closing with
          | nil => rfl
          | cons c rest =>
              have bracket := List.any_eq_false.mp bare c (by simp)
              rw [closed c List.mem_cons_self] at bracket
              exact absurd rfl bracket
        rw [unclosed, List.append_nil]
        exact isLoopback_name is

/-- What is read between brackets is an address and nothing else. -/
theorem readLiteral_eq_some {text : List Char} {host : UrlHost}
    (read : readLiteral text = some host) :
    ∃ address last port, text.dropWhile (· != ']') = last :: port ∧ isPort port = true ∧
      IpAddr.parse (String.ofList (text.takeWhile (· != ']'))) = some address ∧
      address.isIpv4 = false ∧ host = .literal address := by
  unfold readLiteral at read
  split at read
  · next last port rest =>
      split at read
      · next digits =>
          obtain ⟨address, filtered, rfl⟩ := Option.map_eq_some_iff.mp read
          obtain ⟨parsed, six⟩ := Option.filter_eq_some_iff.mp filtered
          exact ⟨address, last, port, rest, digits, parsed, by simpa using six, rfl⟩
      · cases read
  · cases read

theorem unopened_of_parse {text : List Char} {address : IpAddr} (opened : ∀ c ∈ opening, c = '[')
    (parsed : IpAddr.parse (String.ofList (opening ++ text)) = some address) : opening = [] := by
  cases opening with
  | nil => rfl
  | cons c rest =>
      have plain := isAddressChar_of_parse parsed
      rw [String.toList_ofList] at plain
      have bracket := plain c (by simp)
      rw [opened c List.mem_cons_self] at bracket
      exact absurd bracket (by decide)

/-- **A literal that reads like a loopback host** is one, or goes on in what stands for its port. -/
theorem readLiteral_loopback (opened : ∀ c ∈ opening, c = '[') (closed : ∀ c ∈ closing, c = ']')
    (is : isLoopbackText loopback = true) (follows : Follows loopback port) {host : UrlHost}
    (read : readLiteral (opening ++ loopback ++ closing ++ port) = some host) :
    host.isLoopback = true ∨ ∃ group address, opening = [] ∧ closing = [] ∧
      port = ':' :: (group ++ [']']) ∧
      IpAddr.parse (String.ofList (loopback ++ ':' :: group)) = some address ∧
      address.isIpv4 = false ∧ host = .literal address := by
  obtain ⟨address, last, after, rest, digits, parsed, six, rfl⟩ := readLiteral_eq_some read
  have within : ∀ c ∈ opening ++ loopback, (c != ']') = true := by
    refine List.forall_mem_append.mpr ⟨fun c member => ?_, fun c member => ?_⟩
    · rw [opened c member]
      rfl
    · exact bne_iff_ne.mpr (plain_of_isAddressChar (isAddressChar_of_loopback is c member)).2.1
  cases closing with
  | cons c more =>
      obtain rfl := closed c List.mem_cons_self
      rw [List.append_assoc, List.cons_append, takeWhile_append_of_stop within
        (fun c first => by obtain rfl := Option.some.inj first; rfl)] at parsed
      obtain rfl := unopened_of_parse opened parsed
      exact Or.inl (isLoopback_of_parse is parsed)
  | nil =>
      rw [List.append_nil] at rest parsed
      obtain ⟨rfl, _⟩ | ⟨hidden, rfl, single⟩ := follows
      · rw [List.append_nil] at rest
        have none : (opening ++ loopback).dropWhile (· != ']') = [] :=
          List.dropWhile_eq_nil_iff.mpr within
        rw [none] at rest
        cases rest
      · have dropped : (':' :: hidden).dropWhile (· != ']') = hidden.dropWhile (· != ']') := rfl
        have taken : (':' :: hidden).takeWhile (· != ']') =
            ':' :: hidden.takeWhile (· != ']') := rfl
        rw [List.dropWhile_append_of_pos within, dropped] at rest
        rw [List.takeWhile_append_of_pos within, taken, List.append_assoc] at parsed
        obtain rfl := unopened_of_parse opened parsed
        have bracket := List.head?_dropWhile_not (· != ']') hidden
        rw [rest] at bracket
        obtain rfl : last = ']' := by simpa using bracket
        have split := List.takeWhile_append_dropWhile (p := (· != ']')) (l := hidden)
        rw [rest] at split
        cases after with
        | nil => exact Or.inr ⟨_, address, rfl, rfl, by rw [split], parsed, six, rfl⟩
        | cons c more =>
            have another : c = ':' := beq_iff_eq.mp (Bool.and_eq_true_iff.mp digits).1
            rw [← split, another] at single
            exact absurd (by simp) single

/-- **The host behind a loopback text** is that host, or a literal that goes on. -/
theorem readHost_loopback (opened : ∀ c ∈ opening, c = '[') (closed : ∀ c ∈ closing, c = ']')
    (is : isLoopbackText loopback = true) (follows : Follows loopback port) {host : UrlHost}
    (read : readHost (opening ++ loopback ++ closing ++ port) = some host) :
    host.isLoopback = true ∨ ∃ group address, opening = ['['] ∧ closing = [] ∧
      port = ':' :: (group ++ [']']) ∧
      IpAddr.parse (String.ofList (loopback ++ ':' :: group)) = some address ∧
      address.isIpv4 = false ∧ host = .literal address := by
  unfold readHost at read
  cases opening with
  | nil =>
      obtain ⟨first, rest, cons⟩ := List.exists_cons_of_ne_nil (ne_nil_of_loopback is)
      have plain := isAddressChar_of_loopback is first (by rw [cons]; exact List.mem_cons_self)
      have bare : ([] ++ loopback ++ closing ++ port).head? ≠ some '[' := by
        rw [cons]
        exact fun same => (plain_of_isAddressChar plain).1 (Option.some.inj same)
      rw [if_neg bare, List.nil_append] at read
      exact Or.inl (readName_loopback closed is follows read)
  | cons c opening =>
      obtain rfl := opened c List.mem_cons_self
      have first : ('[' :: opening ++ loopback ++ closing ++ port).head? = some '[' := rfl
      rw [if_pos first] at read
      rcases readLiteral_loopback (fun c member => opened c (List.mem_cons_of_mem _ member)) closed is
        follows read with loopback | ⟨group, address, rfl, rest⟩
      · exact Or.inl loopback
      · exact Or.inr ⟨group, address, rfl, rest⟩

end Host

/-! ### The law -/

/-- A text that names another host in front of its end: the check accepts it all the same. -/
theorem accepts_hiding {apiBase : String} {opening loopback closing hidden tail : List Char}
    (scheme : stripScheme apiBase.toList =
      some (opening ++ loopback ++ closing ++ ':' :: hidden ++ tail))
    (opened : ∀ c ∈ opening, c = '[') (closed : ∀ c ∈ closing, c = ']')
    (is : isLoopbackText loopback = true) (plain : ∀ c ∈ hidden, inAuthority c = true ∧ c ≠ ':')
    (ends : EndsAuthority tail) :
    isLoopbackApi apiBase = true ∧ urlHost (pinUrl apiBase) =
      readHost (hostAndPort (opening ++ loopback ++ closing ++ ':' :: hidden)) := by
  have front := plain_of_brackets opened closed is
  have single : ':' ∉ hidden := fun member => (plain ':' member).2 rfl
  have within : '/' ∉ hidden := fun member => absurd (plain '/' member).1 (by decide)
  have slashless : '/' ∉ opening ++ loopback ++ closing := fun member => (front '/' member).2.1 rfl
  constructor
  · rw [isLoopbackApi, scheme]
    dsimp only
    rw [apiHost_eq slashless single within ends, trimBrackets_eq opened closed is, is]
  · have whole : ∀ c ∈ opening ++ loopback ++ closing ++ ':' :: hidden, inAuthority c = true :=
      List.forall_mem_append.mpr ⟨fun c member => (front c member).1,
        List.forall_mem_cons.mpr ⟨rfl, fun c member => (plain c member).1⟩⟩
    rw [urlHost, stripScheme_pinUrl scheme]
    change readHost (hostAndPort _) = _
    rw [authority_eq whole ends.1]

/-- An authority without user information. -/
theorem hostAndPort_eq_self {authority : List Char} (absent : '@' ∉ authority) :
    hostAndPort authority = authority := by
  rw [hostAndPort, rsplitOnce_eq_none absent]

/-- The host behind user information. -/
theorem hostAndPort_user {front secret name : List Char} (absent : '@' ∉ name) :
    hostAndPort (front ++ ':' :: (secret ++ '@' :: name)) = name := by
  rw [← List.cons_append, ← List.append_assoc, hostAndPort, rsplitOnce_append absent]

/-- A literal between brackets is read. -/
theorem readHost_literal {text : List Char} {address : IpAddr}
    (parsed : IpAddr.parse (String.ofList text) = some address) (six : address.isIpv4 = false) :
    readHost ('[' :: (text ++ [']'])) = some (.literal address) := by
  have plain := isAddressChar_of_parse parsed
  rw [String.toList_ofList] at plain
  have within : ∀ c ∈ text, (c != ']') = true :=
    fun c member => bne_iff_ne.mpr (plain_of_isAddressChar (plain c member)).2.1
  have first : ('[' :: (text ++ [']'])).head? = some '[' := rfl
  have dropped : (text ++ [']']).dropWhile (· != ']') = [']'] := by
    rw [List.dropWhile_append_of_pos within]
    rfl
  have taken : (text ++ [']']).takeWhile (· != ']') = text :=
    takeWhile_append_of_stop within fun c first => by obtain rfl := Option.some.inj first; rfl
  rw [readHost, if_pos first, List.tail_cons, readLiteral, dropped]
  dsimp only
  have port : isPort [] = true := rfl
  rw [taken, parsed, if_pos port]
  simp [six]

theorem not_skipsOnlyLoopback {apiBase : String} (disguised : Disguised apiBase) :
    ¬ SkipsOnlyLoopback apiBase := by
  intro skips
  obtain ⟨rest, scheme, user | literal⟩ := disguised
  · obtain ⟨opening, loopback, closing, secret, name, tail, rfl, opened, closed, is, plain, absent,
      ends, host, read, other⟩ := user
    obtain ⟨accepted, found⟩ := accepts_hiding scheme opened closed is plain ends
    rw [hostAndPort_user absent, read] at found
    exact Bool.eq_false_iff.mp other (skips accepted host found)
  · obtain ⟨loopback, group, tail, address, rfl, is, single, ends, parsed, six, other⟩ := literal
    have spelled := isAddressChar_of_parse parsed
    rw [String.toList_ofList] at spelled
    have plain : ∀ c ∈ group ++ [']'], inAuthority c = true ∧ c ≠ ':' := by
      refine List.forall_mem_append.mpr ⟨fun c member => ?_, List.forall_mem_singleton.mpr (by decide)⟩
      have inside : isAddressChar c = true :=
        spelled c (List.mem_append_right _ (List.mem_cons_of_mem _ member))
      exact ⟨(plain_of_isAddressChar inside).2.2.2.2, fun same => single (same ▸ member)⟩
    have opened : ∀ c ∈ ['['], c = '[' := List.forall_mem_singleton.mpr rfl
    have scheme : stripScheme apiBase.toList =
        some (['['] ++ loopback ++ [] ++ ':' :: (group ++ [']']) ++ tail) := by
      rw [scheme]
      simp
    obtain ⟨accepted, found⟩ :=
      accepts_hiding scheme opened (List.forall_mem_nil _) is plain ends
    have whole : ['['] ++ loopback ++ [] ++ ':' :: (group ++ [']']) =
        '[' :: ((loopback ++ ':' :: group) ++ [']']) := by
      simp
    have absent : '@' ∉ '[' :: ((loopback ++ ':' :: group) ++ [']']) := by
      intro member
      rcases List.mem_cons.mp member with same | member
      · cases same
      · rcases List.mem_append.mp member with inside | last
        · exact (plain_of_isAddressChar (spelled '@' inside)).2.2.1 rfl
        · cases List.mem_singleton.mp last
    rw [whole, hostAndPort_eq_self absent, readHost_literal parsed six] at found
    exact Bool.eq_false_iff.mp other (skips accepted _ found)

/-- What is left of an authority that a colon or a slash does not end. -/
theorem endsAuthority_dropWhile {hidden rest : List Char} (single : ':' ∉ hidden)
    (within : ∀ c ∈ hidden, (c != '/') = true) (slash : ∀ c ∈ rest.head?, c = '/') :
    EndsAuthority (hidden.dropWhile inAuthority ++ rest) := by
  have kept : ∀ c ∈ hidden.dropWhile inAuthority, c ∈ hidden :=
    fun _ member => (List.dropWhile_sublist _).subset member
  have stops : ∀ c ∈ rest.head?, (c != '/') = false := by
    intro c first
    rw [slash c first]
    rfl
  constructor
  · intro c first
    have ended := List.head?_dropWhile_not inAuthority hidden
    cases query : hidden.dropWhile inAuthority with
    | nil =>
        rw [query, List.nil_append] at first
        rw [slash c first]
        rfl
    | cons d more =>
        rw [query] at first ended
        obtain rfl := Option.some.inj first
        simpa using ended
  · rw [takeWhile_append_of_stop (fun c member => within c (kept c member)) stops]
    exact fun member => single (kept ':' member)

/-- **A host with a last colon** names this computer, or is disguised. -/
theorem hides_of_colon {opening loopback closing hidden tail : List Char} {host : UrlHost}
    (opened : ∀ c ∈ opening, c = '[') (closed : ∀ c ∈ closing, c = ']')
    (is : isLoopbackText loopback = true) (plain : ∀ c ∈ hidden, inAuthority c = true ∧ c ≠ ':')
    (ends : EndsAuthority tail)
    (found : readHost (hostAndPort (opening ++ loopback ++ closing ++ ':' :: hidden)) = some host)
    (other : host.isLoopback = false) :
    HidesInUser (opening ++ loopback ++ closing ++ ':' :: hidden ++ tail) ∨
      HidesInLiteral (opening ++ loopback ++ closing ++ ':' :: hidden ++ tail) := by
  have single : ':' ∉ hidden := fun member => (plain ':' member).2 rfl
  cases user : rsplitOnce '@' hidden with
  | some parts =>
      obtain ⟨secret, name⟩ := parts
      obtain ⟨rfl, absent⟩ := rsplitOnce_eq_some user
      rw [hostAndPort_user absent] at found
      exact Or.inl ⟨opening, loopback, closing, secret, name, tail, rfl, opened, closed, is, plain,
        absent, ends, host, found, other⟩
  | none =>
      have absent : '@' ∉ opening ++ loopback ++ closing ++ ':' :: hidden := by
        intro member
        rcases List.mem_append.mp member with front | back
        · exact (plain_of_brackets opened closed is '@' front).2.2 rfl
        · rcases List.mem_cons.mp back with same | inside
          · cases same
          · exact absent_of_rsplitOnce user inside
      rw [hostAndPort_eq_self absent] at found
      rcases readHost_loopback opened closed is (Or.inr ⟨hidden, rfl, single⟩) found with
        loopback | ⟨group, address, rfl, rfl, goes, parsed, six, rfl⟩
      · rw [other] at loopback
        cases loopback
      · obtain rfl := (List.cons.inj goes).2
        refine Or.inr ⟨loopback, group, tail, address, by simp, is, fun member => ?_, ends, parsed, six,
          other⟩
        exact single (List.mem_append_left _ member)

/-- What follows the text that `apiHost` looks at begins with a slash. -/
theorem slash_of_dropWhile (rest : List Char) : ∀ c ∈ (rest.dropWhile (· != '/')).head?, c = '/' := by
  intro c first
  have stops := List.head?_dropWhile_not (· != '/') rest
  rw [Option.mem_def.mp first] at stops
  simpa using stops

/-- A text without a colon is the host that the URL names. -/
theorem isLoopback_of_uncut {rest : List Char} {host : UrlHost} (opened : ∀ c ∈ opening, c = '[')
    (closed : ∀ c ∈ closing, c = ']') (is : isLoopbackText loopback = true)
    (whole : rest.takeWhile (· != '/') = opening ++ loopback ++ closing)
    (single : ':' ∉ rest.takeWhile (· != '/'))
    (found : readHost (hostAndPort ((rest ++ "/api/pin".toList).takeWhile inAuthority)) = some host) :
    host.isLoopback = true := by
  have front := plain_of_brackets opened closed is
  have cut := List.takeWhile_append_dropWhile (p := (· != '/')) (l := rest)
  have stops : ∀ c ∈ (rest.dropWhile (· != '/')).head?, inAuthority c = false := by
    intro c first
    rw [slash_of_dropWhile rest c first]
    rfl
  rw [whole] at cut single
  rw [← cut, authority_eq (fun c member => (front c member).1) stops,
    hostAndPort_eq_self fun member => (front '@' member).2.2 rfl,
    ← List.append_nil (opening ++ loopback ++ closing)] at found
  have absent : ':' ∉ loopback := fun member => single (by simp [member])
  rcases readHost_loopback opened closed is (Or.inl ⟨rfl, absent⟩) found with same | ⟨_, _, _, _, goes, _⟩
  · exact same
  · cases goes

/-- A text that is cut at its last colon hides another host in what comes after. -/
theorem hides_of_cut {rest after : List Char} {host : UrlHost} (opened : ∀ c ∈ opening, c = '[')
    (closed : ∀ c ∈ closing, c = ']') (is : isLoopbackText loopback = true)
    (whole : rest.takeWhile (· != '/') = opening ++ loopback ++ closing ++ ':' :: after)
    (single : ':' ∉ after)
    (found : readHost (hostAndPort ((rest ++ "/api/pin".toList).takeWhile inAuthority)) = some host)
    (other : host.isLoopback = false) : HidesInUser rest ∨ HidesInLiteral rest := by
  have front := plain_of_brackets opened closed is
  have cut := List.takeWhile_append_dropWhile (p := (· != '/')) (l := rest)
  have within : ∀ c ∈ after, (c != '/') = true := by
    intro c member
    have inside : c ∈ rest.takeWhile (· != '/') := by
      rw [whole]
      exact List.mem_append_right _ (List.mem_cons_of_mem _ member)
    have outside := List.mem_takeWhile_imp inside
    exact outside
  have ends := endsAuthority_dropWhile single within (slash_of_dropWhile rest)
  have spelled : rest = opening ++ loopback ++ closing ++ ':' :: after.takeWhile inAuthority ++
      (after.dropWhile inAuthority ++ rest.dropWhile (· != '/')) := by
    have parts := List.takeWhile_append_dropWhile (p := inAuthority) (l := after)
    rw [← List.append_assoc, List.append_assoc _ _ (after.dropWhile inAuthority),
      List.cons_append, parts, ← whole, cut]
  have plain : ∀ c ∈ after.takeWhile inAuthority, inAuthority c = true ∧ c ≠ ':' :=
    fun c member => ⟨List.mem_takeWhile_imp member,
      fun same => single ((List.takeWhile_sublist _).subset (same ▸ member))⟩
  have inside : ∀ c ∈ opening ++ loopback ++ closing ++ ':' :: after.takeWhile inAuthority,
      inAuthority c = true :=
    List.forall_mem_append.mpr ⟨fun c member => (front c member).1,
      List.forall_mem_cons.mpr ⟨rfl, fun c member => (plain c member).1⟩⟩
  rw [spelled, authority_eq inside ends.1] at found
  rw [spelled]
  exact hides_of_colon opened closed is plain ends found other

/-- **What the check accepts names this computer, or is disguised.** -/
theorem disguised_of_host {apiBase : String} {rest : List Char} {host : UrlHost}
    (scheme : stripScheme apiBase.toList = some rest)
    (is : isLoopbackText (trimBrackets (apiHost rest)) = true)
    (found : urlHost (pinUrl apiBase) = some host) (other : host.isLoopback = false) :
    HidesInUser rest ∨ HidesInLiteral rest := by
  obtain ⟨opening, closing, split, opened, closed⟩ := split_trimBrackets (apiHost rest)
  generalize trimBrackets (apiHost rest) = loopback at split is
  rw [urlHost, stripScheme_pinUrl scheme] at found
  change readHost (hostAndPort ((rest ++ "/api/pin".toList).takeWhile inAuthority)) = some host at found
  cases colon : rsplitOnce ':' (rest.takeWhile (· != '/')) with
  | none =>
      have whole : rest.takeWhile (· != '/') = opening ++ loopback ++ closing := by
        rw [← split, apiHost]
        simp only [colon]
      have same := isLoopback_of_uncut opened closed is whole (absent_of_rsplitOnce colon) found
      rw [other] at same
      cases same
  | some parts =>
      obtain ⟨before, after⟩ := parts
      obtain ⟨whole, single⟩ := rsplitOnce_eq_some colon
      obtain rfl : before = opening ++ loopback ++ closing := by
        rw [← split, apiHost]
        simp only [colon]
      exact hides_of_cut opened closed is whole single found other

/-- **Certificates are skipped only for loopback exactly when the text is not disguised.** -/
theorem skipsOnlyLoopback_iff (apiBase : String) :
    SkipsOnlyLoopback apiBase ↔ ¬ Disguised apiBase := by
  refine ⟨fun skips disguised => not_skipsOnlyLoopback disguised skips, fun plain accepted host found => ?_⟩
  by_contra other
  unfold isLoopbackApi at accepted
  split at accepted
  · next rest scheme =>
      exact plain ⟨rest, scheme,
        disguised_of_host scheme accepted found (Bool.eq_false_iff.mpr other)⟩
  · cases accepted

/-- **Two hosts that are trusted without their certificates.** -/
theorem trusted_strangers : ¬ SkipsOnlyLoopback "https://localhost:x@evil.example" ∧
    ¬ SkipsOnlyLoopback "https://[::1:beef]" := by
  constructor
  · intro skips
    have host : urlHost (pinUrl "https://localhost:x@evil.example") =
        some (.name "evil.example".toList) := by
      decide
    exact absurd (skips (by decide) _ host) (by decide)
  · intro skips
    have host : urlHost (pinUrl "https://[::1:beef]") =
        some (.literal (.v6 0 0 0 0 0 0 1 0xbeef)) := by
      decide
    exact absurd (skips (by decide) _ host) (by decide)

end Omdesky.Platform
