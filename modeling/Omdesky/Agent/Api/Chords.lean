/-
**The chords that are accepted (`omdesky-core/src/lib.rs`, `omdesky-agent/src/lib.rs`).**

`KeyChord::new` sorts the modifiers of a chord, each once. A chord of a request is decoded without it, and
`KeyChord::validate` looks at the key alone.

* `Canonical`: a chord as `KeyChord::new` builds it, so that no modifier goes down or up twice.
* `bodyModifiers`: the modifiers that the body of a request names.
* `canonical_iff`: an accepted chord is canonical exactly when the body names its modifiers in order, each
  at most once.
-/

import Mathlib.Data.List.Count
import Mathlib.Data.List.Sublists
import Omdesky.Agent.Api.Gate
import Omdesky.Platform.Input.Keys
import Omdesky.Protocol.Wire

namespace Omdesky.Agent

open Interaction Interaction.Program Json Platform

/-! ### Canonical chords -/

/-- All modifiers, in the order of their type. -/
def allModifiers : List KeyModifier := [.super, .ctrl, .alt, .shift]

/-- The place of a modifier in that order. -/
def KeyModifier.rank (modifier : KeyModifier) : Nat := allModifiers.idxOf modifier

/-- **A chord as `KeyChord::new` builds it**: its key is safe, and its modifiers are strictly increasing,
so that each goes down and up at most once. -/
structure Canonical (chord : KeyChord) : Prop where
  key : isSafeKeyToken chord.key = true
  increasing : chord.mods.Pairwise fun first second =>
    KeyModifier.rank first < KeyModifier.rank second
  built : KeyChord.new chord.mods chord.key = .ok chord
  once : ∀ modifier pressed,
    (chordEvents chord).count ⟨"", modifierKey modifier, pressed⟩ ≤ 1

section Canonical

variable {chord : KeyChord}

theorem safe_of_validate (accepted : chord.validate = .ok ()) : isSafeKeyToken chord.key = true := by
  unfold KeyChord.validate at accepted
  split at accepted
  · assumption
  · cases accepted

theorem new_eq (safe : isSafeKeyToken chord.key = true) :
    KeyChord.new chord.mods chord.key =
      .ok ⟨allModifiers.filter chord.mods.contains, chord.key⟩ := by
  simp only [KeyChord.new, KeyChord.validate, safe, if_true]
  rfl

/-- In every part of the order, each modifier comes once. -/
theorem of_sublist {mods : List KeyModifier} (sorted : mods.Sublist allModifiers) :
    (mods.Pairwise fun first second => KeyModifier.rank first < KeyModifier.rank second) ∧
      allModifiers.filter mods.contains = mods ∧ ∀ modifier, mods.count modifier ≤ 1 := by
  have each : ∀ mods ∈ allModifiers.sublists,
      (mods.Pairwise fun first second => KeyModifier.rank first < KeyModifier.rank second) ∧
        allModifiers.filter mods.contains = mods := by decide
  obtain ⟨increasing, whole⟩ := each mods (List.mem_sublists.mpr sorted)
  have nodup : allModifiers.Nodup := by decide
  exact ⟨increasing, whole, List.nodup_iff_count_le_one.mp (nodup.sublist sorted)⟩

/-- The event of a modifier's key. -/
private def modifierEvent (pressed : Bool) (modifier : KeyModifier) : KeyEvent :=
  ⟨"", modifierKey modifier, pressed⟩

private theorem modifierEvent_injective (pressed : Bool) :
    Function.Injective (modifierEvent pressed) := by
  have keys : ∀ first second, modifierKey first = modifierKey second → first = second := by
    intro first second
    cases first <;> cases second <;> decide
  exact fun first second same => keys first second (congrArg KeyEvent.key same)

/-- How often a modifier goes down, or up. -/
theorem count_chordEvents (safe : isSafeKeyToken chord.key = true) (modifier : KeyModifier)
    (pressed : Bool) :
    (chordEvents chord).count ⟨"", modifierKey modifier, pressed⟩ = chord.mods.count modifier := by
  have own (mods : List KeyModifier) :
      (mods.map (modifierEvent pressed)).count (modifierEvent pressed modifier) =
        mods.count modifier :=
    List.count_map_of_injective mods _ (modifierEvent_injective pressed) modifier
  have other (mods : List KeyModifier) {opposite : Bool} (differs : opposite ≠ pressed) :
      (mods.map (modifierEvent opposite)).count (modifierEvent pressed modifier) = 0 := by
    rw [List.count_eq_zero, List.mem_map]
    rintro ⟨_, _, same⟩
    exact differs (congrArg KeyEvent.pressed same)
  have apart (down : Bool) : (⟨"", chord.key, down⟩ : KeyEvent) ≠ modifierEvent pressed modifier :=
    fun same => modifierKey_ne safe modifier (congrArg KeyEvent.key same).symm
  have key : [⟨"", chord.key, true⟩, (⟨"", chord.key, false⟩ : KeyEvent)].count
      (modifierEvent pressed modifier) = 0 := by
    rw [List.count_cons_of_ne (apart true), List.count_cons_of_ne (apart false), List.count_nil]
  have split : chordEvents chord = chord.mods.map (modifierEvent true) ++
      [⟨"", chord.key, true⟩, ⟨"", chord.key, false⟩] ++
        chord.mods.reverse.map (modifierEvent false) := rfl
  have event : (⟨"", modifierKey modifier, pressed⟩ : KeyEvent) = modifierEvent pressed modifier := rfl
  rw [event, split, List.count_append, List.count_append, key]
  cases pressed with
  | true =>
      rw [own, other chord.mods.reverse Bool.false_ne_true, Nat.add_zero]
  | false =>
      rw [own, other chord.mods Bool.false_ne_true.symm, List.count_reverse, Nat.zero_add]

/-- **The modifiers of a safe chord are canonical** when they are a part of the order. -/
theorem canonical_iff_sublist (safe : isSafeKeyToken chord.key = true) :
    Canonical chord ↔ chord.mods.Sublist allModifiers := by
  constructor
  · intro canonical
    have built := canonical.built
    rw [new_eq safe] at built
    have same := congrArg KeyChord.mods (Except.ok.inj built)
    exact same ▸ List.filter_sublist
  · intro sorted
    obtain ⟨increasing, whole, once⟩ := of_sublist sorted
    refine ⟨safe, increasing, ?_, fun modifier pressed => ?_⟩
    · rw [new_eq safe, whole]
    · rw [count_chordEvents safe]
      exact once modifier

end Canonical

/-! ### The modifiers that a body names -/

/-- The names in the list `mods` of the chord in the body of a request. -/
def bodyModifiers (document : Document) : Option (List String) := do
  let fields ← members ["command", "session", "request_id", "issued_at"] document
  let command ← requiredField "command" some fields
  let (_, content) ← taggedVariant "action" command
  let chord ← requiredField "chord" some (← members ["chord", "window"] content)
  requiredField "mods" (asList unitVariant) (← members ["mods", "key"] chord)

section Bodies

theorem requiredField_eq_some_iff {Number α : Type} {name : String}
    {decode : Value Number → Option α} {fields : List (String × Value Number)} {result : α} :
    requiredField name decode fields = some result ↔
      ∃ value, requiredField name some fields = some value ∧ decode value = some result := by
  unfold requiredField
  cases field name fields with
  | none => simp
  | some found => cases found <;> simp

/-- A decoded modifier is written by its name. -/
theorem unitVariant_of_decode {value : Document} {modifier : KeyModifier}
    (decoded : KeyModifier.decode value = some modifier) :
    unitVariant value = some modifier.wire := by
  unfold KeyModifier.decode decodeNamed at decoded
  obtain ⟨name, named, found⟩ := Option.bind_eq_some_iff.mp decoded
  have same := List.find?_some found
  rw [beq_iff_eq] at same
  rw [named, same]

theorem asList_unitVariant {value : Document} {mods : List KeyModifier}
    (decoded : asList KeyModifier.decode value = some mods) :
    asList unitVariant value = some (mods.map KeyModifier.wire) := by
  cases value with
  | array items =>
      unfold asList at decoded ⊢
      dsimp only at decoded ⊢
      induction items generalizing mods with
      | nil =>
          cases decoded
          rfl
      | cons item items ih =>
          rw [List.mapM_cons] at decoded
          obtain ⟨modifier, here, decoded⟩ := Option.bind_eq_some_iff.mp decoded
          obtain ⟨others, rest, same⟩ := Option.bind_eq_some_iff.mp decoded
          obtain rfl := Option.some.inj same
          rw [List.mapM_cons, unitVariant_of_decode here, ih rest]
          rfl
  | _ => cases decoded

/-- What a decoded chord's document names. -/
theorem mods_of_decode {value : Document} {chord : KeyChord} (decoded : KeyChord.decode value = some chord) :
    (do requiredField "mods" (asList unitVariant) (← members ["mods", "key"] value)) =
      some (chord.mods.map KeyModifier.wire) := by
  obtain ⟨fields, read, decoded⟩ := Option.bind_eq_some_iff.mp decoded
  obtain ⟨mods, found, decoded⟩ := Option.bind_eq_some_iff.mp decoded
  obtain ⟨key, _, same⟩ := Option.bind_eq_some_iff.mp decoded
  obtain rfl := Option.some.inj same
  obtain ⟨listed, there, decodes⟩ := requiredField_eq_some_iff.mp found
  rw [read, Option.bind_eq_bind, Option.bind_some]
  exact requiredField_eq_some_iff.mpr ⟨listed, there, asList_unitVariant decodes⟩

/-- A decoded shortcut has a chord in its document. -/
theorem chord_of_decode {value : Document} {chord : KeyChord} {window : WindowSelector}
    (decoded : RemoteCommand.decode value = some (.sendShortcut chord window)) :
    ∃ tag content fields listed, taggedVariant "action" value = some (tag, content) ∧
      members ["chord", "window"] content = some fields ∧
        requiredField "chord" some fields = some listed ∧ KeyChord.decode listed = some chord := by
  obtain ⟨⟨tag, content⟩, tagged, decoded⟩ := Option.bind_eq_some_iff.mp decoded
  split at decoded
  · next inner same =>
    obtain ⟨rfl, rfl⟩ := Prod.mk.inj same
    obtain ⟨fields, read, decoded⟩ := Option.bind_eq_some_iff.mp decoded
    obtain ⟨found, required, decoded⟩ := Option.bind_eq_some_iff.mp decoded
    obtain ⟨_, _, same⟩ := Option.bind_eq_some_iff.mp decoded
    obtain ⟨rfl, rfl⟩ := RemoteCommand.sendShortcut.inj (Option.some.inj same)
    obtain ⟨listed, there, decodes⟩ := requiredField_eq_some_iff.mp required
    exact ⟨_, _, fields, listed, tagged, read, there, decodes⟩
  · simp [Option.bind_eq_some_iff] at decoded
  · simp [Option.bind_eq_some_iff] at decoded
  · simp [Option.bind_eq_some_iff] at decoded
  · cases decoded
  · cases decoded
  · cases decoded

/-- **What a decoded shortcut's body names.** -/
theorem bodyModifiers_of_decode {texts : Texts} {document : Document} {request : CommandRequest}
    {chord : KeyChord} {window : WindowSelector}
    (decoded : CommandRequest.decode texts document = some request)
    (shortcut : request.command = .sendShortcut chord window) :
    bodyModifiers document = some (chord.mods.map KeyModifier.wire) := by
  obtain ⟨fields, read, decoded⟩ := Option.bind_eq_some_iff.mp decoded
  obtain ⟨command, found, decoded⟩ := Option.bind_eq_some_iff.mp decoded
  obtain ⟨_, _, decoded⟩ := Option.bind_eq_some_iff.mp decoded
  obtain ⟨_, _, decoded⟩ := Option.bind_eq_some_iff.mp decoded
  obtain ⟨_, _, same⟩ := Option.bind_eq_some_iff.mp decoded
  obtain rfl := Option.some.inj same
  obtain ⟨value, there, decodes⟩ := requiredField_eq_some_iff.mp found
  obtain rfl : command = .sendShortcut chord window := shortcut
  obtain ⟨tag, content, inner, listed, tagged, parts, chosen, decodesChord⟩ := chord_of_decode decodes
  have names := mods_of_decode decodesChord
  simp only [Option.bind_eq_bind] at names
  simp only [bodyModifiers, read, there, tagged, parts, chosen, Option.bind_eq_bind,
    Option.bind_some, names]

end Bodies

/-! ### Accepted shortcuts -/

section Accepted

variable {config : AgentConfig} {source : SocketAddr} {request : CommandRequest}
  {trace : List AgentEvent} {result : Except ApiError ApiReply}

/-- A request that is shown to the replay guard has been authorized and is valid. -/
theorem validate_of_asked (run : Traces (runCommand config source (some request)).run trace result)
    {requestId : Uuid} {issuedAt : Int} {answer : Except FreshnessError Unit}
    (asked : ⟨.admitRequest requestId issuedAt, answer⟩ ∈ trace) :
    request.command.validate = .ok () := by
  have elsewhere {before : List AgentEvent} {outcome : Except ApiError AuthorizedPeer}
      (authorized : Traces (authorizePeer config source request.command.requiredCapability).run
        before outcome) : ⟨.admitRequest requestId issuedAt, answer⟩ ∉ before := by
    have uses : Uses (fun use => ∃ inner, use = .authorizer inner)
        (authorizePeer config source request.command.requiredCapability).run :=
      uses_orFail (uses_onAuthorizer (fun inner => ⟨inner, rfl⟩) _)
    intro member
    obtain ⟨inner, other⟩ := uses.of_traces authorized _ member
    cases other
  obtain ⟨error, rfl, failed⟩ | ⟨before, after, peer, rfl, authorized, run⟩ := traces_run_bind.mp run
  · exact absurd asked (elsewhere failed)
  obtain ⟨error, rfl, rejected⟩ | ⟨nothing, rest, value, rfl, valid, run⟩ := traces_run_bind.mp run
  · rcases List.mem_append.mp asked with early | late
    · exact absurd early (elsewhere authorized)
    · unfold check at rejected
      obtain ⟨rfl, _⟩ := rejected
      cases late
  · exact (traces_check.mp valid).2

/-- A command for which something is dispatched has been validated. -/
theorem validate_of_dispatched {decode : String → Except String (Option String)}
    {command : RemoteCommand} {trace : List (Event HyprctlCall HyprctlAnswer)}
    {result : PortResult Unit} (run : Traces (execute decode command).run trace result)
    (dispatched : trace ≠ []) : command.validate = .ok () := by
  unfold execute at run
  cases accepted : command.validate with
  | ok value => rfl
  | error error =>
      rw [accepted] at run
      obtain ⟨rfl, _⟩ := run
      exact absurd rfl dispatched

end Accepted

theorem wire_injective : Function.Injective KeyModifier.wire := by
  intro first second
  cases first <;> cases second <;> decide

/-- **An accepted chord is canonical exactly when** the body of its request, or the command itself, names
its modifiers in their order, each at most once. -/
theorem canonical_iff (texts : Texts) (config : AgentConfig) (source : SocketAddr)
    (decode : String → Except String (Option String)) (chord : KeyChord) (window : WindowSelector) :
    (∀ document request trace result, CommandRequest.decode texts document = some request →
      request.command = .sendShortcut chord window →
      Traces (runCommand config source (some request)).run trace result →
      (∃ answer, ⟨.admitRequest request.requestId request.issuedAt, answer⟩ ∈ trace) →
        (Canonical chord ↔ ∃ names, bodyModifiers document = some names ∧
          names.Sublist (allModifiers.map KeyModifier.wire))) ∧
    ∀ trace result, Traces (execute decode (.sendShortcut chord window)).run trace result →
      trace ≠ [] → (Canonical chord ↔ chord.mods.Sublist allModifiers) := by
  have safe (accepted : (RemoteCommand.sendShortcut chord window).validate = .ok ()) :
      isSafeKeyToken chord.key = true := by
    refine safe_of_validate ?_
    simp only [RemoteCommand.validate] at accepted
    cases checked : chord.validate with
    | error error =>
        rw [checked] at accepted
        cases accepted
    | ok value => rfl
  constructor
  · rintro document request trace result decoded shortcut run ⟨answer, asked⟩
    have valid := validate_of_asked run asked
    rw [shortcut] at valid
    rw [canonical_iff_sublist (safe valid)]
    constructor
    · exact fun sorted => ⟨_, bodyModifiers_of_decode decoded shortcut, sorted.map _⟩
    · rintro ⟨names, named, sorted⟩
      obtain rfl := Option.some.inj (named.symm.trans (bodyModifiers_of_decode decoded shortcut))
      obtain ⟨mods, part, same⟩ := List.sublist_map_iff.mp sorted
      rwa [List.map_injective_iff.mpr wire_injective same]
  · intro trace result run dispatched
    exact canonical_iff_sublist (safe (validate_of_dispatched run dispatched))

/-! ### Two requests -/

/-- The texts of the identifier of zeros and of the beginning of 1970. -/
private def zeroTexts : Texts where
  uuid _ := "00000000-0000-0000-0000-000000000000"
  readUuid text := if text = "00000000-0000-0000-0000-000000000000" then some 0 else none
  timestamp _ := some "1970-01-01T00:00:00Z"
  readTimestamp text := if text = "1970-01-01T00:00:00Z" then some 0 else none

/-- The body of a request for a shortcut with the key A. -/
private def shortcutBody (mods : List Document) : Document :=
  .object [("command", .object [("action", .string "send_shortcut"),
      ("chord", .object [("mods", .array mods), ("key", .string "A")]),
      ("window", .string "active_window")]),
    ("request_id", .string "00000000-0000-0000-0000-000000000000"),
    ("issued_at", .string "1970-01-01T00:00:00Z")]

/-- The request, decoded. -/
private def shortcutRequest (mods : List KeyModifier) : CommandRequest where
  command := .sendShortcut ⟨mods, "A"⟩ .activeWindow
  session := none
  requestId := 0
  issuedAt := 0

/-- A computer of the tailnet. -/
private def laptopAddress : SocketAddr := ⟨.v4 100 64 0 7, 51234⟩

/-- The configuration of an agent, as it is by default. -/
private def defaultConfig : AgentConfig where
  strictTailnetOnly := true
  agentPort := 47900
  lease := defaultLease
  challengeTtl := challengeTtl
  debugAssertions := false

/-- The laptop is identified and may send shortcuts. -/
private def identified : List (Event AuthorizerRequest AuthorizerAnswer) :=
  [⟨.limit laptopAddress.ip, true⟩, ⟨.instant, (0 : Nat)⟩,
    ⟨.cachedIdentity laptopAddress.ip, some ⟨"laptop", 0⟩⟩, ⟨.instant, (0 : Nat)⟩,
    ⟨.cachedAllowlist, some ⟨[⟨"laptop", none, 0, [.sendShortcut]⟩], 0⟩⟩]

/-- The request is fresh, and is executed on this computer. -/
private def executed (mods : List KeyModifier) : List AgentEvent :=
  [⟨.admitRequest 0 0, .ok ()⟩,
    ⟨.session .lock, CoordinatorState.new⟩,
    ⟨.session .instant, (0 : Nat)⟩,
    ⟨.execute (.sendShortcut ⟨mods, "A"⟩ .activeWindow), .ok ()⟩,
    ⟨.notify ⟨"Omdesky", "Remote shortcut capture changed"⟩, .ok ()⟩]

private theorem executed_runs (mods : List KeyModifier) :
    Traces (runCommand defaultConfig laptopAddress (some (shortcutRequest mods))).run
      (identified.map (fun event => ⟨.authorizer event.1, event.2⟩) ++ executed mods)
      (.ok (.command .done)) := by
  have authorized : Traces (authorize true laptopAddress.ip .sendShortcut) identified
      (.ok ⟨"laptop", [.sendShortcut]⟩) :=
    ⟨true, _, rfl, _, _, rfl, _, _, rfl, _, _, rfl, _, _, rfl, rfl, rfl⟩
  have peer : Traces (authorizePeer defaultConfig laptopAddress .sendShortcut).run
      (identified.map fun event => ⟨.authorizer event.1, event.2⟩)
      (.ok ⟨"laptop", [.sendShortcut]⟩) :=
    traces_orFail.mpr (traces_within.mpr ⟨_, rfl, authorized⟩)
  have safe : isSafeKeyToken "A" = true := by decide
  have valid : (shortcutRequest mods).command.validate = .ok () := by
    simp only [shortcutRequest, RemoteCommand.validate, KeyChord.validate, safe, if_true]
    rfl
  refine traces_run_bind.mpr (.inr ⟨_, executed mods, _, rfl, peer, ?_⟩)
  refine traces_run_bind.mpr (.inr ⟨[], _, (), rfl, traces_check.mpr ⟨rfl, valid⟩, ?_⟩)
  exact ⟨_, _, rfl, _, _, rfl, _, _, rfl, _, _, rfl, _, _, rfl, rfl, rfl⟩

/-- **A modifier can be named twice.** A request with CTRL, CTRL and A is accepted and executed, though
its chord is not one that `KeyChord::new` builds. -/
theorem chord_repeated : ¬ ∀ (texts : Texts) (config : AgentConfig) (source : SocketAddr)
    (document : Document) (request : CommandRequest) (chord : KeyChord) (window : WindowSelector)
    (trace : List AgentEvent) (result : Except ApiError ApiReply),
    CommandRequest.decode texts document = some request →
      request.command = .sendShortcut chord window →
      Traces (runCommand config source (some request)).run trace result →
      (∃ answer, ⟨.admitRequest request.requestId request.issuedAt, answer⟩ ∈ trace) →
        Canonical chord := by
  intro claim
  have decoded : CommandRequest.decode zeroTexts (shortcutBody [.string "ctrl", .string "ctrl"]) =
      some (shortcutRequest [.ctrl, .ctrl]) := rfl
  have canonical := claim zeroTexts _ _ _ _ _ _ _ _ decoded rfl (executed_runs [.ctrl, .ctrl])
    ⟨.ok (), by simp [executed, shortcutRequest]⟩
  have sorted := (canonical_iff_sublist canonical.key).mp canonical
  exact absurd sorted (by decide)

/-- CTRL, SHIFT and A, named in order. -/
theorem canonical_iff_ordered : Canonical ⟨[.ctrl, .shift], "A"⟩ ↔ ∃ names,
    bodyModifiers (shortcutBody [.string "ctrl", .string "shift"]) = some names ∧
      names.Sublist (allModifiers.map KeyModifier.wire) := by
  have decoded : CommandRequest.decode zeroTexts (shortcutBody [.string "ctrl", .string "shift"]) =
      some (shortcutRequest [.ctrl, .shift]) := rfl
  exact (canonical_iff zeroTexts defaultConfig laptopAddress (fun _ => .ok none) _ .activeWindow).1
    _ _ _ _ decoded rfl (executed_runs [.ctrl, .shift])
    ⟨.ok (), by simp [executed, shortcutRequest]⟩

end Omdesky.Agent
