/-
**What the commands that list a device print (`omdesky-cli/src/main.rs`).**

* `info`, `displays`, `workspaces`, `windows`: the commands, over the requests they send and the lines
  they print, each line in pieces that say whose text they are.
* `Responses`, `showWorld`: what an agent answers, and the terminal.
* `Prints`: a program prints exactly these pieces.
* `clean_show_iff`: what a command prints is clean exactly when it is not `windows --json`, or the
  identifiers it lists do no harm.
-/

import Omdesky.Cli.Command
import Omdesky.Json.Value
import Omdesky.Platform.AgentClient

set_option linter.unusedSectionVars false

namespace Omdesky.Cli

open Application Interaction Interaction.Program Json
open Platform (AgentGet AgentGetAnswer ShownDisplay SafeNode SafeDisplay SafeWorkspace SafeWindow)

/-! ### The calls of a command -/

/-- A call of a listing command: resolve the target, ask the agent, print. -/
inductive ShowCall
  | resolve (target : String)
  | get (endpoint : AgentEndpoint) (request : AgentGet)
  | println (line : List Piece)

/-- The answer to each call. -/
abbrev ShowAnswer (Hertz : Type) : ShowCall → Type
  | .resolve _ => Except CliError AgentEndpoint
  | .get _ request => AgentGetAnswer Hertz request
  | .println _ => Unit

variable {Hertz : Type}

/-- A listing command. -/
abbrev ShowA (Hertz : Type) := ExceptT CliError (Program ShowCall (ShowAnswer Hertz))

/-- `resolve_endpoint(target).await?`. -/
def resolved (target : String) : ShowA Hertz AgentEndpoint :=
  ExceptT.mk (@perform _ (ShowAnswer Hertz) (.resolve target))

/-- One request to the agent, and what the client makes of the response. -/
def client {α : Type} (endpoint : AgentEndpoint) (request : AgentGet)
    (receive : AgentGetAnswer Hertz request → PortResult α) :
    Program ShowCall (ShowAnswer Hertz) (PortResult α) :=
  receive <$> @perform _ (ShowAnswer Hertz) (.get endpoint request)

/-- A request whose error ends the command. -/
def required {α : Type} (program : Program ShowCall (ShowAnswer Hertz) (PortResult α)) :
    ShowA Hertz α := ExceptT.mk (Except.mapError .port <$> program)

/-- `println!`. -/
def printLine (line : List Piece) : ShowA Hertz Unit :=
  liftM (@perform _ (ShowAnswer Hertz) (.println line))

/-! ### JSON -/

/-- `CLI_SCHEMA`. -/
def cliSchema : Int := 1

/-- An optional text. -/
def optionalJson : Option String → Value Hertz
  | some text => .string text
  | none => .null

/-- `Display` in JSON. -/
def displayJson (display : ShownDisplay Hertz) : Value Hertz :=
  .object (ofFields [("id", .string display.id), ("name", .string display.name),
    ("width", .integer display.width.toNat), ("height", .integer display.height.toNat),
    ("refresh_hz", .number display.refreshHz), ("focused", .bool display.focused)])

/-- `Workspace` in JSON. -/
def workspaceJson (workspace : Workspace) : Value Hertz :=
  .object (ofFields [("id", .integer workspace.id), ("name", optionalJson workspace.name),
    ("monitor", optionalJson workspace.monitor), ("focused", .bool workspace.focused),
    ("windows", .integer workspace.windows.toNat)])

/-- `Window` in JSON. -/
def windowJson (window : Window) : Value Hertz :=
  .object (ofFields [("id", .string window.id), ("app_id", optionalJson window.appId),
    ("class", optionalJson window.windowClass), ("title", optionalJson window.title),
    ("workspace", .integer window.workspace), ("focused", .bool window.focused)])

/-- `NodeInfoResponse` in JSON. -/
def nodeJson (node : NodeInfoResponse) : Value Hertz :=
  .object (ofFields [("node_id", .string node.nodeId), ("hostname", .string node.hostname),
    ("omarchy_version", .string node.omarchyVersion), ("agent_version", .string node.agentVersion),
    ("capabilities", .array (node.capabilities.map .string))])

/-- How a refresh rate is written, in a line and in JSON. -/
structure Rates (Hertz : Type) where
  line : Hertz → String
  json : Writer Hertz

/-- `print_json`. -/
def printJson (rates : Rates Hertz) : Value Hertz → ShowA Hertz Unit
  | .object fields =>
      printLine (pretty rates.json 0 (.object (insertField "schema" (.integer cliSchema) fields)))
  | _ => throw (.text "JSON output must be an object")

/-! ### The commands -/

variable (rates : Rates Hertz)

/-- The size and the rate of a display. -/
def modePieces (display : ShownDisplay Hertz) : List Piece :=
  [.given (toString display.width.toNat), .own "x", .given (toString display.height.toNat), .own "@",
    .given (rates.line display.refreshHz)]

/-- `info`. -/
def info (target : String) (json : Bool) : ShowA Hertz Unit := do
  let endpoint ← resolved target
  let node ← required (client endpoint .node Platform.nodeInfo)
  let displays ← required (client endpoint .displays Platform.displays)
  if json then
    printJson rates (.object (ofFields [("node", nodeJson node),
      ("displays", .array (displays.map displayJson))]))
  else
    printLine [.given node.hostname, .own " (", .given node.nodeId, .own ")"]
    printLine [.own "Omarchy ", .given node.omarchyVersion, .own "  ·  agent ",
      .given node.agentVersion]
    displays.forM fun display =>
      printLine (.given display.id :: .own " " :: modePieces rates display)

/-- `displays`. -/
def displays (target : String) (json : Bool) : ShowA Hertz Unit := do
  let endpoint ← resolved target
  let displays ← required (client endpoint .displays Platform.displays)
  if json then
    printJson rates (.object (ofFields [("displays", .array (displays.map displayJson))]))
  else
    displays.forM fun display => do
      let marker := if display.focused then "●" else " "
      printLine (.own marker :: .own " " :: .given display.id :: .own "\t" :: modePieces rates display)

/-- What a workspace's window is called in its list. -/
def windowLabel (window : Window) : Option String :=
  (window.title.or window.appId).or window.windowClass

/-- An optional text, or a dash. -/
def orDash : Option String → Piece
  | some text => .given text
  | none => .own "—"

/-- `workspaces`. -/
def workspaces (target : String) (json : Bool) : ShowA Hertz Unit := do
  let endpoint ← resolved target
  let workspaces ← required (client endpoint .workspaces Platform.workspaces)
  let windows ← liftM (@client Hertz _ endpoint .windows Platform.windows)
  if json then
    printJson rates (.object (ofFields [("workspaces", .array (workspaces.map workspaceJson))]))
  else
    workspaces.forM fun workspace => do
      printLine [.given (toString workspace.id), .own "  ", orDash workspace.name]
      let inside := (windows.toOption.getD []).filter fun window => window.workspace == workspace.id
      inside.forM fun window => printLine [.own "   ", orDash (windowLabel window)]

/-- The window is on the workspace and of the application that were asked for. -/
def isListed (workspace : Option Int) (appId : Option String) (window : Window) : Bool :=
  (workspace.all fun id => window.workspace == id) &&
    appId.all fun needle => window.appId == some needle || window.windowClass == some needle

/-- `windows`. -/
def windows (target : String) (workspace : Option Int) (appId : Option String) (json : Bool) :
    ShowA Hertz Unit := do
  let endpoint ← resolved target
  let all ← required (client endpoint .windows Platform.windows)
  let windows := all.filter (isListed workspace appId)
  if json then
    printJson rates (.object (ofFields [("windows", .array (windows.map windowJson))]))
  else
    printLine [.own "WORKSPACE\tAPP\tTITLE"]
    windows.forM fun window =>
      printLine [.given (toString window.workspace), .own "\t",
        orDash (window.appId.or window.windowClass), .own "\t", orDash window.title]

/-- `Command`, as far as it lists what a device has. -/
inductive ShowCommand
  | info (target : String) (json : Bool)
  | displays (target : String) (json : Bool)
  | workspaces (target : String) (json : Bool)
  | windows (target : String) (workspace : Option Int) (appId : Option String) (json : Bool)
  deriving DecidableEq, Repr

/-- The branch of `main` for a command. -/
def ShowCommand.program : ShowCommand → ShowA Hertz Unit
  | .info target json => Cli.info rates target json
  | .displays target json => Cli.displays rates target json
  | .workspaces target json => Cli.workspaces rates target json
  | .windows target workspace appId json => Cli.windows rates target workspace appId json

/-! ### The agent and the terminal -/

/-- What an agent answers to each request. -/
abbrev Responses (Hertz : Type) := (request : AgentGet) → AgentGetAnswer Hertz request

/-- The surroundings of a command; the state is what the terminal has shown. -/
def showWorld (responses : Responses Hertz) : World ShowCall (ShowAnswer Hertz) (List Piece)
  | .resolve target, screen, answer, after =>
      (∃ trace, Traces (resolveEndpoint target).run trace answer) ∧ after = screen
  | .get _ request, screen, answer, after => answer = responses request ∧ after = screen
  | .println line, screen, _, after => after = screen ++ (line ++ [.own "\n"])

/-! ### What a program prints -/

section Shows

variable {responses : Responses Hertz} {screen final : List Piece} {result : Except CliError Unit}

/-- The program returns, and what it prints is clean exactly when `clean` holds. -/
def Shows (responses : Responses Hertz) (program : ShowA Hertz Unit) (clean : Prop) : Prop :=
  ∀ screen result final, Ends (showWorld responses) program.run screen result final →
    result = .ok () ∧ ∃ text, final = screen ++ text ∧ (Clean isPresentationSafe text ↔ clean)

variable {first second : ShowA Hertz Unit} {clean cleaner : Prop}

theorem shows_printLine {line : List Piece} (here : Clean isPresentationSafe line ↔ clean) :
    Shows responses (printLine line) clean := by
  intro screen result final run
  obtain ⟨_, _, rfl, rest⟩ := ends_ask.mp run
  obtain ⟨rfl, rfl⟩ := ends_done.mp rest
  have feed : (Piece.own "\n").Clean isPresentationSafe := fun c member => by
    obtain rfl := List.mem_singleton.mp member
    exact .inr (.inl rfl)
  refine ⟨rfl, _, rfl, ?_⟩
  rw [clean_append, clean_cons, here]
  simp [feed]

theorem shows_bind (early : Shows responses first clean) (late : Shows responses second cleaner) :
    Shows responses (do first; second) (clean ∧ cleaner) := by
  rintro screen result final ⟨trace, run⟩
  rcases runs_run_bind.mp run with ⟨error, rfl, failed⟩ | ⟨before, after, _, middle, rfl, here, there⟩
  · cases (early _ _ _ ⟨trace, failed⟩).1
  · obtain ⟨_, text, rfl, cleanText⟩ := early _ _ _ ⟨before, here⟩
    obtain ⟨returned, more, rfl, cleanMore⟩ := late _ _ _ ⟨after, there⟩
    exact ⟨returned, text ++ more, List.append_assoc .., by rw [clean_append, cleanText, cleanMore]⟩

theorem shows_forM {α : Type} {items : List α} {body : α → ShowA Hertz Unit} {holds : α → Prop}
    (each : ∀ item ∈ items, Shows responses (body item) (holds item)) :
    Shows responses (items.forM body) (∀ item ∈ items, holds item) := by
  induction items with
  | nil =>
      intro screen result final run
      obtain ⟨rfl, rfl⟩ := ends_done.mp run
      exact ⟨rfl, [], (List.append_nil _).symm, by simp⟩
  | cons item items ih =>
      obtain ⟨here, rest⟩ := List.forall_mem_cons.mp each
      rw [List.forall_mem_cons]
      exact shows_bind here (ih rest)

/-- A line for each item. -/
theorem shows_lines {α : Type} {items : List α} {line : α → List Piece}
    (each : ∀ item ∈ items, Clean isPresentationSafe (line item)) :
    Shows responses (items.forM fun item => printLine (line item)) True := by
  have all : Shows responses (items.forM fun item => printLine (line item)) (∀ item ∈ items, True) :=
    shows_forM fun item member => shows_printLine (iff_true_intro (each item member))
  simpa using all

/-- On an empty terminal the command fails and prints nothing, or it returns and what it printed is
clean exactly when `clean` holds. -/
def Lists (responses : Responses Hertz) (program : ShowA Hertz Unit) (clean : Prop) : Prop :=
  ∀ result screen, Ends (showWorld responses) program.run [] result screen →
    (∃ error, result = .error error ∧ screen = []) ∨
      result = .ok () ∧ (Clean isPresentationSafe screen ↔ clean)

theorem Shows.lists (shows : Shows responses first clean) : Lists responses first clean := by
  intro result screen run
  obtain ⟨returned, text, same, exact⟩ := shows [] result screen run
  obtain rfl : screen = text := same
  exact .inr ⟨returned, exact⟩

theorem lists_resolved {target : String} {next : AgentEndpoint → ShowA Hertz Unit}
    (rest : ∀ endpoint, Lists responses (next endpoint) clean) :
    Lists responses (resolved target >>= next) clean := by
  intro result screen run
  obtain ⟨answer, _, ⟨_, rfl⟩, run⟩ := ends_ask.mp run
  cases answer with
  | error error =>
      obtain ⟨rfl, rfl⟩ := ends_done.mp run
      exact .inl ⟨error, rfl, rfl⟩
  | ok endpoint => exact rest endpoint result screen run

theorem lists_required {α : Type} {endpoint : AgentEndpoint} {request : AgentGet}
    {receive : AgentGetAnswer Hertz request → PortResult α} {next : α → ShowA Hertz Unit}
    (rest : ∀ value, receive (responses request) = .ok value → Lists responses (next value) clean) :
    Lists responses (required (client endpoint request receive) >>= next) clean := by
  intro result screen run
  obtain ⟨answer, _, ⟨rfl, rfl⟩, run⟩ := ends_ask.mp run
  dsimp only [Program.bind, ExceptT.bindCont, Function.comp_apply] at run
  cases received : receive (responses request) with
  | error error =>
      rw [received] at run
      obtain ⟨rfl, rfl⟩ := ends_done.mp run
      exact .inl ⟨_, rfl, rfl⟩
  | ok value =>
      rw [received] at run
      exact rest value received result screen run

/-- A request whose failure is no failure of the command. -/
theorem lists_optional {α : Type} {endpoint : AgentEndpoint} {request : AgentGet}
    {receive : AgentGetAnswer Hertz request → PortResult α}
    {next : PortResult α → ShowA Hertz Unit}
    (rest : Lists responses (next (receive (responses request))) clean) :
    Lists responses (liftM (@client Hertz _ endpoint request receive) >>= next) clean := by
  intro result screen run
  obtain ⟨answer, _, ⟨rfl, rfl⟩, run⟩ := ends_ask.mp run
  exact rest result screen run

end Shows

/-! ### Clean pieces -/

/-- A text the program writes itself. -/
theorem clean_literal {text : String}
    (plain : text.toList.all (fun c => isPresentationSafe c || c == '\t') = true) :
    (Piece.own text).Clean isPresentationSafe := fun c member => by
  have allowed := List.all_eq_true.mp plain c member
  rw [Bool.or_eq_true, beq_iff_eq] at allowed
  exact allowed.imp_right .inr

theorem clean_natural (value : Nat) :
    (Piece.given (toString value)).Clean isPresentationSafe :=
  clean_integer safe_of_ascii (value : Int)

theorem clean_orDash {text : Option String} (safe : SafeOptional text) :
    (orDash text).Clean isPresentationSafe := by
  cases text with
  | none => exact clean_literal (by decide)
  | some text => exact safe text rfl

theorem safe_or {first second : Option String} (one : SafeOptional first)
    (two : SafeOptional second) : SafeOptional (first.or second) := by
  cases first with
  | none => exact two
  | some text => exact one

theorem harmless_of_safe {text : String} (safe : SafeText text) :
    Harmless isPresentationSafe text := fun c member => .inr (safe c member)

theorem harmless_of_optional {value : Option String} (safe : SafeOptional value) :
    ∀ text ∈ (optionalJson value : Value Hertz).texts, Harmless isPresentationSafe text := by
  cases value with
  | none => exact fun _ member => absurd member List.not_mem_nil
  | some value =>
      intro text member
      obtain rfl := List.mem_singleton.mp member
      exact harmless_of_safe (safe text rfl)

theorem optionalJson_keys (value : Option String) : (optionalJson value : Value Hertz).keys = [] := by
  cases value <;> rfl

/-- A name of the program. -/
theorem harmless_name (key : String) (plain : key.toList.all isPresentationSafe = true) :
    Harmless isPresentationSafe key := harmless_of_safe (List.all_eq_true.mp plain)

/-! ### The documents -/

/-- The texts of a display are sanitized. -/
theorem harmless_displayJson {display : ShownDisplay Hertz} (safe : SafeDisplay display) :
    ∀ text ∈ (displayJson display).texts, Harmless isPresentationSafe text := by
  intro text member
  rw [displayJson, Value.texts, mem_fieldTexts_ofFields (by simp)] at member
  have texts : text = display.id ∨ text = display.name := by
    simpa [fieldTexts, Value.texts] using member
  rcases texts with rfl | rfl
  · exact harmless_of_safe safe.id
  · exact harmless_of_safe safe.name

/-- The texts of a workspace are sanitized. -/
theorem harmless_workspaceJson {workspace : Workspace} (safe : SafeWorkspace workspace) :
    ∀ text ∈ (workspaceJson workspace : Value Hertz).texts, Harmless isPresentationSafe text := by
  intro text member
  rw [workspaceJson, Value.texts, mem_fieldTexts_ofFields (by simp)] at member
  have texts : text ∈ (optionalJson workspace.name : Value Hertz).texts ∨
      text ∈ (optionalJson workspace.monitor : Value Hertz).texts := by
    simpa [fieldTexts, Value.texts] using member
  rcases texts with member | member
  · exact harmless_of_optional safe.name text member
  · exact harmless_of_optional safe.monitor text member

/-- The texts of the node information are sanitized. -/
theorem harmless_nodeJson {node : NodeInfoResponse} (safe : SafeNode node) :
    ∀ text ∈ (nodeJson node : Value Hertz).texts, Harmless isPresentationSafe text := by
  intro text member
  rw [nodeJson, Value.texts, mem_fieldTexts_ofFields (by simp)] at member
  have texts : text = node.nodeId ∨ text = node.hostname ∨ text = node.omarchyVersion ∨
      text = node.agentVersion ∨ text ∈ node.capabilities := by
    simpa [fieldTexts, Value.texts, itemTexts_eq, List.flatMap_map] using member
  rcases texts with rfl | rfl | rfl | rfl | listed
  · exact harmless_of_safe safe.nodeId
  · exact harmless_of_safe safe.hostname
  · exact harmless_of_safe safe.omarchyVersion
  · exact harmless_of_safe safe.agentVersion
  · exact harmless_of_safe (safe.capabilities text listed)

/-- **Of a window, all but the identifier is sanitized.** -/
theorem harmless_windowJson_iff {window : Window} (safe : SafeWindow window) :
    (∀ text ∈ (windowJson window : Value Hertz).texts, Harmless isPresentationSafe text) ↔
      Harmless isPresentationSafe window.id := by
  have texts (text : String) : text ∈ (windowJson window : Value Hertz).texts ↔ text = window.id ∨
      text ∈ (optionalJson window.appId : Value Hertz).texts ∨
      text ∈ (optionalJson window.windowClass : Value Hertz).texts ∨
      text ∈ (optionalJson window.title : Value Hertz).texts := by
    rw [windowJson, Value.texts, mem_fieldTexts_ofFields (by simp)]
    simp [fieldTexts, Value.texts]
  simp only [texts]
  constructor
  · exact fun all => all window.id (.inl rfl)
  · rintro harmless text (rfl | member | member | member)
    · exact harmless
    · exact harmless_of_optional safe.appId text member
    · exact harmless_of_optional safe.windowClass text member
    · exact harmless_of_optional safe.title text member

theorem keys_displayJson (display : ShownDisplay Hertz) :
    ∀ key ∈ (displayJson display).keys, Harmless isPresentationSafe key := by
  intro key member
  rw [displayJson, Value.keys, mem_fieldKeys_ofFields (by simp)] at member
  simp only [fieldKeys, Value.keys, List.append_nil, List.cons_append, List.nil_append, List.mem_cons,
    List.not_mem_nil, or_false] at member
  rcases member with rfl | rfl | rfl | rfl | rfl | rfl <;> exact harmless_name _ (by decide)

theorem keys_workspaceJson (workspace : Workspace) :
    ∀ key ∈ (workspaceJson workspace : Value Hertz).keys, Harmless isPresentationSafe key := by
  intro key member
  rw [workspaceJson, Value.keys, mem_fieldKeys_ofFields (by simp)] at member
  simp only [fieldKeys, Value.keys, optionalJson_keys, List.append_nil, List.cons_append,
    List.nil_append, List.mem_cons, List.not_mem_nil, or_false] at member
  rcases member with rfl | rfl | rfl | rfl | rfl <;> exact harmless_name _ (by decide)

theorem keys_windowJson (window : Window) :
    ∀ key ∈ (windowJson window : Value Hertz).keys, Harmless isPresentationSafe key := by
  intro key member
  rw [windowJson, Value.keys, mem_fieldKeys_ofFields (by simp)] at member
  simp only [fieldKeys, Value.keys, optionalJson_keys, List.append_nil, List.cons_append,
    List.nil_append, List.mem_cons, List.not_mem_nil, or_false] at member
  rcases member with rfl | rfl | rfl | rfl | rfl | rfl <;> exact harmless_name _ (by decide)

theorem keys_nodeJson (node : NodeInfoResponse) :
    ∀ key ∈ (nodeJson node : Value Hertz).keys, Harmless isPresentationSafe key := by
  have texts : itemKeys (node.capabilities.map (@Value.string Hertz)) = [] := by
    rw [itemKeys_eq, List.flatMap_map]
    exact List.flatMap_eq_nil_iff.mpr fun _ _ => rfl
  intro key member
  rw [nodeJson, Value.keys, mem_fieldKeys_ofFields (by simp)] at member
  simp only [fieldKeys, Value.keys, texts, List.append_nil, List.cons_append, List.nil_append,
    List.mem_cons, List.not_mem_nil, or_false] at member
  rcases member with rfl | rfl | rfl | rfl | rfl <;> exact harmless_name _ (by decide)

/-! ### What each command prints -/

/-- A character of a number. -/
def isNumberChar (c : Char) : Bool := c.isAlphanum || c == '.' || c == '-' || c == '+'

/-- Rates are written as numbers are. -/
structure Rates.Numeric (rates : Rates Hertz) : Prop where
  line : ∀ rate, ∀ c ∈ (rates.line rate).toList, isNumberChar c = true
  json : ∀ rate, ∀ c ∈ (rates.json rate).toList, isNumberChar c = true

theorem safe_of_isNumberChar {c : Char} (number : isNumberChar c = true) :
    isPresentationSafe c = true := by
  have bounds : 32 ≤ c.toNat ∧ c.toNat < 127 := by
    simp only [isNumberChar, Bool.or_eq_true, isAlphanum_iff, beq_iff_eq] at number
    obtain ((alphanumeric | rfl) | rfl) | rfl := number
    · omega
    · decide
    · decide
    · decide
  exact safe_of_ascii c bounds.1 bounds.2

section Commands

variable {rates : Rates Hertz} (numeric : rates.Numeric) {responses : Responses Hertz}

include numeric

theorem shows_printJson {fields : List (String × Value Hertz)}
    (keys : ∀ key ∈ fieldKeys fields, Harmless isPresentationSafe key)
    (fresh : "schema" ∉ fields.map Prod.fst) :
    Shows responses (printJson rates (.object fields))
      (∀ text ∈ fieldTexts fields, Harmless isPresentationSafe text) := by
  refine shows_printLine ?_
  have written : ∀ rate, ∀ c ∈ (rates.json rate).toList, isPresentationSafe c = true :=
    fun rate c member => safe_of_isNumberChar (numeric.json rate c member)
  rw [clean_pretty_iff safe_of_ascii written 0 _ fun key member => ?_]
  · simp only [Value.texts, mem_fieldTexts_insertField fresh, List.not_mem_nil, false_or]
  · rw [Value.keys, mem_fieldKeys_insertField fresh] at member
    rcases member with rfl | none | member
    · exact harmless_name _ (by decide)
    · exact absurd none List.not_mem_nil
    · exact keys key member

/-- A document of fields in any order. -/
theorem shows_document {fields : List (String × Value Hertz)}
    (distinct : (fields.map Prod.fst).Nodup) (fresh : "schema" ∉ fields.map Prod.fst)
    (keys : ∀ key ∈ fieldKeys fields, Harmless isPresentationSafe key) :
    Shows responses (printJson rates (.object (ofFields fields)))
      (∀ text ∈ fieldTexts fields, Harmless isPresentationSafe text) := by
  have unused : "schema" ∉ (ofFields fields).map Prod.fst := by
    rwa [((ofFields_perm distinct).map Prod.fst).mem_iff]
  have sorted : Shows responses (printJson rates (.object (ofFields fields)))
      (∀ text ∈ fieldTexts (ofFields fields), Harmless isPresentationSafe text) :=
    shows_printJson numeric
      (fun key member => keys key ((mem_fieldKeys_ofFields distinct).mp member)) unused
  simpa only [mem_fieldTexts_ofFields distinct] using sorted

/-- A document with one list. -/
theorem shows_list {α : Type} {name : String} {items : List α} {toJson : α → Value Hertz}
    (plain : Harmless isPresentationSafe name) (fresh : name ≠ "schema")
    (keys : ∀ item, ∀ key ∈ (toJson item).keys, Harmless isPresentationSafe key) :
    Shows responses (printJson rates (.object (ofFields [(name, .array (items.map toJson))])))
      (∀ item ∈ items, ∀ text ∈ (toJson item).texts, Harmless isPresentationSafe text) := by
  have plainKeys : ∀ key ∈ fieldKeys [(name, Value.array (items.map toJson))],
      Harmless isPresentationSafe key := by
    intro key member
    have inside : key = name ∨ ∃ item ∈ items, key ∈ (toJson item).keys := by
      simpa [fieldKeys, Value.keys, itemKeys_eq] using member
    rcases inside with rfl | ⟨item, _, inner⟩
    · exact plain
    · exact keys item key inner
  have same : (∀ text ∈ fieldTexts [(name, Value.array (items.map toJson))],
      Harmless isPresentationSafe text) ↔
        ∀ item ∈ items, ∀ text ∈ (toJson item).texts, Harmless isPresentationSafe text := by
    simp only [fieldTexts, Value.texts, itemTexts_eq, List.flatMap_map, List.append_nil,
      List.mem_flatMap]
    exact ⟨fun all item member text listed => all text ⟨item, member, listed⟩,
      fun all text ⟨item, member, listed⟩ => all item member text listed⟩
  rw [← same]
  exact shows_document numeric (by simp) (by simpa using fresh.symm) plainKeys

theorem clean_modePieces (display : ShownDisplay Hertz) :
    Clean isPresentationSafe (modePieces rates display) := by
  have rate : (Piece.given (rates.line display.refreshHz)).Clean isPresentationSafe :=
    fun c member => safe_of_isNumberChar (numeric.line _ c member)
  have times : (Piece.own "x").Clean isPresentationSafe := clean_literal (by decide)
  have sign : (Piece.own "@").Clean isPresentationSafe := clean_literal (by decide)
  simp only [modePieces, clean_cons, clean_nil, clean_natural, times, sign, rate, and_self]

theorem lists_info {target : String} {json : Bool} :
    Lists responses (info rates target json) True := by
  refine lists_resolved fun endpoint => lists_required fun node answered =>
    lists_required fun displays listed => Shows.lists ?_
  obtain ⟨given, _, rfl⟩ := Platform.map_ok listed
  have safe := Platform.safe_nodeInfo answered
  have safeDisplay : ∀ display ∈ given.map Platform.sanitizeDisplay, SafeDisplay display :=
    List.forall_mem_map.mpr fun display _ => Platform.safe_sanitizeDisplay display
  cases json with
  | true =>
      have texts : ∀ text ∈ fieldTexts [("node", nodeJson node), ("displays", Value.array
          ((given.map Platform.sanitizeDisplay).map displayJson))],
            Harmless isPresentationSafe text := by
        intro text member
        have inside : text ∈ (nodeJson node : Value Hertz).texts ∨
            ∃ display ∈ given.map Platform.sanitizeDisplay, text ∈ (displayJson display).texts := by
          simpa [fieldTexts, Value.texts, itemTexts_eq] using member
        rcases inside with inner | ⟨display, shown, inner⟩
        · exact harmless_nodeJson safe text inner
        · exact harmless_displayJson (safeDisplay display shown) text inner
      have plainKeys : ∀ key ∈ fieldKeys [("node", nodeJson node), ("displays", Value.array
          ((given.map Platform.sanitizeDisplay).map displayJson))],
            Harmless isPresentationSafe key := by
        intro key member
        have inside : key = "node" ∨ key ∈ (nodeJson node : Value Hertz).keys ∨ key = "displays" ∨
            ∃ display ∈ given.map Platform.sanitizeDisplay, key ∈ (displayJson display).keys := by
          simpa [fieldKeys, Value.keys, itemKeys_eq] using member
        rcases inside with rfl | inner | rfl | ⟨display, _, inner⟩
        · exact harmless_name "node" (by decide)
        · exact keys_nodeJson node key inner
        · exact harmless_name "displays" (by decide)
        · exact keys_displayJson display key inner
      rw [← iff_true_intro texts]
      exact shows_document numeric (by simp) (by simp) plainKeys
  | false =>
      have blank : (Piece.own " ").Clean isPresentationSafe := clean_literal (by decide)
      have opened : (Piece.own " (").Clean isPresentationSafe := clean_literal (by decide)
      have closed : (Piece.own ")").Clean isPresentationSafe := clean_literal (by decide)
      have omarchy : (Piece.own "Omarchy ").Clean isPresentationSafe := clean_literal (by decide)
      have agent : (Piece.own "  ·  agent ").Clean isPresentationSafe := clean_literal (by decide)
      have first : Shows responses (printLine [.given node.hostname, .own " (", .given node.nodeId,
          .own ")"]) True := by
        refine shows_printLine (iff_true_intro ?_)
        simp only [clean_cons, clean_nil, opened, closed, true_and, and_true]
        exact ⟨safe.hostname, safe.nodeId⟩
      have second : Shows responses (printLine [.own "Omarchy ", .given node.omarchyVersion,
          .own "  ·  agent ", .given node.agentVersion]) True := by
        refine shows_printLine (iff_true_intro ?_)
        simp only [clean_cons, clean_nil, omarchy, agent, true_and, and_true]
        exact ⟨safe.omarchyVersion, safe.agentVersion⟩
      have rest : Shows responses ((given.map Platform.sanitizeDisplay).forM fun display =>
          printLine (.given display.id :: .own " " :: modePieces rates display)) True := by
        refine shows_lines fun display member => ?_
        simp only [clean_cons, blank, clean_modePieces numeric, and_true]
        exact (safeDisplay display member).id
      simpa using shows_bind first (shows_bind second rest)

theorem lists_displays {target : String} {json : Bool} :
    Lists responses (displays rates target json) True := by
  refine lists_resolved fun endpoint => lists_required fun displays listed => Shows.lists ?_
  obtain ⟨given, _, rfl⟩ := Platform.map_ok listed
  have safe : ∀ display ∈ given.map Platform.sanitizeDisplay, SafeDisplay display :=
    List.forall_mem_map.mpr fun display _ => Platform.safe_sanitizeDisplay display
  cases json with
  | true =>
      rw [← iff_true_intro fun display member => harmless_displayJson (safe display member)]
      exact shows_list numeric (harmless_name "displays" (by decide)) (by decide) keys_displayJson
  | false =>
      refine shows_lines fun display member => ?_
      have blank : (Piece.own " ").Clean isPresentationSafe := clean_literal (by decide)
      have dot : (Piece.own "●").Clean isPresentationSafe := clean_literal (by decide)
      have tab : (Piece.own "\t").Clean isPresentationSafe := clean_literal (by decide)
      have marker : (Piece.own (if display.focused then "●" else " ")).Clean isPresentationSafe := by
        split
        · exact dot
        · exact blank
      simp only [clean_cons, marker, blank, tab, clean_modePieces numeric, and_true, true_and]
      exact (safe display member).id

theorem lists_workspaces {target : String} {json : Bool} :
    Lists responses (workspaces rates target json) True := by
  refine lists_resolved fun endpoint => lists_required fun workspaces listed => lists_optional
    (Shows.lists ?_)
  obtain ⟨given, _, rfl⟩ := Platform.map_ok listed
  have safe : ∀ workspace ∈ given.map Platform.sanitizeWorkspace, SafeWorkspace workspace :=
    List.forall_mem_map.mpr fun workspace _ => Platform.safe_sanitizeWorkspace workspace
  have safeWindow : ∀ window ∈ (Platform.windows (responses .windows)).toOption.getD [],
      SafeWindow window := by
    cases answered : Platform.windows (responses .windows) with
    | error error => exact fun _ member => absurd member List.not_mem_nil
    | ok windows =>
        obtain ⟨all, _, rfl⟩ := Platform.map_ok answered
        exact List.forall_mem_map.mpr fun window _ => Platform.safe_sanitizeWindow window
  cases json with
  | true =>
      rw [← iff_true_intro fun workspace member => harmless_workspaceJson (safe workspace member)]
      exact shows_list numeric (harmless_name "workspaces" (by decide)) (by decide)
        keys_workspaceJson
  | false =>
      have gap : (Piece.own "  ").Clean isPresentationSafe := clean_literal (by decide)
      have margin : (Piece.own "   ").Clean isPresentationSafe := clean_literal (by decide)
      have each : ∀ workspace ∈ given.map Platform.sanitizeWorkspace, Shows responses (do
          printLine [.given (toString workspace.id), .own "  ", orDash workspace.name]
          ((((Platform.windows (responses .windows)).toOption.getD []).filter fun window =>
            window.workspace == workspace.id).forM fun window =>
              printLine [.own "   ", orDash (windowLabel window)])) True := by
        intro workspace member
        have heading : Shows responses (printLine [.given (toString workspace.id), .own "  ",
            orDash workspace.name]) True := by
          refine shows_printLine (iff_true_intro ?_)
          have number := clean_integer safe_of_ascii workspace.id
          have name := clean_orDash (safe workspace member).name
          simp only [clean_cons, clean_nil, number, gap, name, and_self]
        have inside : Shows responses ((((Platform.windows (responses .windows)).toOption.getD
            []).filter fun window => window.workspace == workspace.id).forM fun window =>
              printLine [.own "   ", orDash (windowLabel window)]) True := by
          refine shows_lines fun window listed => ?_
          have texts := safeWindow window (List.mem_filter.mp listed).1
          have label := clean_orDash (safe_or (safe_or texts.title texts.appId) texts.windowClass)
          simp only [windowLabel, clean_cons, clean_nil, margin, label, and_self]
        simpa using shows_bind heading inside
      simpa using shows_forM each

/-- **The list of windows** is clean as lines, and as a document exactly when the identifiers in it do
no harm. -/
theorem lists_windows {target : String} {workspace : Option Int} {appId : Option String}
    {json : Bool} :
    Lists responses (windows rates target workspace appId json) (json = true →
      ∀ given, responses .windows = .ok given → ∀ window ∈ given,
        isListed workspace appId (Platform.sanitizeWindow window) = true →
          Harmless isPresentationSafe window.id) := by
  refine lists_resolved fun endpoint => lists_required fun all listed => Shows.lists ?_
  obtain ⟨given, answered, rfl⟩ := Platform.map_ok listed
  cases json with
  | true =>
      have same : (∀ window ∈ (given.map Platform.sanitizeWindow).filter (isListed workspace appId),
          ∀ text ∈ (windowJson window : Value Hertz).texts, Harmless isPresentationSafe text) ↔
            (true = true → ∀ listed, responses .windows = .ok listed → ∀ window ∈ listed,
              isListed workspace appId (Platform.sanitizeWindow window) = true →
                Harmless isPresentationSafe window.id) := by
        simp only [List.mem_filter, and_imp, List.forall_mem_map, answered, Except.ok.injEq,
          forall_eq', forall_const]
        refine forall₂_congr fun window _ => forall_congr' fun _ => ?_
        exact harmless_windowJson_iff (Platform.safe_sanitizeWindow window)
      rw [← same]
      exact shows_list numeric (harmless_name "windows" (by decide)) (by decide) keys_windowJson
  | false =>
      have tab : (Piece.own "\t").Clean isPresentationSafe := clean_literal (by decide)
      have heading : Shows responses (printLine [.own "WORKSPACE\tAPP\tTITLE"]) True := by
        have columns : (Piece.own "WORKSPACE\tAPP\tTITLE").Clean isPresentationSafe :=
          clean_literal (by decide)
        exact shows_printLine (iff_true_intro (by simp only [clean_cons, clean_nil, columns, and_self]))
      have rest : Shows responses (((given.map Platform.sanitizeWindow).filter
          (isListed workspace appId)).forM fun window =>
            printLine [.given (toString window.workspace), .own "\t",
              orDash (window.appId.or window.windowClass), .own "\t", orDash window.title]) True := by
        refine shows_lines fun window member => ?_
        obtain ⟨original, _, rfl⟩ := List.mem_map.mp (List.mem_filter.mp member).1
        have texts := Platform.safe_sanitizeWindow original
        have number := clean_integer safe_of_ascii (Platform.sanitizeWindow original).workspace
        have app := clean_orDash (safe_or texts.appId texts.windowClass)
        have title := clean_orDash texts.title
        simp only [clean_cons, clean_nil, number, tab, app, title, and_self]
      simpa using shows_bind heading rest

end Commands

/-! ### What a hostile agent can make a command print -/

/-- The command does not list windows as JSON, or no identifier it lists has a control character above
the escaped ones or an invisible one. -/
def ListsPlainIds (responses : Responses Hertz) (command : ShowCommand) : Prop :=
  ∀ target workspace appId, command = .windows target workspace appId true →
    ∀ given, responses .windows = .ok given → ∀ window ∈ given,
      isListed workspace appId (Platform.sanitizeWindow window) = true →
        Harmless isPresentationSafe window.id

/-- **Nothing an agent says drives the terminal** exactly when no window identifier does. A command
that fails prints nothing. -/
theorem clean_show_iff {rates : Rates Hertz} (numeric : rates.Numeric) {responses : Responses Hertz}
    {command : ShowCommand} {result : Except CliError Unit} {screen : List Piece}
    (run : Ends (showWorld responses) (command.program rates).run [] result screen) :
    (∃ error, result = .error error ∧ screen = []) ∨
      result = .ok () ∧ (Clean isPresentationSafe screen ↔ ListsPlainIds responses command) := by
  have other (notWindows : ∀ target workspace appId, command ≠ .windows target workspace appId true)
      (lists : Lists responses (command.program rates) True) :
      Lists responses (command.program rates) (ListsPlainIds responses command) := by
    have plain : ListsPlainIds responses command := fun target workspace appId same =>
      absurd same (notWindows target workspace appId)
    rwa [iff_true_intro plain]
  have lists : Lists responses (command.program rates) (ListsPlainIds responses command) := by
    cases command with
    | info target json => exact other (by simp) (lists_info numeric)
    | displays target json => exact other (by simp) (lists_displays numeric)
    | workspaces target json => exact other (by simp) (lists_workspaces numeric)
    | windows target workspace appId json =>
        have listed : Lists responses (windows rates target workspace appId json) _ :=
          lists_windows numeric
        refine fun result screen run => (listed result screen run).imp_right fun ⟨returned, exact⟩ =>
          ⟨returned, exact.trans ?_⟩
        simp [ListsPlainIds]
  exact lists result screen run

/-- Rates that are whole numbers. -/
private def wholeRates : Rates Nat where
  line rate := toString rate
  json rate := toString rate ++ ".0"

private theorem numeric_wholeRates : wholeRates.Numeric := by
  have digits (rate : Nat) : ∀ c ∈ (toString rate).toList, isNumberChar c = true := fun c member => by
    simp [isNumberChar, isAlphanum_of_mem_toString rate c member]
  refine ⟨digits, fun rate c member => ?_⟩
  rcases List.mem_append.mp (String.toList_append ▸ member) with digit | zero
  · exact digits rate c digit
  · exact List.all_eq_true.mp (by decide : ".0".toList.all isNumberChar = true) c zero

/-- An agent with one window. -/
private def oneWindow (id : String) : Responses Nat
  | .node => .ok ⟨"nDevice", "desk-b", "4.0", release, []⟩
  | .displays => .ok []
  | .workspaces => .ok []
  | .windows => .ok [⟨id, some "foot", none, some "shell", 1, true⟩]

/-- A device of the tailnet. -/
private def deskB : MeshPeer :=
  ⟨"nDevice", none, some "desk-b", [.v4 100 64 0 2], true, .direct, none⟩

/-- A configuration without devices of its own. -/
private def noDevices : Config := ⟨∅, 47991⟩

private theorem resolves : ∃ trace, Traces (resolveEndpoint "desk-b").run trace
    (.ok ⟨.v4 100 64 0 2, 47991⟩) := by
  have found : findPeer [deskB] (noDevices.nameOf "desk-b") = .ok deskB := by decide
  refine ⟨[⟨.loadConfig, .ok noDevices⟩, ⟨.loadConfig, .ok noDevices⟩, ⟨.peers, .ok [deskB]⟩],
    .ok noDevices, _, rfl, .ok noDevices, _, rfl, .ok [deskB], _, rfl, ?_⟩
  dsimp only [Program.bind, Function.comp_apply, Except.mapError, ExceptT.bindCont]
  rw [found]
  exact ⟨rfl, rfl⟩

/-- The window is listed as JSON. -/
private theorem lists_oneWindow (id : String) : ∃ screen,
    Ends (showWorld (oneWindow id))
      ((ShowCommand.windows "desk-b" none none true).program wholeRates).run [] (.ok ()) screen := by
  refine Exists.imp (fun screen run => ends_ask.mpr ⟨.ok ⟨.v4 100 64 0 2, 47991⟩, [],
    ⟨resolves, rfl⟩, run⟩) ?_
  refine Exists.imp (fun screen run => ends_ask.mpr ⟨_, [], ⟨rfl, rfl⟩, run⟩) ?_
  exact ⟨_, ends_ask.mpr ⟨(), _, rfl, ends_done.mpr ⟨rfl, rfl⟩⟩⟩

/-- A window with an ordinary identifier is listed cleanly. -/
theorem clean_show_iff_plain : ∃ screen, Ends (showWorld (oneWindow "0x55"))
    ((ShowCommand.windows "desk-b" none none true).program wholeRates).run [] (.ok ()) screen ∧
      Clean isPresentationSafe screen := by
  obtain ⟨screen, run⟩ := lists_oneWindow "0x55"
  obtain ⟨_, ⟨⟩, _⟩ | ⟨_, exact⟩ := clean_show_iff numeric_wholeRates run
  refine ⟨screen, run, exact.mpr ?_⟩
  rintro _ _ _ _ given ⟨⟩ window member _
  obtain rfl := List.mem_singleton.mp member
  exact harmless_name _ (by decide)

/-- **An identifier is printed as it comes**: here with the character that begins a control sequence. -/
theorem windows_json_control : ¬ ∀ (responses : Responses Nat) (command : ShowCommand)
    (screen : List Piece),
    Ends (showWorld responses) (command.program wholeRates).run [] (.ok ()) screen →
      Clean isPresentationSafe screen := by
  intro claim
  obtain ⟨screen, run⟩ := lists_oneWindow "0x55\u009b2J"
  obtain ⟨_, ⟨⟩, _⟩ | ⟨_, exact⟩ := lists_windows numeric_wholeRates _ _ run
  have harmless := exact.mp (claim _ _ _ run) rfl _ rfl _ List.mem_cons_self rfl
  exact absurd (harmless '\u009b' (by decide)) (by decide)

end Omdesky.Cli
