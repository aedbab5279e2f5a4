/-
**`omdesky command` (`omdesky-cli/src/main.rs`).**

* `readArguments`: the options and the operands of a command line, as its parser reads them.
* `CommandAction.parse`, `remoteCommand`: the command, from its words to what it sends.
* `uses_remoteCommand`: the command that is sent acts on the window of the options.
-/

import Omdesky.Cli.Access
import Omdesky.Platform.Input
import Omdesky.Shell.Words

namespace Omdesky.Cli

open Application Interaction Interaction.Program Platform

/-! ### The words of a command -/

/-- What stands on a command line: options with their values, and operands. -/
structure Arguments where
  options : List (String × String)
  operands : List String

/-- One more option. -/
def Arguments.addOption (name value : String) (arguments : Arguments) : Arguments :=
  { arguments with options := (name, value) :: arguments.options }

/-- One more operand. -/
def Arguments.addOperand (operand : String) (arguments : Arguments) : Arguments :=
  { arguments with operands := operand :: arguments.operands }

/-- The word looks like an option. -/
def isFlag (word : String) : Bool := word.toList.head? == some '-' && 1 < word.length

/-- A long option, and the value in the same word. -/
def longOption (word : String) : Option (String × Option String) :=
  match word.toList with
  | '-' :: '-' :: option =>
      let value := option.dropWhile (· != '=')
      some (String.ofList (option.takeWhile (· != '=')), value.tail?.map String.ofList)
  | _ => none

/-- The arguments of a command with these options, all of which take a value. The pending option is
the one whose value comes next. -/
def readArguments (known : List String) : (pending : Option String) → List String → Option Arguments
  | none, [] => some { options := [], operands := [] }
  | some _, [] => none
  | some name, value :: rest =>
      if isFlag value then none else (·.addOption name value) <$> readArguments known none rest
  | none, word :: rest =>
      match longOption word with
      | some (name, value) =>
          if word = "--" then some { options := [], operands := rest }
          else if known.contains name then
            match value with
            | some value => (·.addOption name value) <$> readArguments known none rest
            | none => readArguments known (some name) rest
          else none
      | none =>
          if isFlag word then none else (·.addOperand word) <$> readArguments known none rest

/-- The values of an option. -/
def Arguments.values (arguments : Arguments) (name : String) : List String :=
  (arguments.options.filter fun option => option.1 == name).map Prod.snd

/-- An option that may be there once. -/
def Arguments.single (arguments : Arguments) (name : String) : Option (Option String) :=
  match arguments.values name with
  | [] => some none
  | [value] => some (some value)
  | _ => none

/-- The one operand. -/
def Arguments.operand (arguments : Arguments) : Option String :=
  match arguments.operands with
  | [operand] => some operand
  | _ => none

/-- `str::parse::<u16>`. -/
def parsePort (text : String) : Option UInt16 :=
  let digits := if text.toList.head? = some '+' then text.toList.tail else text.toList
  if digits.isEmpty || !digits.all Char.isDigit then none
  else
    let value := Nat.ofDigitChars 10 digits 0
    if value < UInt16.size then some (UInt16.ofNat value) else none

/-- The port of the options. -/
def Arguments.port (arguments : Arguments) : Option (Option UInt16) := do
  match ← arguments.single "port" with
  | none => return none
  | some text => return some (← parsePort text)

/-- The window of the options: a class or an address, but not both. -/
def Arguments.window (arguments : Arguments) : Option (Option String × Option String) := do
  match ← arguments.single "window-class", ← arguments.single "window-address" with
  | some _, some _ => none
  | windowClass, windowAddress => return (windowClass, windowAddress)

/-- `CommandAction`. -/
inductive CommandAction
  | sendShortcut (target mods key : String) (windowClass windowAddress : Option String)
      (port : Option UInt16)
  | closeWindow (target : String) (windowClass windowAddress : Option String) (port : Option UInt16)
  | switchDisplay (target display : String) (port : Option UInt16)
  deriving DecidableEq, Repr

/-- The action of the words after `omdesky command`. -/
def CommandAction.parse : List String → Option CommandAction
  | "send-shortcut" :: words => do
      let arguments ←
        readArguments ["mods", "key", "window-class", "window-address", "port"] none words
      let target ← arguments.operand
      let mods ← ← arguments.single "mods"
      let key ← ← arguments.single "key"
      let (windowClass, windowAddress) ← arguments.window
      return .sendShortcut target mods key windowClass windowAddress (← arguments.port)
  | "close-window" :: words => do
      let arguments ← readArguments ["window-class", "window-address", "port"] none words
      let target ← arguments.operand
      let (windowClass, windowAddress) ← arguments.window
      return .closeWindow target windowClass windowAddress (← arguments.port)
  | "switch-display" :: words => do
      let arguments ← readArguments ["display", "port"] none words
      let target ← arguments.operand
      let display ← ← arguments.single "display"
      return .switchDisplay target display (← arguments.port)
  | _ => none

/-! ### The command -/

/-- One modifier of `parse_modifiers`. -/
def parseModifier (token : String) : Except CliError KeyModifier :=
  match String.ofList (token.toList.map Char.toLower) with
  | "super" | "win" | "meta" | "mod" => .ok .super
  | "ctrl" | "control" => .ok .ctrl
  | "alt" => .ok .alt
  | "shift" => .ok .shift
  | other => .error (.text ("unknown modifier: " ++ other))

/-- `parse_modifiers`. -/
def parseModifiers (input : String) : Except CliError (List KeyModifier) :=
  let pieces := input.toList.splitOnP fun c => c == '+' || c == ' ' || c == ','
  let tokens := pieces.map fun piece => trim (String.ofList piece)
  (tokens.filter fun token => !token.isEmpty).mapM parseModifier

/-- `window_selector`. -/
def windowSelector : Option String → Option String → WindowSelector
  | _, some value => .address value
  | some name, none => .byClass name
  | none, none => .activeWindow

/-- `.context(message)?`, or an error as it is. -/
def orElse {ε α : Type} (convert : ε → CliError) (result : Except ε α) : CliA α :=
  ExceptT.mk (.done (result.mapError convert))

/-- `resolve_endpoint`. -/
def resolveEndpoint (target : String) : CliA AgentEndpoint := do
  let config ← orText (ask .loadConfig)
  let peer ← resolvePeer target
  if peer.online then
    match (peer.ips.find? IpAddr.isIpv4).or peer.ips.head? with
    | some address => return { address, port := config.agentPort }
    | none => throw (.text (displayName peer ++ " has no Tailscale address"))
  else throw (.text (displayName peer ++ " is offline in Tailscale"))

/-- The endpoint of a command: an address with a port, or a device by its name. -/
def endpointOf (target : String) (port : Option UInt16) : CliA AgentEndpoint :=
  match IpAddr.parse target, port with
  | some address, some port => return { address, port }
  | _, _ => resolveEndpoint target

/-- The end of every branch of `remote_command`. -/
def sendCommand (endpoint : AgentEndpoint) (command : RemoteCommand) : CliA Unit := do
  orElse (fun _ => .text "invalid command") command.validate
  let _ ← orPort (ask (.sendCommand endpoint command))
  println "ok"

/-- `remote_command`. -/
def remoteCommand (action : CommandAction) : CliA Unit := do
  match action with
  | .sendShortcut target mods key windowClass windowAddress port =>
      let endpoint ← endpointOf target port
      let modifiers ← orElse id (parseModifiers mods)
      let chord ← orElse (fun _ => .text "invalid key chord") (KeyChord.new modifiers key)
      sendCommand endpoint (.sendShortcut chord (windowSelector windowClass windowAddress))
  | .closeWindow target windowClass windowAddress port =>
      let endpoint ← endpointOf target port
      sendCommand endpoint (.closeWindow (windowSelector windowClass windowAddress))
  | .switchDisplay target display port =>
      let endpoint ← endpointOf target port
      sendCommand endpoint (.switchStreamDisplay ⟨display⟩)

/-! ### What a command sends -/

/-- The window an action is for, if it is for one. -/
def CommandAction.window : CommandAction → Option WindowSelector
  | .sendShortcut _ _ _ windowClass windowAddress _ => some (windowSelector windowClass windowAddress)
  | .closeWindow _ windowClass windowAddress _ => some (windowSelector windowClass windowAddress)
  | .switchDisplay _ _ _ => none

/-- What a call sends is for this window. -/
def SendsFor (window : Option WindowSelector) (call : CliCall) : Prop :=
  ∀ endpoint command, call = .sendCommand endpoint command → windowOf command = window

section Sends

variable {window : Option WindowSelector}

theorem uses_orElse {ε α : Type} {permitted : CliCall → Prop} {convert : ε → CliError}
    {result : Except ε α} : Uses permitted (orElse convert result).run := trivial

/-- Finding the endpoint sends nothing. -/
theorem uses_endpointOf (target : String) (port : Option UInt16) :
    Uses (SendsFor window) (endpointOf target port).run := by
  have resolves : Uses (SendsFor window) (resolveEndpoint target).run := by
    refine uses_run_bind ⟨nofun, fun _ => trivial⟩ fun config => ?_
    refine uses_run_bind ?_ fun peer => ?_
    · refine uses_run_bind ⟨nofun, fun _ => trivial⟩ fun config => ?_
      refine uses_run_bind ⟨nofun, fun _ => trivial⟩ fun peers => ?_
      split <;> exact trivial
    · split
      · split <;> exact trivial
      · exact trivial
  unfold endpointOf
  split
  · exact trivial
  · exact resolves

theorem uses_sendCommand {endpoint : AgentEndpoint} {command : RemoteCommand}
    (acts : windowOf command = window) : Uses (SendsFor window) (sendCommand endpoint command).run := by
  refine uses_run_bind uses_orElse fun _ => uses_run_bind ⟨?_, fun _ => trivial⟩ fun _ =>
    ⟨nofun, fun _ => trivial⟩
  rintro _ _ ⟨⟩
  exact acts

/-- **A command sends** what is for the window of its options. -/
theorem uses_remoteCommand (action : CommandAction) :
    Uses (SendsFor action.window) (remoteCommand action).run := by
  unfold remoteCommand
  cases action with
  | sendShortcut target mods key windowClass windowAddress port =>
      refine uses_run_bind (uses_endpointOf target port) fun endpoint => ?_
      refine uses_run_bind uses_orElse fun modifiers => ?_
      exact uses_run_bind uses_orElse fun chord => uses_sendCommand rfl
  | closeWindow target windowClass windowAddress port =>
      exact uses_run_bind (uses_endpointOf target port) fun endpoint => uses_sendCommand rfl
  | switchDisplay target display port =>
      exact uses_run_bind (uses_endpointOf target port) fun endpoint => uses_sendCommand rfl

end Sends

end Omdesky.Cli
