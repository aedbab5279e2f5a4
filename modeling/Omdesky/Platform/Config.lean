/-
**The configuration, and what the terminal interface saves of it (`omdesky-platform/src/config.rs`,
`omdesky-tui/src/lib.rs`).**

* `Config.load`, `Config.save`: the file, and the environment variable that overrides its port.
* `saveStreamProfile`, `saveDisplayMode`: the settings of the terminal interface.
* `Toml.Faithful`: a configuration is parsed back from its text.
* `kept_iff`: **saving a setting touches only that setting, unless the environment overrides the
  port**, which is then written to the file.
-/

import Omdesky.Ports
import Omdesky.Text.Split

namespace Omdesky.Platform

/-! ### Values -/

/-- `DisplayMode`. -/
inductive DisplayMode
  | followFocus
  deriving DecidableEq, Repr

/-- `NetworkConfig`. -/
structure NetworkConfig where
  agentPort : UInt16
  strictTailnetOnly : Bool
  allowUnsafeWildcardBind : Bool
  deriving DecidableEq, Repr

/-- `StreamConfig`. -/
structure StreamConfig where
  width : Nat
  height : Nat
  fps : Nat
  codec : CodecPreference
  audio : Bool
  bitrateMbps : Nat
  deriving DecidableEq, Repr

/-- `DisplayConfig`. -/
structure DisplayConfig where
  mode : DisplayMode
  deriving DecidableEq, Repr

/-- `DeviceConfig`. -/
structure DeviceConfig where
  aliasName : Option String
  deriving DecidableEq, Repr

/-- `Config`. The devices are in the order of their names. -/
structure Config where
  network : NetworkConfig
  stream : StreamConfig
  display : DisplayConfig
  devices : List (String × DeviceConfig)
  deriving DecidableEq, Repr

/-- `DEFAULT_AGENT_PORT`. -/
def defaultAgentPort : UInt16 := 48155

/-- `MAX_CONFIG_BYTES`. -/
def maxConfigBytes : Nat := 256 * 1024

/-- `Config::default`. -/
def Config.default : Config where
  network :=
    { agentPort := defaultAgentPort, strictTailnetOnly := true, allowUnsafeWildcardBind := false }
  stream :=
    { width := 1920, height := 1080, fps := 60, codec := .auto, audio := true, bitrateMbps := 0 }
  display := { mode := .followFocus }
  devices := []

/-- `ConfigError`, as far as loading and saving come to it. -/
inductive ConfigError
  | invalidEnvironment (name : String)
  | tooLarge (limit : Nat)
  | toml (text : String)
  | tomlSerialize (text : String)
  deriving DecidableEq, Repr

/-- The texts of `ConfigError`. -/
def ConfigError.message : ConfigError → String
  | .invalidEnvironment name => "invalid environment variable " ++ name
  | .tooLarge limit => "state file is larger than " ++ toString limit ++ " bytes"
  | .toml text => text
  | .tomlSerialize text => text

/-- The `toml` library: a text as a configuration, and a configuration as a text. -/
structure Toml where
  fromStr : String → Except String Config
  toStringPretty : Config → Except String String

/-- A configuration is written, and parsed back from what is written. -/
def Toml.Faithful (toml : Toml) (config : Config) : Prop :=
  ∃ text, toml.toStringPretty config = .ok text ∧ toml.fromStr text = .ok config

/-! ### The code -/

section Code

variable (toml : Toml) (environment file : Option String)

/-- The file of `Config::load`, or the defaults where there is none. -/
def readConfig : Except ConfigError Config :=
  match file with
  | some contents =>
      if maxConfigBytes < contents.utf8ByteSize then .error (.tooLarge maxConfigBytes)
      else (toml.fromStr contents).mapError .toml
  | none => .ok .default

/-- The configuration with another port. -/
def Config.withPort (config : Config) (port : UInt16) : Config :=
  { config with network := { config.network with agentPort := port } }

/-- `OMDESKY_AGENT_PORT` in front of the port of the file. -/
def overlaid (config : Config) : Except ConfigError Config :=
  match environment with
  | some port =>
      match parseUnsigned UInt16.size port.toList with
      | some port => .ok (config.withPort (UInt16.ofNat port))
      | none => .error (.invalidEnvironment "OMDESKY_AGENT_PORT")
  | none => .ok config

/-- `Config::load`. -/
def Config.load : Except ConfigError Config := do
  overlaid environment (← readConfig toml file)

/-- `Config::save`: what the file holds afterwards. -/
def Config.save (config : Config) : Except ConfigError String :=
  (toml.toStringPretty config).mapError .tomlSerialize

/-- What saving leaves behind: the file, and what the interface shows. -/
structure Saved where
  file : Option String
  notice : Option String
  error : Option String
  deriving DecidableEq, Repr

/-- A change is applied to what is loaded, and saved. -/
def saveSetting (change : Config → Config) (notice failure : String) : Saved :=
  match (do (change (← Config.load toml environment file)).save toml) with
  | .ok text => { file := some text, notice := some notice, error := none }
  | .error error => { file, notice := none, error := some (failure ++ ": " ++ error.message) }

/-- The stream settings of a profile. -/
def streamSection (profile : StreamProfile) : StreamConfig where
  width := profile.width
  height := profile.height
  fps := profile.fps
  codec := profile.codecPreference
  audio := profile.audio
  bitrateMbps := profile.bitrateKbps.getD 0 / 1000

/-- `save_stream_profile`. -/
def saveStreamProfile (profile : StreamProfile) : Saved :=
  saveSetting toml environment file (fun config => { config with stream := streamSection profile })
    "Stream settings saved" "Could not save stream settings"

/-- `save_display_mode`. -/
def saveDisplayMode (mode : DisplayMode) : Saved :=
  saveSetting toml environment file (fun config => { config with display := { mode } })
    "Display mode saved" "Could not save display mode"

end Code

/-! ### Settings -/

/-- A setting that the terminal interface saves. -/
inductive SettingChange
  | stream (profile : StreamProfile)
  | display (mode : DisplayMode)
  deriving DecidableEq, Repr

/-- The configuration with only its own section replaced. -/
def SettingChange.apply (change : SettingChange) (config : Config) : Config :=
  match change with
  | .stream profile => { config with stream := streamSection profile }
  | .display mode => { config with display := { mode } }

/-- The function that saves it. -/
def SettingChange.save (change : SettingChange) (toml : Toml) (environment file : Option String) :
    Saved :=
  match change with
  | .stream profile => saveStreamProfile toml environment file profile
  | .display mode => saveDisplayMode toml environment file mode

theorem SettingChange.network_apply (change : SettingChange) (config : Config) :
    (change.apply config).network = config.network := by
  cases change <;> rfl

/-- A change does not touch the port. -/
theorem SettingChange.apply_port (change : SettingChange) (config : Config) (port : UInt16) :
    change.apply (config.withPort port) = (change.apply config).withPort port := by
  cases change <;> rfl

theorem file_saveSetting (toml : Toml) (environment file : Option String)
    (change : Config → Config) (notice failure : String) :
    (saveSetting toml environment file change notice failure).file =
      match (do (change (← Config.load toml environment file)).save toml) with
      | .ok text => some text
      | .error _ => file := by
  unfold saveSetting
  split <;> rfl

/-- What is left when a change is saved. -/
theorem SettingChange.file_save (change : SettingChange) (toml : Toml)
    (environment file : Option String) :
    (change.save toml environment file).file =
      match (do (change.apply (← Config.load toml environment file)).save toml) with
      | .ok text => some text
      | .error _ => file := by
  cases change with
  | stream profile => exact file_saveSetting toml environment file _ _ _
  | display mode => exact file_saveSetting toml environment file _ _ _

/-! ### The law -/

/-- What a file says: the defaults where there is none. -/
def settings (toml : Toml) (file : Option String) : Option Config :=
  match file with
  | some contents => (toml.fromStr contents).toOption
  | none => some .default

/-- The file can be loaded, and says this. -/
def Valid (toml : Toml) (file : Option String) (before : Config) : Prop :=
  settings toml file = some before ∧ ∀ contents ∈ file, contents.utf8ByteSize ≤ maxConfigBytes

/-- After a change is saved, the file says what it said before, with that section replaced. -/
def Kept (toml : Toml) (environment file : Option String) (before : Config)
    (change : SettingChange) : Prop :=
  settings toml (change.save toml environment file).file = some (change.apply before)

/-- The environment overrides nothing, or the port of the file with itself; or it cannot be read and
there was nothing to change. -/
def Unheeded (environment : Option String) (before : Config) (change : SettingChange) : Prop :=
  match environment with
  | some port =>
      match parseUnsigned UInt16.size port.toList with
      | some port => UInt16.ofNat port = before.network.agentPort
      | none => change.apply before = before
  | none => True

section Law

variable {toml : Toml} {environment file : Option String} {before : Config} {change : SettingChange}

theorem readConfig_of_valid (valid : Valid toml file before) :
    readConfig toml file = .ok before := by
  obtain ⟨said, small⟩ := valid
  cases file with
  | none => exact congrArg Except.ok (Option.some.inj said)
  | some contents =>
      have fits : ¬ maxConfigBytes < contents.utf8ByteSize := Nat.not_lt.mpr (small contents rfl)
      change (toml.fromStr contents).toOption = some before at said
      rw [readConfig, if_neg fits]
      cases parsed : toml.fromStr contents with
      | error text => rw [parsed] at said; cases said
      | ok config =>
          rw [parsed] at said
          obtain rfl := Option.some.inj said
          rfl

theorem load_of_valid (valid : Valid toml file before) :
    Config.load toml environment file = overlaid environment before := by
  rw [Config.load, readConfig_of_valid valid]
  rfl

/-- A configuration that is loaded is what the file says once it is saved. -/
theorem settings_save_of_loaded {loaded : Config}
    (run : Config.load toml environment file = .ok loaded) (faithful : toml.Faithful (change.apply loaded)) :
    settings toml (change.save toml environment file).file = some (change.apply loaded) := by
  obtain ⟨text, written, parsed⟩ := faithful
  have saved : (do (change.apply (← Config.load toml environment file)).save toml) = .ok text := by
    rw [run]
    change (change.apply loaded).save toml = _
    rw [Config.save, written]
    rfl
  rw [change.file_save, saved]
  change (toml.fromStr text).toOption = _
  rw [parsed]
  rfl

theorem file_save_of_refused {error : ConfigError}
    (run : Config.load toml environment file = .error error) :
    (change.save toml environment file).file = file := by
  rw [change.file_save, run]
  rfl

/-- **Saving a setting touches only that setting exactly when the environment is not heeded.** -/
theorem kept_iff (valid : Valid toml file before)
    (faithful : ∀ loaded, overlaid environment before = .ok loaded →
      toml.Faithful (change.apply loaded)) :
    Kept toml environment file before change ↔ Unheeded environment before change := by
  have loaded := @load_of_valid toml environment file before valid
  unfold Kept Unheeded
  cases environment with
  | none =>
      rw [settings_save_of_loaded loaded (faithful before rfl)]
      exact iff_of_true rfl trivial
  | some text =>
      dsimp only
      cases parsed : parseUnsigned UInt16.size text.toList with
      | none =>
          have refused : overlaid (some text) before =
              .error (.invalidEnvironment "OMDESKY_AGENT_PORT") := by
            simp only [overlaid, parsed]
          rw [file_save_of_refused (loaded.trans refused), valid.1]
          exact Option.some_inj.trans eq_comm
      | some port =>
          have accepted : overlaid (some text) before = .ok (before.withPort (UInt16.ofNat port)) := by
            simp only [overlaid, parsed]
          rw [settings_save_of_loaded (loaded.trans accepted) (faithful _ accepted), change.apply_port]
          constructor
          · intro kept
            have ports := congrArg (fun config => config.network.agentPort) (Option.some.inj kept)
            rwa [change.network_apply] at ports
          · intro same
            rw [same, ← change.network_apply before]
            rfl

end Law

/-! ### A file with settings of its own -/

/-- A configuration of somebody's own network and devices. -/
def ownConfig (stream : StreamConfig) : Config where
  network := { agentPort := 50000, strictTailnetOnly := false, allowUnsafeWildcardBind := true }
  stream
  display := { mode := .followFocus }
  devices := [("desk", { aliasName := some "Desk" })]

/-- That configuration, as it is written. -/
def ownText (width height fps codec bitrate : String) : String :=
  "[network]\nagent_port = 50000\nstrict_tailnet_only = false\nallow_unsafe_wildcard_bind = true\n\n" ++
    "[stream]\nwidth = " ++ width ++ "\nheight = " ++ height ++ "\nfps = " ++ fps ++ "\ncodec = \"" ++
    codec ++ "\"\naudio = true\nbitrate_mbps = " ++ bitrate ++ "\n\n[display]\n" ++
    "mode = \"follow-focus\"\n\n[devices.desk]\nalias = \"Desk\"\n"

/-- A profile of a larger screen. -/
def largeProfile : StreamProfile where
  width := 2560
  height := 1440
  fps := 120
  codecPreference := .hevc
  audio := true
  bitrateKbps := some 20000

/-- The file before that profile is saved. -/
def smallText : String := ownText "1920" "1080" "60" "auto" "0"

/-- The file after it. -/
def largeText : String := ownText "2560" "1440" "120" "hevc" "20"

/-- The library, on the files of two configurations. -/
def ownToml (small large : String) : Toml where
  fromStr text :=
    if text = large then .ok (ownConfig (streamSection largeProfile))
    else if text = small then .ok (ownConfig Config.default.stream)
    else .error "neither of the two files"
  toStringPretty config :=
    if config = ownConfig (streamSection largeProfile) then .ok large
    else if config = ownConfig Config.default.stream then .ok small
    else .error "neither of the two configurations"

theorem faithful_ownToml (small large : String) :
    (ownToml small large).Faithful (ownConfig (streamSection largeProfile)) := by
  refine ⟨large, ?_, ?_⟩ <;> simp [ownToml]

theorem valid_ownToml {small large : String} (other : small ≠ large)
    (fits : small.utf8ByteSize ≤ maxConfigBytes) :
    Valid (ownToml small large) (some small) (ownConfig Config.default.stream) := by
  constructor
  · change (ite _ _ (ite _ _ _) : Except String Config).toOption = _
    rw [if_neg other, if_pos rfl]
    rfl
  · rintro contents ⟨⟩
    exact fits

theorem smallText_ne_largeText : smallText ≠ largeText := by
  intro same
  have lengths := congrArg String.length same
  unfold smallText largeText ownText at lengths
  simp only [String.length_append] at lengths
  revert lengths
  decide

theorem utf8ByteSize_smallText : smallText.utf8ByteSize ≤ maxConfigBytes := by
  unfold smallText ownText
  simp only [String.utf8ByteSize_append]
  decide

/-- A profile is saved to a file with a network and devices of its own. -/
theorem kept_iff_own : Kept (ownToml smallText largeText) none (some smallText)
    (ownConfig Config.default.stream) (.stream largeProfile) :=
  (kept_iff (valid_ownToml smallText_ne_largeText utf8ByteSize_smallText) fun loaded run => by
    obtain rfl := Except.ok.inj run
    exact faithful_ownToml smallText largeText).mpr trivial

/-! ### A file of the defaults -/

/-- The defaults with some port, as they are written. -/
def defaultText (port : UInt16) : String :=
  "[network]\nagent_port = " ++ toString port.toNat ++ "\nstrict_tailnet_only = true\n" ++
    "allow_unsafe_wildcard_bind = false\n\n[stream]\nwidth = 1920\nheight = 1080\nfps = 60\n" ++
    "codec = \"auto\"\naudio = true\nbitrate_mbps = 0\n\n[display]\nmode = \"follow-focus\"\n\n" ++
    "[devices]\n"

/-- The library, on the defaults with one port. -/
def defaultToml (port : UInt16) : Toml where
  fromStr text :=
    if text = defaultText port then .ok (Config.default.withPort port)
    else .error "not the text of the defaults"
  toStringPretty config :=
    if config = Config.default.withPort port then .ok (defaultText port)
    else .error "not the defaults"

theorem faithful_defaultToml (port : UInt16) :
    (defaultToml port).Faithful (Config.default.withPort port) :=
  ⟨defaultText port, if_pos rfl, if_pos rfl⟩

/-- **The port of one process is written to the file.** -/
theorem leaked_port : Valid (defaultToml 49000) none .default ∧
    (∀ loaded, overlaid (some "49000") .default = .ok loaded →
      (defaultToml 49000).Faithful ((SettingChange.display .followFocus).apply loaded)) ∧
    ¬ Kept (defaultToml 49000) (some "49000") none .default (.display .followFocus) := by
  have loaded : overlaid (some "49000") .default = .ok (Config.default.withPort 49000) := by decide
  refine ⟨⟨rfl, fun _ absent => by cases absent⟩, fun config run => ?_, fun kept => ?_⟩
  · rw [loaded] at run
    obtain rfl := Except.ok.inj run
    exact faithful_defaultToml 49000
  · have said := @settings_save_of_loaded (defaultToml 49000) (some "49000") none
      (.display .followFocus) _ loaded (faithful_defaultToml 49000)
    have same := Option.some.inj (said.symm.trans kept)
    exact absurd same (by decide)

end Omdesky.Platform
