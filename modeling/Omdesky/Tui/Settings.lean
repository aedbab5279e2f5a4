/-
**The settings of the stream, in the terminal interface and in the file (`omdesky-tui/src/lib.rs`).**

* `changeStreamSetting`, `streamProfile`: the profile after a key, and the profile of a configuration.
* `Settings`, `Settings.after`: what the interface shows and what the file says, key after key, while
  others write the file as well.
* `validate_changeStreamSetting`: a key leaves a valid profile valid.
* `streamProfile_streamSection`: a profile is read back from what is saved of it.
* `saved_settings`: **the profile is valid in every run, opposite keys undo each other, and what was
  saved last is what the interface shows when it is opened again** and what the command line streams.
-/

import Omdesky.Collections.Turning
import Omdesky.Platform.Config
import Omdesky.Tui.State

namespace Omdesky.Tui

open Collections.Turning Platform

/-! ### Profiles -/

/-- `bitrate_kbps_from_mbps`. -/
def bitrateKbpsFromMbps (mbps : Nat) : Except DomainError Nat :=
  if mbps * 1000 < UInt32.size ∧ minStreamBitrateKbps ≤ mbps * 1000 ∧
      mbps * 1000 ≤ maxStreamBitrateKbps then
    .ok (mbps * 1000)
  else .error .invalidStreamProfile

/-- `stream_profile`. -/
def streamProfile (config : Config) : StreamProfile :=
  let profile : StreamProfile :=
    { width := config.stream.width
      height := config.stream.height
      fps := config.stream.fps
      codecPreference := config.stream.codec
      audio := config.stream.audio
      bitrateKbps :=
        if 0 < config.stream.bitrateMbps then (bitrateKbpsFromMbps config.stream.bitrateMbps).toOption
        else none }
  match profile.validate with
  | .ok () => profile
  | .error _ => .default

/-- The resolutions of `change_stream_setting`. -/
def resolutions : List (Nat × Nat) := [(1280, 720), (1920, 1080), (2560, 1440), (3840, 2160)]

/-- The frame rates. -/
def frameRates : List Nat := [30, 60, 90, 120]

/-- The bitrates. -/
def bitrates : List (Option Nat) :=
  [none, some 10000, some 20000, some 40000, some 80000, some 120000]

/-- The codecs. -/
def codecs : List CodecPreference := [.auto, .h264, .hevc, .av1]

/-- `change_stream_setting`. -/
def changeStreamSetting (profile : StreamProfile) (setting : StreamSetting) (direction : Int) :
    StreamProfile :=
  match setting with
  | .display => profile
  | .resolution =>
      let size := turn resolutions 1 direction (profile.width, profile.height)
      { profile with width := size.1, height := size.2 }
  | .fps => { profile with fps := turn frameRates 1 direction profile.fps }
  | .bitrate => { profile with bitrateKbps := turn bitrates 0 direction profile.bitrateKbps }
  | .codec => { profile with codecPreference := turn codecs 0 direction profile.codecPreference }
  | .audio => { profile with audio := !profile.audio }

/-- `DisplayMode::ALL`. -/
def displayModes : List DisplayMode := [.followFocus]

/-- The bitrate of `connect`, where none is asked for. -/
def configuredBitrate (config : Config) : Except DomainError (Option Nat) :=
  if 0 < config.stream.bitrateMbps then (bitrateKbpsFromMbps config.stream.bitrateMbps).map some
  else .ok none

/-! ### The interface and the file -/

/-- What the interface shows of the settings, and the file. -/
structure Settings where
  profile : StreamProfile
  mode : DisplayMode
  saved : Saved
  deriving DecidableEq, Repr

/-- What happens to the settings and to their file. -/
inductive SettingsEvent
  /-- A key to change a setting. -/
  | changed (setting : StreamSetting) (direction : Int)
  /-- Such a key, while the file cannot be read or written. -/
  | unsaved (setting : StreamSetting) (direction : Int) (error : String)
  /-- Another program writes the file, or removes it. -/
  | edited (file : Option String)
  deriving DecidableEq, Repr

section Code

variable (toml : Toml) (environment : Option String)

/-- The settings that `run_loop` starts with. -/
def Settings.opened (file : Option String) : Settings :=
  let loaded := (Config.load toml environment file).toOption
  { profile := (loaded.map streamProfile).getD .default
    mode := (loaded.map fun config => config.display.mode).getD .followFocus
    saved := { file, notice := none, error := none } }

/-- What a key changes, of what is shown. -/
def Settings.changed (settings : Settings) (setting : StreamSetting) (direction : Int) : Settings :=
  match setting with
  | .display => { settings with mode := turn displayModes 0 direction settings.mode }
  | _ => { settings with profile := changeStreamSetting settings.profile setting direction }

/-- What a key saves. -/
def Settings.change (settings : Settings) (setting : StreamSetting) : SettingChange :=
  match setting with
  | .display => .display settings.mode
  | _ => .stream settings.profile

/-- The beginning of the error of `save_display_mode` and of `save_stream_profile`. -/
def saveFailure : StreamSetting → String
  | .display => "Could not save display mode"
  | _ => "Could not save stream settings"

/-- The settings after an event. -/
def Settings.after (settings : Settings) : SettingsEvent → Settings
  | .changed setting direction =>
      let changed := settings.changed setting direction
      { changed with saved := (changed.change setting).save toml environment settings.saved.file }
  | .unsaved setting direction error =>
      { settings.changed setting direction with
        saved :=
          { file := settings.saved.file
            notice := none
            error := some (saveFailure setting ++ ": " ++ error) } }
  | .edited file => { settings with saved := { settings.saved with file } }

end Code

/-! ### One key -/

section Keys

variable {profile : StreamProfile} {config : Config}

/-- The profile is in range, and its bitrate is in megabits. -/
structure Sound (profile : StreamProfile) : Prop where
  valid : profile.validate = .ok ()
  whole : ∀ kbps ∈ profile.bitrateKbps, 1000 ∣ kbps

theorem validate_iff : profile.validate = .ok () ↔
    (minStreamWidth ≤ profile.width ∧ profile.width ≤ maxStreamWidth) ∧
    (minStreamHeight ≤ profile.height ∧ profile.height ≤ maxStreamHeight) ∧
    (minStreamFps ≤ profile.fps ∧ profile.fps ≤ maxStreamFps) ∧
    ∀ kbps ∈ profile.bitrateKbps, minStreamBitrateKbps ≤ kbps ∧ kbps ≤ maxStreamBitrateKbps := by
  unfold StreamProfile.validate
  split
  · rename_i within
    simp only [Bool.and_eq_true, decide_eq_true_eq, Option.all_eq_true] at within
    obtain ⟨⟨⟨⟨⟨⟨wide, narrow⟩, high⟩, low⟩, fast⟩, slow⟩, rate⟩ := within
    exact iff_of_true rfl ⟨⟨wide, narrow⟩, ⟨high, low⟩, ⟨fast, slow⟩, rate⟩
  · rename_i outside
    refine iff_of_false (fun valid => by cases valid) fun within => outside ?_
    obtain ⟨⟨wide, narrow⟩, ⟨high, low⟩, ⟨fast, slow⟩, rate⟩ := within
    simp only [Bool.and_eq_true, decide_eq_true_eq, Option.all_eq_true]
    exact ⟨⟨⟨⟨⟨⟨wide, narrow⟩, high⟩, low⟩, fast⟩, slow⟩, rate⟩

theorem sound_default : Sound .default :=
  ⟨rfl, fun _ absent => by cases absent⟩

/-- Every listed bitrate is in range and in megabits. -/
theorem listed_bitrate {bitrate : Option Nat} (listed : bitrate ∈ bitrates) :
    ∀ kbps ∈ bitrate, (minStreamBitrateKbps ≤ kbps ∧ kbps ≤ maxStreamBitrateKbps) ∧ 1000 ∣ kbps := by
  intro kbps there
  have all : ∀ bitrate ∈ bitrates, bitrate.all fun kbps =>
      (minStreamBitrateKbps ≤ kbps && kbps ≤ maxStreamBitrateKbps) && decide (1000 ∣ kbps) := by
    decide
  have one := all bitrate listed
  rw [Option.mem_def.mp there] at one
  simpa only [Option.all_some, Bool.and_eq_true, decide_eq_true_eq] using one

/-- **A key leaves a profile in range.** -/
theorem Sound.changed (sound : Sound profile) (setting : StreamSetting) (direction : Int) :
    Sound (changeStreamSetting profile setting direction) := by
  obtain ⟨valid, whole⟩ := sound
  obtain ⟨wide, high, fast, rate⟩ := validate_iff.mp valid
  cases setting with
  | display | audio => exact ⟨valid, whole⟩
  | codec => exact ⟨validate_iff.mpr ⟨wide, high, fast, rate⟩, whole⟩
  | resolution =>
      have sizes : ∀ size ∈ resolutions, (minStreamWidth ≤ size.1 ∧ size.1 ≤ maxStreamWidth) ∧
          minStreamHeight ≤ size.2 ∧ size.2 ≤ maxStreamHeight := by decide
      have listed : turn resolutions 1 direction (profile.width, profile.height) ∈ resolutions :=
        mem_turn (by decide)
      have size := sizes _ listed
      exact ⟨validate_iff.mpr ⟨size.1, size.2, fast, rate⟩, whole⟩
  | fps =>
      have rates : ∀ fps ∈ frameRates, minStreamFps ≤ fps ∧ fps ≤ maxStreamFps := by decide
      exact ⟨validate_iff.mpr ⟨wide, high, rates _ (mem_turn (by decide)), rate⟩, whole⟩
  | bitrate =>
      have member : turn bitrates 0 direction profile.bitrateKbps ∈ bitrates := mem_turn (by decide)
      have listed := listed_bitrate member
      exact ⟨validate_iff.mpr ⟨wide, high, fast, fun kbps there => (listed kbps there).1⟩,
        fun kbps there => (listed kbps there).2⟩

theorem bitrateKbpsFromMbps_eq {kbps : Nat}
    (within : minStreamBitrateKbps ≤ kbps ∧ kbps ≤ maxStreamBitrateKbps) (whole : 1000 ∣ kbps) :
    bitrateKbpsFromMbps (kbps / 1000) = .ok kbps := by
  have small : kbps < UInt32.size := Nat.lt_of_le_of_lt within.2 (by decide)
  rw [bitrateKbpsFromMbps, Nat.div_mul_cancel whole, if_pos ⟨small, within⟩]

/-- A bitrate in megabits is in range. -/
theorem sound_streamProfile (config : Config) : Sound (streamProfile config) := by
  unfold streamProfile
  dsimp only
  split
  · rename_i valid
    refine ⟨valid, fun kbps there => ?_⟩
    dsimp only at there
    split at there
    · unfold bitrateKbpsFromMbps at there
      split at there
      · cases there
        exact Nat.dvd_mul_left _ _
      · cases there
    · cases there
  · exact sound_default

/-- What is saved of a bitrate, as the command line and the interface read it. -/
theorem Sound.configured (sound : Sound profile) (saved : config.stream = streamSection profile) :
    configuredBitrate config = .ok profile.bitrateKbps := by
  have rate := (validate_iff.mp sound.valid).2.2.2
  have read : config.stream.bitrateMbps = profile.bitrateKbps.getD 0 / 1000 :=
    congrArg StreamConfig.bitrateMbps saved
  rw [configuredBitrate, read]
  cases there : profile.bitrateKbps with
  | none => rfl
  | some kbps =>
      have within := rate kbps there
      have filled : 0 < kbps / 1000 := by
        have least : 500 ≤ kbps := within.1
        obtain ⟨mbps, rfl⟩ := sound.whole kbps there
        omega
      rw [Option.getD_some, if_pos filled, bitrateKbpsFromMbps_eq within (sound.whole kbps there)]
      rfl

/-- **A profile is read back from what is saved of it.** -/
theorem Sound.streamProfile_eq (sound : Sound profile) (saved : config.stream = streamSection profile) :
    streamProfile config = profile := by
  have bitrate : (if 0 < config.stream.bitrateMbps then
      (bitrateKbpsFromMbps config.stream.bitrateMbps).toOption else none) = profile.bitrateKbps := by
    have configured := sound.configured saved
    unfold configuredBitrate at configured
    split at configured
    · rename_i filled
      rw [if_pos filled]
      cases read : bitrateKbpsFromMbps config.stream.bitrateMbps with
      | error _ => rw [read] at configured; cases configured
      | ok kbps => rw [read] at configured; exact Except.ok.inj configured
    · rename_i absent
      rw [if_neg absent]
      exact Except.ok.inj configured
  have same : streamProfile config =
      match profile.validate with
      | .ok () => profile
      | .error _ => .default := by
    unfold streamProfile
    rw [bitrate, saved]
    rfl
  rw [same, sound.valid]

end Keys

/-! ### Keys of one setting -/

theorem changeStreamSetting_undone {profile : StreamProfile} {setting : StreamSetting}
    {direction forth back : Int} (opposite : Opposite forth back) :
    changeStreamSetting (changeStreamSetting (changeStreamSetting profile setting direction) setting
      forth) setting back = changeStreamSetting profile setting direction := by
  cases setting with
  | display => rfl
  | audio => simp only [changeStreamSetting, Bool.not_not]
  | resolution =>
      have undone := @turn_turn _ _ resolutions 1 forth
        (turn resolutions 1 direction (profile.width, profile.height)) back (by decide)
        (mem_turn (by decide)) opposite
      simp only [changeStreamSetting, undone]
  | fps =>
      have undone := @turn_turn _ _ frameRates 1 forth (turn frameRates 1 direction profile.fps) back
        (by decide) (mem_turn (by decide)) opposite
      simp only [changeStreamSetting, undone]
  | bitrate =>
      have undone := @turn_turn _ _ bitrates 0 forth (turn bitrates 0 direction profile.bitrateKbps)
        back (by decide) (mem_turn (by decide)) opposite
      simp only [changeStreamSetting, undone]
  | codec =>
      have undone := @turn_turn _ _ codecs 0 forth (turn codecs 0 direction profile.codecPreference)
        back (by decide) (mem_turn (by decide)) opposite
      simp only [changeStreamSetting, undone]

/-! ### The file -/

section File

variable {toml : Toml} {environment file : Option String}

/-- The file holds this stream. -/
def Holds (toml : Toml) (file : Option String) (stream : StreamConfig) : Prop :=
  ∃ text config, file = some text ∧ toml.fromStr text = .ok config ∧ config.stream = stream

/-- What is written is parsed back. -/
def RoundTrip (toml : Toml) : Prop :=
  ∀ config text, toml.toStringPretty config = .ok text → toml.fromStr text = .ok config

/-- The environment decides of itself whether a configuration can be loaded, and has no say in the
stream. -/
theorem overlaid_stream {first loaded : Config} (other : Config)
    (run : overlaid environment first = .ok loaded) : loaded.stream = first.stream ∧
    ∃ config, overlaid environment other = .ok config ∧ config.stream = other.stream := by
  cases environment with
  | none =>
      obtain rfl := Except.ok.inj run
      exact ⟨rfl, other, rfl, rfl⟩
  | some port =>
      unfold overlaid at run ⊢
      dsimp only at run ⊢
      cases parsed : parseUnsigned UInt16.size port.toList with
      | none => rw [parsed] at run; cases run
      | some port =>
          rw [parsed] at run
          obtain rfl := Except.ok.inj run
          exact ⟨rfl, _, rfl, rfl⟩

/-- What is loaded comes from the file, where there is one. -/
theorem load_eq_ok {text : String} {loaded : Config}
    (run : Config.load toml environment (some text) = .ok loaded) :
    ∃ config, toml.fromStr text = .ok config ∧ overlaid environment config = .ok loaded := by
  unfold Config.load readConfig at run
  dsimp only at run
  split at run
  · cases run
  · cases parsed : toml.fromStr text with
    | error error => rw [parsed] at run; cases run
    | ok config => rw [parsed] at run; exact ⟨config, rfl, run⟩

theorem written_of_no_error {change : Config → Config} {notice failure : String}
    (quiet : (saveSetting toml environment file change notice failure).error = none) :
    ∃ text, (do (change (← Config.load toml environment file)).save toml) = .ok text := by
  unfold saveSetting at quiet
  split at quiet
  · exact ⟨_, ‹_›⟩
  · cases quiet

/-- **What saving a change does**: it reports a failure and leaves the file, or it writes what could be
loaded with the change. -/
theorem save_cases (change : SettingChange) :
    ((change.save toml environment file).error ≠ none ∧
      (change.save toml environment file).file = file) ∨
    ∃ loaded text, Config.load toml environment file = .ok loaded ∧
      toml.toStringPretty (change.apply loaded) = .ok text ∧
      (change.save toml environment file).file = some text := by
  have told : (change.save toml environment file).error = none →
      ∃ text, (do (change.apply (← Config.load toml environment file)).save toml) = .ok text := by
    intro quiet
    cases change with
    | stream profile => exact written_of_no_error quiet
    | display mode => exact written_of_no_error quiet
  have filed := change.file_save toml environment file
  cases ran : (do (change.apply (← Config.load toml environment file)).save toml) with
  | error error =>
      rw [ran] at told filed
      refine .inl ⟨fun quiet => ?_, filed⟩
      obtain ⟨text, written⟩ := told quiet
      cases written
  | ok text =>
      rw [ran] at filed
      cases run : Config.load toml environment file with
      | error error => rw [run] at ran; cases ran
      | ok loaded =>
          rw [run] at ran
          cases written : toml.toStringPretty (change.apply loaded) with
          | error error =>
              change (toml.toStringPretty (change.apply loaded)).mapError _ = _ at ran
              rw [written] at ran
              cases ran
          | ok other =>
              change (toml.toStringPretty (change.apply loaded)).mapError _ = _ at ran
              rw [written] at ran
              obtain rfl := Except.ok.inj ran
              exact .inr ⟨loaded, other, rfl, written, filed⟩

/-- What is said of a saved change. -/
theorem saveSetting_told (change : Config → Config) (notice failure : String) :
    ∃ outcome : Except String Unit,
      (saveSetting toml environment file change notice failure).notice =
        outcome.toOption.map (fun _ => notice) ∧
      (saveSetting toml environment file change notice failure).error =
        match outcome with
        | .ok () => none
        | .error error => some (failure ++ ": " ++ error) := by
  unfold saveSetting
  split
  · exact ⟨.ok (), rfl, rfl⟩
  · exact ⟨.error _, rfl, rfl⟩

/-- A change of another section leaves the stream. -/
theorem Holds.display {stream : StreamConfig} (faithful : RoundTrip toml)
    (holds : Holds toml file stream) (mode : DisplayMode) :
    Holds toml ((SettingChange.display mode).save toml environment file).file stream := by
  obtain ⟨text, config, rfl, parsed, same⟩ := holds
  rcases @save_cases toml environment (some text) (.display mode) with
    ⟨-, kept⟩ | ⟨loaded, saved, run, written, filed⟩
  · rw [kept]
    exact ⟨text, config, rfl, parsed, same⟩
  · obtain ⟨before, read, overlaid⟩ := load_eq_ok run
    obtain rfl := Except.ok.inj (parsed.symm.trans read)
    rw [filed]
    exact ⟨saved, _, rfl, faithful _ _ written, (overlaid_stream config overlaid).1.trans same⟩

end File

/-! ### The law -/

section Law

variable (toml : Toml) (environment : Option String)

/-- The settings after the events, in order. -/
def shown (file : Option String) (events : List SettingsEvent) : Settings :=
  events.foldl (Settings.after toml environment) (Settings.opened toml environment file)

/-- A key for the display mode. -/
def OfDisplay : SettingsEvent → Prop
  | .changed setting _ | .unsaved setting _ _ => setting = .display
  | .edited _ => False

/-- Since a setting of the stream was saved, only the display mode was changed. -/
inductive SavedLast (file : Option String) : List SettingsEvent → Prop
  | saved {events : List SettingsEvent} {setting : StreamSetting} {direction : Int}
      (stream : setting ≠ .display)
      (quiet : (shown toml environment file (events ++ [.changed setting direction])).saved.error =
        none) : SavedLast file (events ++ [.changed setting direction])
  | later {events : List SettingsEvent} {event : SettingsEvent} (last : SavedLast file events)
      (display : OfDisplay event) : SavedLast file (events ++ [event])

/-- Opened again, the interface shows the same profile, and the command line streams at its bitrate. -/
def Reopens (settings : Settings) : Prop :=
  (Settings.opened toml environment settings.saved.file).profile = settings.profile ∧
  ∃ config, Config.load toml environment settings.saved.file = .ok config ∧
    configuredBitrate config = .ok settings.profile.bitrateKbps

end Law

section Runs

variable {toml : Toml} {environment file : Option String} {events : List SettingsEvent}

theorem shown_append (event : SettingsEvent) :
    shown toml environment file (events ++ [event]) =
      (shown toml environment file events).after toml environment event :=
  List.foldl_append

theorem sound_opened (file : Option String) : Sound (Settings.opened toml environment file).profile := by
  unfold Settings.opened
  cases (Config.load toml environment file).toOption with
  | none => exact sound_default
  | some config => exact sound_streamProfile config

theorem profile_changed (settings : Settings) (setting : StreamSetting) (direction : Int) :
    (settings.changed setting direction).profile =
      changeStreamSetting settings.profile setting direction := by
  cases setting <;> rfl

/-- **Every profile that is shown is in range.** -/
theorem sound_shown : Sound (shown toml environment file events).profile := by
  induction events using List.reverseRecOn with
  | nil => exact sound_opened file
  | append_singleton events event ih =>
      rw [shown_append]
      cases event with
      | changed setting direction | unsaved setting direction error =>
          change Sound (Settings.changed _ setting direction).profile
          rw [profile_changed]
          exact ih.changed setting direction
      | edited file => exact ih

/-- A key for the stream saves the profile that is shown after it. -/
theorem after_changed {settings : Settings} {setting : StreamSetting} (direction : Int)
    (stream : setting ≠ .display) :
    settings.after toml environment (.changed setting direction) =
      { settings with
        profile := changeStreamSetting settings.profile setting direction
        saved := (SettingChange.stream (changeStreamSetting settings.profile setting direction)).save
          toml environment settings.saved.file } := by
  cases setting with
  | display => exact absurd rfl stream
  | resolution | fps | bitrate | codec | audio => rfl

/-- The file says what was saved last, and the environment lets it be loaded. -/
theorem SavedLast.holds (faithful : RoundTrip toml) (last : SavedLast toml environment file events) :
    Holds toml (shown toml environment file events).saved.file
      (streamSection (shown toml environment file events).profile) ∧
    ∃ config loaded, overlaid environment config = .ok loaded := by
  induction last with
  | @saved events setting direction stream quiet =>
      rw [shown_append, after_changed direction stream] at quiet ⊢
      rcases save_cases (.stream (changeStreamSetting _ setting direction)) with
        ⟨failed, -⟩ | ⟨loaded, text, run, written, filed⟩
      · exact absurd quiet failed
      · refine ⟨⟨text, _, filed, faithful _ _ written, rfl⟩, ?_⟩
        unfold Config.load at run
        cases read : readConfig toml (shown toml environment file events).saved.file with
        | error error => rw [read] at run; cases run
        | ok config => rw [read] at run; exact ⟨config, loaded, run⟩
  | @later events event last display ih =>
      obtain ⟨holds, open_⟩ := ih
      rw [shown_append]
      refine ⟨?_, open_⟩
      cases event with
      | changed setting direction =>
          obtain rfl : setting = .display := display
          exact holds.display faithful _
      | unsaved setting direction error =>
          obtain rfl : setting = .display := display
          exact holds
      | edited file => exact display.elim

theorem reopens_of_holds {settings : Settings} (sound : Sound settings.profile)
    (holds : Holds toml settings.saved.file (streamSection settings.profile))
    (heeds : ∃ config loaded, overlaid environment config = .ok loaded)
    (fits : ∀ text ∈ settings.saved.file, text.utf8ByteSize ≤ maxConfigBytes) :
    Reopens toml environment settings := by
  obtain ⟨text, config, filed, parsed, same⟩ := holds
  obtain ⟨other, loaded, run⟩ := heeds
  obtain ⟨now, overlaid, stream⟩ := (overlaid_stream config run).2
  have load : Config.load toml environment settings.saved.file = .ok now := by
    have small : ¬ maxConfigBytes < text.utf8ByteSize := Nat.not_lt.mpr (fits text filed)
    rw [filed, Config.load, readConfig, if_neg small, parsed]
    exact overlaid
  refine ⟨?_, now, load, sound.configured (stream.trans same)⟩
  rw [Settings.opened, load]
  exact sound.streamProfile_eq (stream.trans same)

/-- **The settings of the stream.** Whatever keys are pressed and whoever else writes the file, the
profile that is shown is in range, opposite keys undo each other once a setting has been changed, and
what was saved last is shown and streamed again. -/
theorem saved_settings (faithful : RoundTrip toml) (file : Option String)
    (events : List SettingsEvent) :
    (shown toml environment file events).profile.validate = .ok () ∧
    (∀ setting direction forth back, Opposite forth back →
      (shown toml environment file (events ++ [.changed setting direction] ++
        [.changed setting forth] ++ [.changed setting back])).profile =
      (shown toml environment file (events ++ [.changed setting direction])).profile) ∧
    (SavedLast toml environment file events →
      (∀ text ∈ (shown toml environment file events).saved.file, text.utf8ByteSize ≤ maxConfigBytes) →
      Reopens toml environment (shown toml environment file events)) := by
  refine ⟨sound_shown.valid, fun setting direction forth back opposite => ?_, fun last fits => ?_⟩
  · simp only [shown_append, Settings.after, profile_changed]
    exact changeStreamSetting_undone opposite
  · obtain ⟨holds, heeds⟩ := last.holds faithful
    exact reopens_of_holds sound_shown holds heeds fits

/-- **The interface tells what saving reported.** -/
theorem told_changed (state : AppState) (settings : Settings) (setting : StreamSetting)
    (direction : Int) : ∃ outcome,
      (reportSaved state setting outcome).notice =
        (settings.after toml environment (.changed setting direction)).saved.notice ∧
      (reportSaved state setting outcome).error =
        (settings.after toml environment (.changed setting direction)).saved.error := by
  cases setting with
  | display =>
      obtain ⟨outcome, notice, error⟩ := @saveSetting_told toml environment settings.saved.file
        (fun config => { config with
          display := { mode := turn displayModes 0 direction settings.mode } })
        "Display mode saved" "Could not save display mode"
      refine ⟨outcome, ?_⟩
      cases outcome with
      | ok _ => exact ⟨notice.symm, error.symm⟩
      | error _ => exact ⟨notice.symm, error.symm⟩
  | resolution | fps | bitrate | codec | audio =>
      obtain ⟨outcome, notice, error⟩ := @saveSetting_told toml environment settings.saved.file
        (fun config => { config with
          stream := streamSection (changeStreamSetting settings.profile _ direction) })
        "Stream settings saved" "Could not save stream settings"
      refine ⟨outcome, ?_⟩
      cases outcome with
      | ok _ => exact ⟨notice.symm, error.symm⟩
      | error _ => exact ⟨notice.symm, error.symm⟩

end Runs

/-! ### One resolution up -/

/-- The defaults with the next resolution. -/
def sharper : Config := { Config.default with stream := { Config.default.stream with
  width := 2560, height := 1440 } }

/-- The library, on that configuration. -/
def sharperToml : Toml where
  fromStr text := if text = "[stream]\nwidth = 2560\nheight = 1440\n" then .ok sharper
    else .error "not that text"
  toStringPretty config := if config = sharper then .ok "[stream]\nwidth = 2560\nheight = 1440\n"
    else .error "not that configuration"

theorem saved_settings_sharper :
    Reopens sharperToml none (shown sharperToml none none
      [.changed .resolution 1, .edited none, .changed .resolution (-1), .changed .resolution 1,
        .changed .display 1]) := by
  have faithful : RoundTrip sharperToml := by
    intro config text written
    unfold sharperToml at written
    dsimp only at written
    split at written
    · rename_i same
      rw [same, ← Except.ok.inj written]
      rfl
    · cases written
  have resolved : SavedLast sharperToml none none ([.changed .resolution 1, .edited none,
      .changed .resolution (-1)] ++ [.changed .resolution 1]) :=
    .saved (by decide) (by decide)
  have last := resolved.later (show OfDisplay (.changed .display 1) from rfl)
  exact (saved_settings faithful none _).2.2 last (by decide)

end Omdesky.Tui
