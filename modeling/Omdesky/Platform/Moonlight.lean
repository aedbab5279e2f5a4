/-
**How Moonlight is launched (`omdesky-platform/src/moonlight.rs`).**

* `launchArguments`, `launchSpec`: the command line and the environment of a stream.
* `Setting`: an option that is there or not; `spelled_injective`: a table of them with distinct names
  is read back from the arguments it is spelled with.
* `launchSettings`: the table of a request, `launchArguments_eq`.
* `Launched`: the shape of a command line.
* `carries_launch_iff`: **two requests are launched alike only when they are equal, except that the
  audio setting never reaches Moonlight.**
-/

import Mathlib.Data.List.Nodup
import Omdesky.Ports
import Omdesky.Text.Address
import Omdesky.Text.Split

namespace Omdesky.Platform

/-! ### The code -/

/-- `moonlight_spec`. -/
def moonlightSpec (args : List String) : CommandSpec :=
  (CommandSpec.new "moonlight" args).withEnvironmentPolicy .inherited

/-- `launch_arguments`. -/
def launchArguments (request : StreamLaunchRequest) : List String :=
  ["stream", request.host.address.display, request.host.application,
    "--resolution", toString request.profile.width ++ "x" ++ toString request.profile.height,
    "--fps", toString request.profile.fps] ++
  (match request.profile.bitrateKbps with
    | some bitrateKbps => ["--bitrate", toString bitrateKbps]
    | none => []) ++
  (if request.fullscreen then [] else ["--display-mode", "windowed"]) ++
  (match request.profile.codecPreference with
    | .auto => []
    | .h264 => ["--video-codec", "H.264"]
    | .hevc => ["--video-codec", "HEVC"]
    | .av1 => ["--video-codec", "AV1"]) ++
  if request.inputMode = .remote then ["--capture-system-keys", "always"] else []

/-- `launch_spec`. -/
def launchSpec (request : StreamLaunchRequest) : CommandSpec :=
  let spec := { moonlightSpec (launchArguments request) with timeout := 30, capture := .discard }
  if request.inputMode = .remote then
    { spec with environment := [("QT_QPA_PLATFORM", "wayland")] }
  else spec

/-! ### Tables of options -/

/-- The name of an option, and its value when it is given. -/
abbrev Setting := String × Option String

/-- The arguments of an option. -/
def Setting.arguments (setting : Setting) : List String :=
  match setting.2 with
  | some value => [setting.1, value]
  | none => []

/-- The arguments of a table, in its order. -/
def spelled (settings : List Setting) : List String := settings.flatMap Setting.arguments

/-- What a table is spelled with begins with one of its names. -/
theorem head_spelled {settings : List Setting} {word : String}
    (first : (spelled settings).head? = some word) : word ∈ settings.map Prod.fst := by
  induction settings with
  | nil => cases first
  | cons setting rest ih =>
      obtain ⟨name, _ | value⟩ := setting
      · exact List.mem_cons_of_mem _ (ih first)
      · obtain rfl := Option.some.inj first
        exact List.mem_cons_self

/-- **A table with distinct names is read back from its arguments.** -/
theorem spelled_injective {settings settings' : List Setting}
    (names : settings.map Prod.fst = settings'.map Prod.fst)
    (distinct : (settings.map Prod.fst).Nodup) (same : spelled settings = spelled settings') :
    settings = settings' := by
  induction settings generalizing settings' with
  | nil => exact (List.map_eq_nil_iff.mp names.symm).symm
  | cons setting rest ih =>
      obtain _ | ⟨setting', rest'⟩ := settings'
      · cases names
      obtain ⟨name, value⟩ := setting
      obtain ⟨name', value'⟩ := setting'
      obtain ⟨rfl, others⟩ : name = name' ∧ rest.map Prod.fst = rest'.map Prod.fst :=
        List.cons.inj names
      obtain ⟨fresh, apart⟩ := List.nodup_cons.mp distinct
      -- An option that only one table gives would begin the rest of the other one.
      rcases value with _ | value <;> rcases value' with _ | value'
      · rw [ih others apart same]
      · have first : (spelled rest).head? = some name := congrArg List.head? same
        exact absurd (head_spelled first) fresh
      · have first : (spelled rest').head? = some name := (congrArg List.head? same).symm
        exact absurd (others ▸ head_spelled first) fresh
      · obtain ⟨_, tail⟩ := List.cons.inj same
        obtain ⟨rfl, rests⟩ := List.cons.inj tail
        rw [ih others apart rests]

/-! ### The options of a launch -/

/-- The name of a codec that is asked for. -/
def codecName : CodecPreference → Option String
  | .auto => none
  | .h264 => some "H.264"
  | .hevc => some "HEVC"
  | .av1 => some "AV1"

theorem codecName_injective : Function.Injective codecName := by
  intro first second
  cases first <;> cases second <;> decide

/-- The options of a launch. -/
def launchSettings (request : StreamLaunchRequest) : List Setting :=
  [("--resolution",
      some (toString request.profile.width ++ "x" ++ toString request.profile.height)),
    ("--fps", some (toString request.profile.fps)),
    ("--bitrate", request.profile.bitrateKbps.map toString),
    ("--display-mode", if request.fullscreen then none else some "windowed"),
    ("--video-codec", codecName request.profile.codecPreference),
    ("--capture-system-keys", if request.inputMode = .remote then some "always" else none)]

theorem launchArguments_eq (request : StreamLaunchRequest) :
    launchArguments request = "stream" :: request.host.address.display :: request.host.application ::
      spelled (launchSettings request) := by
  obtain ⟨host, ⟨width, height, fps, codec, audio, bitrate⟩, fullscreen, input⟩ := request
  unfold launchArguments launchSettings spelled
  cases bitrate <;> cases fullscreen <;> cases codec <;> cases input <;> rfl

theorem names_launchSettings (request : StreamLaunchRequest) :
    (launchSettings request).map Prod.fst =
      ["--resolution", "--fps", "--bitrate", "--display-mode", "--video-codec",
        "--capture-system-keys"] := rfl

theorem nodup_launchSettings (request : StreamLaunchRequest) :
    ((launchSettings request).map Prod.fst).Nodup := by
  rw [names_launchSettings]
  decide

/-! ### What the options say -/

theorem toString_injective : Function.Injective fun value : Nat => toString value := by
  intro first second same
  have digits : Nat.toDigits 10 first = Nat.toDigits 10 second := by
    simpa [Nat.toString_eq_ofList_toDigits, ← String.toList_inj] using same
  rw [← @Nat.ofDigitChars_ten_toDigits first, digits, Nat.ofDigitChars_ten_toDigits]

/-- The two numbers of a resolution. -/
theorem resolution_injective {width height width' height' : Nat}
    (same : toString width ++ "x" ++ toString height = toString width' ++ "x" ++ toString height') :
    width = width' ∧ height = height' := by
  have absent (value : Nat) : 'x' ∉ (toString value).toList := by
    intro inside
    rw [Nat.toString_eq_ofList_toDigits, String.toList_ofList] at inside
    exact absurd (Nat.isDigit_of_mem_toDigits (by decide) (by decide) inside) (by decide)
  have split (width height : Nat) :
      rsplitOnce 'x' (toString width ++ "x" ++ toString height).toList =
        some ((toString width).toList, (toString height).toList) := by
    have text : (toString width ++ "x" ++ toString height).toList =
        (toString width).toList ++ 'x' :: (toString height).toList := by
      simp
    rw [text, rsplitOnce_append (absent height)]
  have parts := (split width height).symm.trans ((congrArg (rsplitOnce 'x' ·.toList) same).trans
    (split width' height'))
  obtain ⟨first, second⟩ := Prod.mk.inj (Option.some.inj parts)
  exact ⟨toString_injective (String.toList_inj.mp first), toString_injective (String.toList_inj.mp second)⟩

theorem display_injective : Function.Injective IpAddr.display := by
  intro first second same
  have read := IpAddr.parse_display first
  rw [same, IpAddr.parse_display second] at read
  exact (Option.some.inj read).symm

/-- The request with another audio setting. -/
def withAudio (request : StreamLaunchRequest) (audio : Bool) : StreamLaunchRequest :=
  { request with profile := { request.profile with audio } }

/-- **The arguments say everything but the audio setting.** -/
theorem launchArguments_eq_iff {first second : StreamLaunchRequest} :
    launchArguments first = launchArguments second ↔ withAudio first second.profile.audio = second := by
  constructor
  · intro same
    rw [launchArguments_eq, launchArguments_eq] at same
    obtain ⟨_, positional⟩ := List.cons.inj same
    obtain ⟨address, positional⟩ := List.cons.inj positional
    obtain ⟨application, options⟩ := List.cons.inj positional
    have table : launchSettings first = launchSettings second :=
      spelled_injective rfl (nodup_launchSettings first) options
    simp only [launchSettings, List.cons.injEq, Prod.mk.injEq, true_and, and_true,
      Option.some.injEq] at table
    obtain ⟨resolution, fps, bitrate, mode, codec, keys⟩ := table
    obtain ⟨width, height⟩ := resolution_injective resolution
    have fps := toString_injective fps
    have bitrate := Option.map_injective toString_injective bitrate
    have codec := codecName_injective codec
    have fullscreen : first.fullscreen = second.fullscreen := by
      cases mine : first.fullscreen <;> cases other : second.fullscreen <;> simp [mine, other] at mode ⊢
    have input : first.inputMode = second.inputMode := by
      cases mine : first.inputMode <;> cases other : second.inputMode <;> simp [mine, other] at keys ⊢
    have address := display_injective address
    obtain ⟨⟨_, _⟩, ⟨_, _, _, _, _, _⟩, _, _⟩ := first
    obtain ⟨⟨_, _⟩, ⟨_, _, _, _, _, _⟩, _, _⟩ := second
    subst address application width height fps bitrate codec fullscreen input
    rfl
  · intro same
    rw [← same]
    rfl

/-! ### The shape of a command line -/

/-- A text does not begin with a dash, so that it is not taken for an option. -/
def Undashed (text : String) : Prop := text.toList.head? ≠ some '-'

instance (text : String) : Decidable (Undashed text) :=
  inferInstanceAs (Decidable (text.toList.head? ≠ some '-'))

/-- The command line of a request. -/
structure Launched (request : StreamLaunchRequest) (args : List String) : Prop where
  /-- Behind the address and the application there are options with their values. -/
  options : ∃ given : List (String × String),
    args = "stream" :: request.host.address.display :: request.host.application ::
      given.flatMap (fun option => [option.1, option.2]) ∧
    (given.map Prod.fst).Nodup ∧
    ∀ option ∈ given, option.1.toList.take 2 = ['-', '-'] ∧ Undashed option.2
  address : Undashed request.host.address.display
  application : Undashed request.host.application

/-- The options that are given. -/
def givenOptions (settings : List Setting) : List (String × String) :=
  settings.filterMap fun setting => setting.2.map fun value => (setting.1, value)

theorem spelled_eq (settings : List Setting) :
    spelled settings = (givenOptions settings).flatMap fun option => [option.1, option.2] := by
  induction settings with
  | nil => rfl
  | cons setting rest ih =>
      obtain ⟨name, _ | value⟩ := setting
      · exact ih
      · exact congrArg (name :: value :: ·) ih

theorem sublist_givenOptions (settings : List Setting) :
    ((givenOptions settings).map Prod.fst).Sublist (settings.map Prod.fst) := by
  induction settings with
  | nil => exact List.Sublist.slnil
  | cons setting rest ih =>
      obtain ⟨name, _ | value⟩ := setting
      · exact List.Sublist.cons _ ih
      · exact List.Sublist.cons_cons _ ih

theorem undashed_number (value : Nat) (rest : String) : Undashed (toString value ++ rest) := by
  intro dash
  rw [String.toList_append, Nat.toString_eq_ofList_toDigits, String.toList_ofList,
    List.head?_append_of_ne_nil _ Nat.toDigits_ne_nil] at dash
  have digit := Nat.isDigit_of_mem_toDigits (by decide) (by decide) (List.mem_of_mem_head? dash)
  exact absurd digit (by decide)

/-- A request that its host and its profile allow. -/
def Launchable (request : StreamLaunchRequest) : Prop :=
  request.host.validate = .ok () ∧ request.profile.validate = .ok ()

theorem undashed_application {host : StreamHostDescriptor} (valid : host.validate = .ok ()) :
    Undashed host.application := by
  unfold StreamHostDescriptor.validate at valid
  dsimp only at valid
  split at valid
  · next accepted =>
      simp only [Bool.and_eq_true, bne_iff_ne] at accepted
      exact accepted.1.2
  · cases valid

theorem undashed_address (address : IpAddr) : Undashed address.display := by
  intro dash
  exact absurd (address.isAddressChar_display '-' (List.mem_of_mem_head? dash)) (by decide)

theorem undashed_settings (request : StreamLaunchRequest) :
    ∀ setting ∈ launchSettings request, ∀ value ∈ setting.2, Undashed value := by
  have fixed {text value : String} (plain : Undashed text) (given : some text = some value) :
      Undashed value := Option.some.inj given ▸ plain
  have number (value : Nat) : Undashed (toString value) := by
    simpa using undashed_number value ""
  simp only [launchSettings, List.forall_mem_cons]
  refine ⟨fun value given => ?_, fun value given => ?_, fun value given => ?_, fun value given => ?_,
    fun value given => ?_, fun value given => ?_, List.forall_mem_nil _⟩
  · obtain rfl := Option.some.inj given
    rw [String.append_assoc]
    exact undashed_number _ _
  · exact fixed (number _) given
  · obtain ⟨kbps, _, rfl⟩ := Option.map_eq_some_iff.mp given
    exact number kbps
  · split at given
    · cases given
    · exact fixed (by decide) given
  · cases codec : request.profile.codecPreference <;> rw [codec] at given
    · cases given
    all_goals exact fixed (by decide) given
  · split at given
    · exact fixed (by decide) given
    · cases given

theorem args_launchSpec (request : StreamLaunchRequest) :
    (launchSpec request).args = launchArguments request := by
  unfold launchSpec
  dsimp only
  split <;> rfl

theorem launched_launchSpec {request : StreamLaunchRequest} (valid : Launchable request) :
    Launched request (launchSpec request).args where
  options := by
    refine ⟨givenOptions (launchSettings request), ?_, ?_, fun option member => ?_⟩
    · rw [args_launchSpec, launchArguments_eq, spelled_eq]
    · exact (sublist_givenOptions _).nodup (nodup_launchSettings request)
    · obtain ⟨setting, inside, given⟩ := List.mem_filterMap.mp member
      obtain ⟨value, filled, rfl⟩ := Option.map_eq_some_iff.mp given
      have named := List.mem_map_of_mem (f := Prod.fst) inside
      rw [names_launchSettings] at named
      have dashes : ∀ name ∈ ["--resolution", "--fps", "--bitrate", "--display-mode",
          "--video-codec", "--capture-system-keys"], name.toList.take 2 = ['-', '-'] := by
        decide
      exact ⟨dashes _ named, undashed_settings request setting inside value filled⟩
  address := undashed_address request.host.address
  application := undashed_application valid.1

/-! ### The law -/

/-- The requests differ in their audio setting and in nothing else. -/
def AudioAlone (first second : StreamLaunchRequest) : Prop :=
  first ≠ second ∧ withAudio first second.profile.audio = second

/-- The launches of two requests carry all of both. -/
structure CarryAll (first second : StreamLaunchRequest) : Prop where
  apart : (launchSpec first).args = (launchSpec second).args →
    (launchSpec first).environment = (launchSpec second).environment → first = second
  first : Launched first (launchSpec first).args
  second : Launched second (launchSpec second).args

theorem environment_launchSpec (request : StreamLaunchRequest) :
    (launchSpec request).environment =
      if request.inputMode = .remote then [("QT_QPA_PLATFORM", "wayland")] else [] := by
  unfold launchSpec
  dsimp only
  split <;> rfl

/-- **The launch carries the whole request, but for its audio setting.** -/
theorem carryAll_iff {first second : StreamLaunchRequest} (valid : Launchable first)
    (valid' : Launchable second) : CarryAll first second ↔ ¬ AudioAlone first second := by
  constructor
  · rintro carried ⟨different, same⟩
    refine different (carried.apart ?_ ?_)
    · rw [args_launchSpec, args_launchSpec]
      exact launchArguments_eq_iff.mpr same
    · rw [← same, environment_launchSpec, environment_launchSpec]
      rfl
  · intro heard
    refine ⟨fun args _ => ?_, launched_launchSpec valid, launched_launchSpec valid'⟩
    rw [args_launchSpec, args_launchSpec] at args
    by_contra different
    exact heard ⟨different, launchArguments_eq_iff.mp args⟩

/-- A stream of the default profile. -/
def defaultLaunch : StreamLaunchRequest where
  host := { address := .v4 100 64 0 2, application := "Desktop" }
  profile := .default
  fullscreen := false
  inputMode := .local

/-- The same stream with a codec. -/
def av1Launch : StreamLaunchRequest :=
  { defaultLaunch with profile := { StreamProfile.default with codecPreference := .av1 } }

theorem carryAll_iff_codec : CarryAll defaultLaunch av1Launch :=
  (carryAll_iff ⟨rfl, rfl⟩ ⟨rfl, rfl⟩).mpr fun alone => absurd alone.2 (by decide)

/-- **A stream without audio is launched like one with audio.** -/
theorem muted_launch : Launchable defaultLaunch ∧ Launchable (withAudio defaultLaunch false) ∧
    ¬ CarryAll defaultLaunch (withAudio defaultLaunch false) := by
  refine ⟨⟨rfl, rfl⟩, ⟨rfl, rfl⟩, fun carried => ?_⟩
  have same : defaultLaunch = withAudio defaultLaunch false := carried.apart rfl rfl
  exact absurd same (by decide)

end Omdesky.Platform
