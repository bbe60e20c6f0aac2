import Mooring.Files.Tree
import Mooring.Json.Record
import Mooring.Text.Blank
import Mooring.Text.Whole

set_option autoImplicit false

/-!
# Settings

Where records, build directories and logs are kept, how often the engine is polled, and how the site
is reached. Every setting has a default, and environment variables win over what a file says.
-/

namespace Mooring

/-- What is wrong with a setting. -/
inductive SettingsFault where
  | noPollInterval
  | noUser
  | notWhole (text : String)
  deriving DecidableEq, Repr

/-- The wording of a fault. -/
def SettingsFault.message : SettingsFault → String
  | noPollInterval => "poll_interval_secs must be greater than zero"
  | noUser => "user must not be empty"
  | notWhole text => s!"BERTH_POLL_INTERVAL_SECS must be a whole number, got '{text}'"

/-- Why there are no settings. -/
inductive SettingsError where
  | malformed
  | invalid (fault : SettingsFault)
  | unreadable
  | notFound (path : String)
  deriving DecidableEq, Repr

/-- The wording of a settings error. -/
def SettingsError.message : SettingsError → String
  | malformed => "Failed to parse settings file"
  | invalid fault => s!"Settings validation error: {fault.message}"
  | unreadable => "Failed to read settings file"
  | notFound path => s!"Settings file not found: {path}"

/-- The settings of the program. Without a token, each launch gets one of its own; without a
directory of site objects, the site has none. -/
structure Settings where
  dataDir : String := ".berth"
  buildPath : String := ".berth/build"
  logDir : String := ".berth/logs"
  pollInterval : Nat := 10
  siteUrl : String := "http://localhost:8080"
  user : String := "admin"
  token : Option String := none
  siteDataDir : Option String := none
  deriving DecidableEq, Repr

namespace Settings

/-- The directory of the container records. -/
def containersDir (s : Settings) : String :=
  Files.join s.dataDir "containers"

/-- The file of the engine server. -/
def serverPath (s : Settings) : String :=
  Files.join s.dataDir "server.json"

/-- Settings have to name a user and an interval that is not zero. -/
def check (s : Settings) : Except SettingsError Unit :=
  if s.pollInterval = 0 then .error (.invalid .noPollInterval)
  else if Text.isBlankText s.user then .error (.invalid .noUser)
  else .ok ()

/-- The variables that override settings. -/
def variableNames : List String :=
  ["BERTH_DATA_DIR", "BERTH_BUILD_PATH", "BERTH_LOG_DIR", "BERTH_POLL_INTERVAL_SECS",
    "BERTH_SITE_URL", "BERTH_USER", "BERTH_TOKEN", "BERTH_SITE_DATA_DIR"]

/-- An environment: the value of each variable that is set. -/
abbrev Environment : Type :=
  String → Option String

/-- The interval that the environment asks for. -/
def intervalIn (env : Environment) (default : Nat) : Except SettingsError Nat :=
  match env "BERTH_POLL_INTERVAL_SECS" with
  | none => .ok default
  | some text =>
    match Text.wholeNumber? (Text.trim text.toList) with
    | some n => .ok n
    | none => .error (.invalid (.notWhole text))

/-- The settings with those that the environment overrides. -/
def withEnvironment (env : Environment) (s : Settings) : Except SettingsError Settings := do
  let text (name default : String) : String := (env name).getD default
  return {
    dataDir := text "BERTH_DATA_DIR" s.dataDir
    buildPath := text "BERTH_BUILD_PATH" s.buildPath
    logDir := text "BERTH_LOG_DIR" s.logDir
    pollInterval := ← intervalIn env s.pollInterval
    siteUrl := text "BERTH_SITE_URL" s.siteUrl
    user := text "BERTH_USER" s.user
    token := env "BERTH_TOKEN" <|> s.token
    siteDataDir := env "BERTH_SITE_DATA_DIR" <|> s.siteDataDir }

/-- The document of the settings. -/
def toJson (s : Settings) : Json :=
  .obj [("data_dir", .str s.dataDir), ("build_path", .str s.buildPath), ("log_dir", .str s.logDir),
    ("poll_interval_secs", Json.ofInt s.pollInterval), ("site_url", .str s.siteUrl),
    ("user", .str s.user), ("token", Json.ofOption .str s.token),
    ("site_data_dir", Json.ofOption .str s.siteDataDir)]

/-- An empty environment overrides nothing. -/
@[simp] theorem withEnvironment_empty (s : Settings) :
    s.withEnvironment (fun _ => none) = .ok s := by
  cases s
  rfl

end Settings

end Mooring
