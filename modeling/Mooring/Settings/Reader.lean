import Mooring.Settings.Basic
import Mooring.Toml.Reader

set_option autoImplicit false

/-!
# The settings file

A file names the settings that differ from their defaults; other names in it are passed over. A
file that is not named is looked for in the working directory and may be missing.
-/

namespace Mooring.Settings

/-- The settings file of the working directory. -/
def defaultPath : String := "berth.toml"

/-- A text in a file. -/
def textOf? : Toml → Option String
  | .string s => some s
  | _ => none

/-- A number that is not negative in a file. -/
def wholeOf? : Toml → Option Nat
  | .integer n => if 0 ≤ n then some n.toNat else none
  | _ => none

/-- The settings of a file; a setting of the wrong kind is an error. -/
def ofToml? (ms : Toml.Members) : Option Settings := do
  let field {α : Type} (name : String) (default : α) (read : Toml → Option α) : Option α :=
    match ms.lookup name with
    | some v => read v
    | none => some default
  let defaults : Settings := {}
  return {
    dataDir := ← field "data_dir" defaults.dataDir textOf?
    buildPath := ← field "build_path" defaults.buildPath textOf?
    logDir := ← field "log_dir" defaults.logDir textOf?
    pollInterval := ← field "poll_interval_secs" defaults.pollInterval wholeOf?
    siteUrl := ← field "site_url" defaults.siteUrl textOf?
    user := ← field "user" defaults.user textOf?
    token := ← field "token" defaults.token fun v => (textOf? v).map some
    siteDataDir := ← field "site_data_dir" defaults.siteDataDir fun v => (textOf? v).map some }

/-- The settings of a text. -/
def read (text : String) : Except SettingsError Settings :=
  match (Toml.read? text).bind ofToml? with
  | some s => s.check.map fun _ => s
  | none => .error .malformed

/-- The settings of a file. -/
def readFile (path : String) (files : FileTree) : Except SettingsError Settings :=
  if !files.exists? path then .error (.notFound path)
  else
    match files.read? path with
    | some text => read text
    | none => .error .unreadable

/-- The settings of a named file, or of the file of the working directory if it is there, under an
environment. -/
def load (path : Option String) (env : Environment) (files : FileTree) :
    Except SettingsError Settings := do
  let s ← match path with
    | some path => readFile path files
    | none => if files.exists? defaultPath then readFile defaultPath files else .ok {}
  let s ← s.withEnvironment env
  s.check
  return s

end Mooring.Settings
