import Traversal.Settings.File

/-! # Resolving settings

The environment wins over the settings file, and the file over the built-in values. The file comes
first in time: what is wrong with it is reported before anything in the environment. -/

namespace Traversal

/-- What the variables hold. -/
abbrev Environment := String → Option String

/-- The text of the file at a path, unless there is none. -/
abbrev Files := String → Option String

namespace Settings

/-- The path of the settings file; a blank variable names none. -/
def filePath? (env : Environment) : Option String :=
  (env SettingKey.file.name).bind fun raw =>
    let path := Text.trim raw
    if path = "" then none else some path

/-- The settings of the file at a path. -/
def ofFile (files : Files) (path : String) : Except SettingsError Settings :=
  match files path with
  | none => .error (.unreadable path)
  | some text =>
    match SettingsFile.read text with
    | none => .error (.malformed path)
    | some file => file.settings

/-- Puts the variables over given settings. -/
def override (base : Settings) (env : Environment) : Except SettingsError Settings := do
  let port ← match env SettingKey.port.name with
    | some raw => readPort raw
    | none => pure base.port
  let timeout ← match env SettingKey.timeout.name with
    | some raw => some <$> readTimeout raw
    | none => pure base.timeout
  return {
    proto := (env SettingKey.proto.name).getD base.proto
    host := (env SettingKey.host.name).getD base.host
    version := (env SettingKey.version.name).getD base.version
    port, timeout }

def resolve (env : Environment) (files : Files) : Except SettingsError Settings := do
  let base ← match filePath? env with
    | some path => ofFile files path
    | none => pure {}
  base.override env

end Settings

end Traversal
