import Traversal.Json.Skip
import Traversal.Json.Writer
import Traversal.Settings.Basic

/-! # Settings files

A settings file is a JSON object whose members are named like the variables, or a JSON array with
the values of the five settings in order. Null counts as absent, members with other names are passed
over, and a setting given twice or with a value of a wrong type makes the file malformed. -/

namespace Traversal

structure SettingsFile where
  proto : Option String := none
  host : Option String := none
  port : Option Json := none
  version : Option String := none
  timeout : Option Json := none
deriving Repr

namespace SettingsFile

/-- Null for nothing, or a string. -/
def textSetting : Json → Option (Option String)
  | .null => some none
  | .string s => some (some s)
  | _ => none

/-- Null for nothing, or any other value. -/
def valueSetting : Json → Option Json
  | .null => none
  | value => some value

/-- The settings that can stand in a file, in order. -/
def keys : List SettingKey := [.proto, .host, .port, .version, .timeout]

/-- Gives one setting its value, unless the value is of a wrong type. -/
def set? (file : SettingsFile) (key : SettingKey) (value : Json) : Option SettingsFile :=
  match key with
  | .proto => (textSetting value).map fun proto => { file with proto }
  | .host => (textSetting value).map fun host => { file with host }
  | .port => some { file with port := valueSetting value }
  | .version => (textSetting value).map fun version => { file with version }
  | .timeout => some { file with timeout := valueSetting value }
  | .file => none

/-- A member: the setting of that name with its value, or nothing for a name that is passed over. -/
def readMember (cs : List Char) : Option (Option (SettingKey × Json) × List Char) :=
  match Json.skipBlanks cs with
  | '"' :: cs =>
    match Json.readString cs with
    | some (name, cs) =>
      match Json.skipBlanks cs with
      | ':' :: cs =>
        match keys.find? (·.name == name) with
        | some key =>
          (Json.readValue (Json.maxDepth - 1) cs).map fun (value, cs) => (some (key, value), cs)
        | none => (Json.skipValue (cs.length + 1) cs).map fun (_, cs) => (none, cs)
      | _ => none
    | none => none
  | _ => none

/-- Gives settings their values; `seen` holds the settings given so far. -/
def setAll (file : SettingsFile) (seen : List SettingKey) :
    List (SettingKey × Json) → Option SettingsFile
  | [] => some file
  | (key, value) :: rest =>
    if key ∈ seen then none
    else
      match file.set? key value with
      | some file => setAll file (key :: seen) rest
      | none => none

/-- The settings of a file with the given text, if it is well formed. -/
def read (text : String) : Option SettingsFile :=
  match Json.skipBlanks text.toList with
  | '{' :: cs =>
    match Json.readBracketed '}' readMember cs with
    | some (members, rest) =>
      if Json.skipBlanks rest = [] then setAll {} [] (members.filterMap id) else none
    | none => none
  | '[' :: cs =>
    match Json.readBracketed ']' (Json.readValue (Json.maxDepth - 1)) cs with
    | some (values, rest) =>
      if Json.skipBlanks rest = [] ∧ values.length = keys.length then setAll {} [] (keys.zip values)
      else none
    | none => none
  | _ => none

/-- The file's settings over the built-in ones. -/
def settings (file : SettingsFile) : Except SettingsError Settings := do
  let base : Settings := {}
  let port ← match file.port with
    | some value => readPort value.plainText
    | none => pure base.port
  let timeout ← match file.timeout with
    | some value => some <$> readTimeout value.plainText
    | none => pure base.timeout
  return {
    proto := file.proto.getD base.proto
    host := file.host.getD base.host
    version := file.version.getD base.version
    port, timeout }

end SettingsFile

end Traversal
