import Traversal.Number.Word
import Traversal.Text.Blank
import Traversal.Text.Shown

/-! # Settings

Where the endpoint is. The port is a number of 16 bits and the timeout one of 64 bits. -/

namespace Traversal

/-- The variables by which settings are given. -/
inductive SettingKey where
  | file | proto | host | port | version | timeout
deriving DecidableEq, Repr

def SettingKey.name : SettingKey → String
  | file => "CAYLEY_SETTINGS"
  | proto => "CAYLEY_PROTO"
  | host => "CAYLEY_HOST"
  | port => "CAYLEY_PORT"
  | version => "CAYLEY_VERSION"
  | timeout => "CAYLEY_TIMEOUT_SECS"

inductive SettingsError where
  | invalid (key : SettingKey) (value : String) (cause : NumeralError)
  /-- The settings file cannot be read as text. -/
  | unreadable (path : String)
  /-- The settings file has not the expected shape. -/
  | malformed (path : String)
deriving DecidableEq, Repr

def SettingsError.message : SettingsError → String
  | invalid key value cause =>
    "invalid value for " ++ key.name ++ ": " ++ Text.shown value ++ " (" ++ cause.reason ++ ")"
  | unreadable path => s!"failed to read settings file {path}"
  | malformed path => s!"failed to parse settings file {path}"

structure Settings where
  proto : String := "http"
  host : String := "localhost"
  port : Nat := 64210
  version : String := "v1"
  /-- In seconds. -/
  timeout : Option Nat := none
deriving DecidableEq, Repr

/-- The address to which queries are sent. -/
def Settings.queryUrl (s : Settings) : String :=
  s!"{s.proto}://{s.host}:{s.port}/api/{s.version}/query/gremlin"

/-- The number that a text denotes after trimming. -/
def readSetting (key : SettingKey) (limit : Nat) (raw : String) : Except SettingsError Nat :=
  match readWord limit (Text.trimChars raw.toList) with
  | .ok n => .ok n
  | .error cause => .error (.invalid key raw cause)

def readPort (raw : String) : Except SettingsError Nat := readSetting .port UInt16.size raw

def readTimeout (raw : String) : Except SettingsError Nat := readSetting .timeout UInt64.size raw

end Traversal
