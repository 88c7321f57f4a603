import Traversal.Command.Run

/-! # The program

Reads its arguments, the variables and the settings file, and prints what the run gives. There is no
connection to an endpoint here, so every query that is sent fails. -/

namespace Traversal

/-- The answer of an endpoint that cannot be reached. -/
def noEndpoint (url _text : String) : Reply :=
  .failure (.unreachable s!"failed to reach cayley at {url} (no connection)")

/-- The variables that hold settings. -/
def readEnvironment : IO Environment := do
  let keys : List SettingKey := [.file, .proto, .host, .port, .version, .timeout]
  let values ← keys.mapM fun key => return (key.name, ← IO.getEnv key.name)
  return fun name => (values.lookup name).join

/-- The text of a file, unless it cannot be read. -/
def readText (path : String) : IO (Option String) := do
  try
    return String.fromUTF8? (← IO.FS.readBinFile path)
  catch _ =>
    return none

end Traversal

open Traversal in
def main (args : List String) : IO UInt32 := do
  let env ← readEnvironment
  let text ← match Settings.filePath? env with
    | some path => readText path
    | none => pure none
  let result := run { env, files := fun _ => text, endpoint := noEndpoint } args
  IO.print result.stdout
  IO.eprint result.stderr
  return result.exit.toUInt32
