import Traversal.Command.Help
import Traversal.Session.Adopt
import Traversal.Settings.Resolve

/-! # Running a command

What a command line prints and with which code it ends: 0 after success, 1 after an error of the
program, 2 after an error in the arguments. Nothing is looked at before all arguments are read. -/

namespace Traversal

/-- What goes out of a run. -/
structure RunResult where
  exit : Nat
  stdout : String := ""
  stderr : String := ""
deriving DecidableEq, Repr

/-- What a run sees of the world around it. -/
structure Surroundings where
  env : Environment
  files : Files
  /-- What the endpoint at an address answers to a text. -/
  endpoint : String → String → Reply

/-- The version that the program gives. -/
def versionLine : String := "cayley 0.2.0"

namespace RunResult

def printed (lines : List String) : RunResult :=
  { exit := 0, stdout := String.join (lines.map (· ++ "\n")) }

/-- An error with what lies behind it. -/
def failed (message : String) (causes : List String) : RunResult :=
  { exit := 1
    stderr := "Error: " ++ message ++ "\n" ++
      match causes with
      | [] => ""
      | causes => "\nCaused by:\n" ++ String.join (causes.map ("    " ++ · ++ "\n")) }

def badArguments (error : ArgumentError) : RunResult :=
  { exit := 2, stderr := "error: " ++ error.message ++ "\n" }

def ofBuildError (error : BuildError) : RunResult := failed error.message error.causes

end RunResult

open RunResult

/-- Prints the text of a query; the settings do not matter. -/
def runRender (steps : List StepArg) : RunResult :=
  match Chain.build 0 steps with
  | .ok c => printed [c.text]
  | .error error => ofBuildError error

def runSettings (world : Surroundings) : RunResult :=
  match Settings.resolve world.env world.files with
  | .error error => failed error.message []
  | .ok settings =>
    printed (settings.queryUrl :: (settings.timeout.map fun n => s!"timeout: {n}s").toList)

/-- The chain that the `query` command executes. -/
def Chain.ofCommand (steps : List StepArg) (options : QueryOptions) : Except BuildError Chain :=
  match Chain.build 0 steps with
  | .ok c => c.finish options
  | .error error => .error error

/-- Executes a finished chain in a session of its own. -/
def Chain.execute (c : Chain) (transport : Transport) : Attempt × Session :=
  let (q, s) := Session.adopt {} c
  s.read (fun _ => transport) q

/-- Executes a query and prints its records. -/
def runQuery (world : Surroundings) (steps : List StepArg) (options : QueryOptions) : RunResult :=
  match Settings.resolve world.env world.files with
  | .error error => failed error.message []
  | .ok settings =>
    match Chain.ofCommand steps options with
    | .error error => ofBuildError error
    | .ok c =>
      let url := settings.queryUrl
      let before := "Querying " ++ url ++ " " ++ c.text ++ "\n"
      match (c.execute fun _ text => world.endpoint url text).1 with
      | .error (.external reason) => { exit := 101, stderr := before ++ reason ++ "\n" }
      | .error _ => { exit := 101, stderr := before }
      | .ok (.error error) =>
        let result := failed error.text []
        { result with stderr := before ++ result.stderr }
      | .ok (.ok set) =>
        let result := printed (set.records.map Record.json)
        { result with stderr := before ++ s!"ok {set.size} records\n" }

/-- Runs a command line. -/
def run (world : Surroundings) (args : List String) : RunResult :=
  match Invocation.parse args with
  | .error error => badArguments error
  | .ok (.render steps) => runRender steps
  | .ok (.query steps options) => runQuery world steps options
  | .ok .settings => runSettings world
  | .ok .version => printed [versionLine]
  | .ok (.help command) => printed (helpLines command)

end Traversal
