import Traversal.Chain.Call
import Traversal.Command.StepArg

/-! # Queries from steps on the command line

The first step is the root; the others are added from left to right. Options then make the query
executable and add client operators. -/

namespace Traversal

inductive BuildError where
  | noSteps
  | rootArgs (name : String)
  | notRoot (name : String)
  | badArgument (step : String) (cause : ArgError)
  | limitOnTerminal
  | usage (error : UsageError)
deriving DecidableEq, Repr

namespace BuildError

def message : BuildError → String
  | noSteps => "a query needs at least a root step (V or M)"
  | rootArgs name => s!"`{name}` takes no arguments"
  | notRoot name => s!"query must start with V/Vertex or M/Morphism, not `{name}`"
  | badArgument step _ => s!"in step `{step}`"
  | limitOnTerminal => "--limit cannot be combined with a query that already ends in All/GetLimit"
  | usage error => error.message

/-- What lies behind the message. -/
def causes : BuildError → List String
  | badArgument _ cause => [cause.message]
  | _ => []

end BuildError

/-- The step's arguments. -/
def StepArg.params (step : StepArg) : Except BuildError (List Param) :=
  match paramsOfJson step.args with
  | .ok params => .ok params
  | .error cause => .error (.badArgument step.name cause)

namespace Chain

/-- The chain that a root step makes. -/
def ofRoot (graph : GraphId) (root : StepArg) : Except BuildError Chain :=
  if root.name = "V" ∨ root.name = "Vertex" then
    match root.params with
    | .ok params => .ok (.vertex graph params)
    | .error error => .error error
  else if root.name = "M" ∨ root.name = "Morphism" then
    if root.args.isEmpty then .ok (.morphism graph) else .error (.rootArgs root.name)
  else .error (.notRoot root.name)

/-- Adds one step. -/
def addStep (c : Chain) (arg : StepArg) : Except BuildError Chain :=
  match arg.params with
  | .error error => .error error
  | .ok params =>
    match c.addNamed arg.name params with
    | .ok next => .ok next
    | .error error => .error (.usage error)

/-- Adds steps from left to right. -/
def addSteps (c : Chain) : List StepArg → Except BuildError Chain
  | [] => .ok c
  | arg :: rest =>
    match c.addStep arg with
    | .ok next => next.addSteps rest
    | .error error => .error error

/-- The chain that a list of steps makes. -/
def build (graph : GraphId) : List StepArg → Except BuildError Chain
  | [] => .error .noSteps
  | root :: rest =>
    match ofRoot graph root with
    | .ok c => c.addSteps rest
    | .error error => .error error

end Chain

/-- What shapes a query after it is built. -/
structure QueryOptions where
  distinct : Bool := false
  clean : Bool := false
  language : Option String := none
  limit : Option Int64 := none
deriving DecidableEq, Repr

namespace Chain

/-- The call that ends a query. -/
def endCall : Option Int64 → Call
  | some count => .getLimit count
  | none => .all

/-- Ends the chain with a terminal step, unless it has one; then there is no limit to be set. -/
def ensureTerminal (c : Chain) (limit : Option Int64) : Except BuildError Chain :=
  if c.isTerminal then
    if limit.isSome then .error .limitOnTerminal else .ok c
  else
    match c.call (endCall limit) with
    | .ok ended => .ok ended
    | .error error => .error (.usage error)

/-- The language filter comes first, then repeated records are dropped, then values are cleaned. -/
def withOperators (c : Chain) (options : QueryOptions) : Chain :=
  let c := match options.language with
    | some language => c.filter (.language language)
    | none => c
  let c := if options.distinct then c.distinct else c
  if options.clean then c.map (.cleanRdf (options.language.getD Rdf.defaultLanguage)) else c

/-- Makes the chain executable as the options say. -/
def finish (c : Chain) (options : QueryOptions) : Except BuildError Chain :=
  match c.ensureTerminal options.limit with
  | .ok ended => .ok (ended.withOperators options)
  | .error error => .error error

end Chain

end Traversal
