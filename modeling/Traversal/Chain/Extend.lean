import Traversal.Chain.Tags

/-! # Adding a step to a chain

A step is refused for the first of these reasons: it starts queries, the chain is terminal, the
number of arguments is wrong, an argument is of a wrong kind, an argument that has to be a morphism
is not. -/

namespace Traversal

/-- The first argument of a wrong kind. -/
def argKindError? (kind : StepKind) (args : List Param) : Option UsageError :=
  kind.rule.argKinds.findSome? fun (index, accepted) =>
    match args[index]? with
    | some arg =>
      if arg.kind ∈ accepted then none else some (.argType kind index accepted arg.kind)
    | none => none

/-- The argument is a chain that starts at a morphism. -/
def Param.isMorphism (p : Param) : Bool := p.query?.any Chain.isMorphism

def morphismError? (kind : StepKind) (args : List Param) : Option UsageError :=
  kind.rule.morphismArgs.findSome? fun index =>
    if args[index]?.any Param.isMorphism then none else some (.morphismRequired kind index)

namespace Chain

/-- Why the step cannot be added; `attempted` is the name by which it was asked for. -/
def refusal? (c : Chain) (kind : StepKind) (attempted : String) (args : List Param) :
    Option UsageError :=
  (if kind.rule.startsQuery then some (.rootOnlyStep kind) else none).or <|
  (c.terminal?.map fun terminal => .terminalChain terminal attempted).or <|
  (kind.arityError? args.length).or <|
  (argKindError? kind args).or <|
  morphismError? kind args

/-- Adds a step asked for by the given name. -/
def extend (c : Chain) (kind : StepKind) (attempted : String) (args : List Param) :
    Except UsageError Chain :=
  match c.refusal? kind attempted args with
  | some error => .error error
  | none => .ok (.step c kind args)

/-- Adds the step of that name or alias. -/
def addNamed (c : Chain) (name : String) (args : List Param) : Except UsageError Chain :=
  match StepKind.ofName name with
  | .ok kind => c.extend kind name args
  | .error error => .error error

/-- Adds a step. -/
def add (c : Chain) (kind : StepKind) (args : List Param) : Except UsageError Chain :=
  c.extend kind kind.name args

def distinct (c : Chain) : Chain := .client c .distinct

def filter (c : Chain) (predicate : Predicate) : Chain := .client c (.filter predicate)

def map (c : Chain) (transform : Transform) : Chain := .client c (.map transform)

end Chain

end Traversal
