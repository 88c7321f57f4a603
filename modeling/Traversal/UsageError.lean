import Traversal.Step.Rule
import Traversal.Text.Shown

/-! # Errors of use

What a caller can do wrong when building a query or when asking for the results of one that cannot
be executed. -/

namespace Traversal

inductive UsageError where
  | tooFewArgs (step : StepKind) (expected actual : Nat)
  | tooManyArgs (step : StepKind) (expected actual : Nat)
  | argType (step : StepKind) (index : Nat) (expected : List ParamKind) (actual : ParamKind)
  | morphismRequired (step : StepKind) (index : Nat)
  | terminalChain (terminal : StepKind) (attempted : String)
  | unknownStep (name : String)
  | rootOnlyStep (root : StepKind)
  | notExecutable (query : String) (morphism : Bool)
deriving DecidableEq, Repr

/-- Accepted kinds in words. -/
def ParamKind.alternatives (kinds : List ParamKind) : String :=
  String.intercalate " or " (kinds.map name)

namespace UsageError

/-- The number of arguments is wrong. -/
def isArity : UsageError → Bool
  | tooFewArgs .. | tooManyArgs .. => true
  | _ => false

def message : UsageError → String
  | tooFewArgs step expected actual =>
    s!"{step.name}() takes at least {expected} args, received {actual}"
  | tooManyArgs step expected actual =>
    s!"{step.name}() takes at most {expected} args, received {actual}"
  | argType step index expected actual =>
    step.name ++ "() takes " ++ ParamKind.alternatives expected ++ " as argument "
      ++ toString index ++ ", received " ++ actual.name
  | morphismRequired step index => s!"{step.name}() requires a Morphism as argument {index}"
  | terminalChain terminal attempted =>
    s!"no step may follow terminal step {terminal.name}() (attempted {attempted}())"
  | unknownStep name => s!"unknown step '{name}'"
  | rootOnlyStep root =>
    s!"{root.name}() starts a chain and is only available on the graph handle"
  | notExecutable query _ => s!"query is not terminal and cannot be executed: {query}"

end UsageError

end Traversal
