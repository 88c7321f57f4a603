import Traversal.UsageError

/-! # Steps by name

A step that follows another is found by its name or an alias. The names of the steps that start a
query are known, but lead to an error of their own. -/

namespace Traversal.StepKind

/-- The step is called so. -/
def answersTo (kind : StepKind) (called : String) : Bool :=
  kind.name == called || kind.aliases.contains called

/-- The steps that follow another step. -/
def chainable : List StepKind :=
  every.filter fun kind => !kind.rule.startsQuery

def ofName (called : String) : Except UsageError StepKind :=
  match chainable.find? (·.answersTo called) with
  | some kind => .ok kind
  | none =>
    match every.find? fun kind => kind.rule.startsQuery && kind.answersTo called with
    | some root => .error (.rootOnlyStep root)
    | none => .error (.unknownStep called)

/-- All names and aliases of the steps that follow another step, in alphabetical order. -/
def chainableNames : List String :=
  (chainable.flatMap fun kind => kind.name :: kind.aliases).mergeSort fun a b => decide (a ≤ b)

/-- The error of a wrong number of arguments. -/
def arityError? (kind : StepKind) (actual : Nat) : Option UsageError :=
  let few := kind.rule.minArgs.bind fun least =>
    if actual < least then some (.tooFewArgs kind least actual) else none
  let many := kind.rule.maxArgs.bind fun most =>
    if most < actual then some (.tooManyArgs kind most actual) else none
  few.or many

end Traversal.StepKind
