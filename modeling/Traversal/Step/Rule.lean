import Traversal.Step.Kind

/-! # Rules of the steps

What each step accepts and what it contributes to the tags of a query. -/

namespace Traversal

/-- Which arguments name tags. -/
inductive TagRule where
  | none
  | arg (index : Nat)
  /-- The arguments from `start` on, up to the one before `stop`. -/
  | args (start stop : Nat)
deriving DecidableEq, Repr

structure StepRule where
  minArgs : Option Nat := none
  maxArgs : Option Nat := none
  /-- Positions and the kinds accepted there. -/
  argKinds : List (Nat × List ParamKind) := []
  /-- The arguments whose labels become tags. -/
  tagRule : TagRule := .none
  /-- Positions that take a query that starts at a morphism; its tags are added. -/
  morphismArgs : List Nat := []
  /-- No step follows a terminal step, and a query with one can be executed. -/
  terminal : Bool := false
  /-- The step starts a query and follows nothing. -/
  startsQuery : Bool := false
deriving DecidableEq, Repr

namespace StepRule

/-- Exactly `n` arguments. -/
def exactly (n : Nat) : StepRule := { minArgs := some n, maxArgs := some n }

/-- Position of the argument that names tags, if it is a single one. -/
def tagArg (rule : StepRule) : Option Nat :=
  match rule.tagRule with
  | .arg index => some index
  | .none | .args .. => none

end StepRule

namespace StepKind

open StepRule

def rule : StepKind → StepRule
  | vertex => { startsQuery := true }
  | morphism => { maxArgs := some 0, startsQuery := true }
  | inward | outward | both => { maxArgs := some 2, tagRule := .arg 1 }
  | is => { minArgs := some 1 }
  | has => { exactly 2 with argKinds := [(0, [.string]), (1, [.string])] }
  | tag => { exactly 1 with argKinds := [(0, [.string, .sequence])], tagRule := .arg 0 }
  | save => { exactly 2 with argKinds := [(0, [.string]), (1, [.string])], tagRule := .arg 1 }
  | back => { exactly 1 with tagRule := .arg 0 }
  | follow | followR => { exactly 1 with morphismArgs := [0] }
  | intersect | union => { exactly 1 with argKinds := [(0, [.query])] }
  | all => { maxArgs := some 0, terminal := true }
  | getLimit => { exactly 1 with argKinds := [(0, [.integer])], terminal := true }

end StepKind

end Traversal
