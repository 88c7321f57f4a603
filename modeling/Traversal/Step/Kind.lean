/-! # Steps of a query

Two steps start a query; the others follow a step. -/

namespace Traversal

inductive StepKind where
  | vertex | morphism
  | inward | outward | both
  | is | has
  | tag | save | back
  | follow | followR
  | intersect | union
  | all | getLimit
deriving DecidableEq, Repr

namespace StepKind

/-- All steps, in the order in which they are listed. -/
def every : List StepKind :=
  [vertex, morphism, inward, outward, both, is, has, tag, save, back, follow, followR, intersect,
   union, all, getLimit]

theorem mem_every (kind : StepKind) : kind ∈ every := by
  cases kind <;> decide

/-- The name in the query's text. -/
def name : StepKind → String
  | vertex => "Vertex"
  | morphism => "Morphism"
  | inward => "In"
  | outward => "Out"
  | both => "Both"
  | is => "Is"
  | has => "Has"
  | tag => "Tag"
  | save => "Save"
  | back => "Back"
  | follow => "Follow"
  | followR => "FollowR"
  | intersect => "Intersect"
  | union => "Union"
  | all => "All"
  | getLimit => "GetLimit"

/-- Other names by which the step can be asked for. -/
def aliases : StepKind → List String
  | vertex => ["V"]
  | morphism => ["M"]
  | tag => ["As"]
  | intersect => ["And"]
  | union => ["Or"]
  | _ => []

end StepKind

/-- The shapes of arguments. -/
inductive ParamKind where
  | null | string | integer | float | sequence | query
deriving DecidableEq, Repr

def ParamKind.name : ParamKind → String
  | .null => "null"
  | .string => "string"
  | .integer => "integer"
  | .float => "float"
  | .sequence => "sequence"
  | .query => "query"

end Traversal
