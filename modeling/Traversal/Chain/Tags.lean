import Traversal.Chain.Text

/-! # The tags of a query

Each record of a reply has a value under every tag of the query. The root gives the tag `id`, steps
give the labels in their arguments, and a step that follows a morphism gives the tags of that. A tag
counts where it comes first. -/

namespace Traversal

def idTag : String := "id"

namespace Param

/-- The argument as a tag: what it denotes, where that is a text or number, and else its text. -/
def label : Param → String
  | text s => s
  | int n => toString n.toInt
  | float x => layout.write x
  | p => p.render

/-- The tags that an argument names. -/
def labels : Param → List String
  | null => []
  | list items => items.map label
  | p => [p.label]

end Param

/-- Adds the tags that are not there yet, in their order. -/
def addTags (known : List String) : List String → List String
  | [] => known
  | tag :: rest => addTags (if tag ∈ known then known else known ++ [tag]) rest

/-- The labels in the arguments that the rule names, as far as these are given. -/
def TagRule.labels (rule : TagRule) (args : List Param) : List String :=
  match rule with
  | .none => []
  | .arg index => (args[index]?.map Param.labels).getD []
  | .args start stop => ((args.take stop).drop start).flatMap Param.labels

/-- The labels in the arguments that the step's rule names. -/
def namedTags (kind : StepKind) (args : List Param) : List String :=
  kind.rule.tagRule.labels args

mutual

/-- The tags of the whole chain, root first. -/
def Chain.tags : Chain → List String
  | .vertex .. => [idTag]
  | .morphism _ => [idTag]
  | .step pred kind args =>
    addTags pred.tags
      (namedTags kind args ++
        kind.rule.morphismArgs.flatMap fun index => ((tagsOfArgs args)[index]?).getD [])
  | .client pred _ => pred.tags

/-- The tags of an argument that is a chain. -/
def Param.chainTags : Param → List String
  | .query chain => chain.tags
  | _ => []

def tagsOfArgs : List Param → List (List String)
  | [] => []
  | p :: rest => p.chainTags :: tagsOfArgs rest

end

theorem tagsOfArgs_eq_map (args : List Param) : tagsOfArgs args = args.map Param.chainTags := by
  induction args with
  | nil => rfl
  | cons p rest ih => simp [tagsOfArgs, ih]

end Traversal
