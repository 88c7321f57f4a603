import Traversal.Proofs.Chain.Calls

/-! # Client operators leave no trace in the query

The client operators can be taken out of what a caller does, also where a query is embedded as an
argument, at any depth. Every other call is then answered as before: what is refused, and why, does
not depend on client operators, nor do the text, the tags and the flags of what is made. -/

namespace Traversal

/-! ## Without client operators -/

mutual

def Param.stripped : Param → Param
  | .null => .null
  | .text s => .text s
  | .int n => .int n
  | .float x => .float x
  | .list items => .list (strippedAll items)
  | .query chain => .query chain.stripped

def strippedAll : List Param → List Param
  | [] => []
  | p :: rest => p.stripped :: strippedAll rest

/-- The chain without client operators, also without those in its arguments. -/
def Chain.stripped : Chain → Chain
  | .vertex graph args => .vertex graph (strippedAll args)
  | .morphism graph => .morphism graph
  | .step pred kind args => .step pred.stripped kind (strippedAll args)
  | .client pred _ => pred.stripped

end

theorem strippedAll_eq_map (args : List Param) : strippedAll args = args.map Param.stripped := by
  induction args with
  | nil => rfl
  | cons p rest ih => simp [strippedAll, ih]

def Root.stripped : Root → Root
  | vertex graph args => vertex graph (strippedAll args)
  | morphism graph => morphism graph

def Call.stripped : Call → Call
  | inward predicate => inward predicate.stripped
  | inwardTagged predicate tags => inwardTagged predicate.stripped tags.stripped
  | outward predicate => outward predicate.stripped
  | outwardTagged predicate tags => outwardTagged predicate.stripped tags.stripped
  | both predicate => both predicate.stripped
  | bothTagged predicate tags => bothTagged predicate.stripped tags.stripped
  | is node => is node.stripped
  | has predicate object => has predicate object
  | tag labels => tag labels.stripped
  | save predicate name => save predicate name
  | back name => back name
  | follow morphism => follow morphism.stripped
  | followR morphism => followR morphism.stripped
  | intersect other => intersect other.stripped
  | union other => union other.stripped
  | all => all
  | getLimit count => getLimit count

/-- The call without client operators in its arguments; nothing, if it asks for one. -/
def ChainCall.stripped? : ChainCall → Option ChainCall
  | addNamed name args => some (addNamed name (strippedAll args))
  | add kind args => some (add kind (strippedAll args))
  | typed call => some (typed call.stripped)
  | client _ => none

/-- The calls that ask for no client operator, without client operators in their arguments. -/
def strippedCalls (calls : List ChainCall) : List ChainCall := calls.filterMap ChainCall.stripped?

/-! ## What stays the same -/

@[simp] theorem Param.kind_stripped (p : Param) : p.stripped.kind = p.kind := by
  cases p <;> rfl

mutual

theorem Param.render_stripped : ∀ p : Param, p.stripped.render = p.render
  | .null | .text _ | .int _ | .float _ => rfl
  | .list items => by rw [Param.stripped, Param.render, Param.render, renderAll_stripped items]
  | .query chain => by rw [Param.stripped, Param.render, Param.render, chain.text_stripped]

theorem renderAll_stripped : ∀ args : List Param, renderAll (strippedAll args) = renderAll args
  | [] => rfl
  | p :: rest => by
    rw [strippedAll, renderAll, renderAll, p.render_stripped, renderAll_stripped rest]

theorem Chain.text_stripped : ∀ c : Chain, c.stripped.text = c.text
  | .vertex _ args => by rw [Chain.stripped, Chain.text, Chain.text, renderAll_stripped args]
  | .morphism _ => rfl
  | .step pred _ args => by
    rw [Chain.stripped, Chain.text, Chain.text, pred.text_stripped, renderAll_stripped args]
  | .client pred _ => by rw [Chain.stripped, Chain.text, pred.text_stripped]

end

theorem Param.label_stripped (p : Param) : p.stripped.label = p.label := by
  cases p with
  | null | text | int | float => rfl
  | list | query => exact Param.render_stripped _

theorem Param.labels_stripped (p : Param) : p.stripped.labels = p.labels := by
  cases p with
  | null | text | int | float => rfl
  | list items => simp [Param.stripped, labels, strippedAll_eq_map, label_stripped]
  | query chain => simp [Param.stripped, labels, label, render, chain.text_stripped]

theorem TagRule.labels_stripped (rule : TagRule) (args : List Param) :
    rule.labels (strippedAll args) = rule.labels args := by
  rw [strippedAll_eq_map]
  cases rule with
  | none => rfl
  | arg index => simp [labels, Param.labels_stripped, Function.comp_def]
  | args start stop =>
    simp only [labels, ← List.map_take, ← List.map_drop, List.flatMap_map, Param.labels_stripped]

theorem namedTags_stripped (kind : StepKind) (args : List Param) :
    namedTags kind (strippedAll args) = namedTags kind args :=
  kind.rule.tagRule.labels_stripped args

mutual

theorem Chain.tags_stripped : ∀ c : Chain, c.stripped.tags = c.tags
  | .vertex .. | .morphism _ => rfl
  | .step pred kind args => by
    rw [Chain.stripped, Chain.tags, Chain.tags, pred.tags_stripped, namedTags_stripped,
      tagsOfArgs_stripped args]
  | .client pred _ => by rw [Chain.stripped, Chain.tags, pred.tags_stripped]

theorem Param.chainTags_stripped : ∀ p : Param, p.stripped.chainTags = p.chainTags
  | .null | .text _ | .int _ | .float _ | .list _ => rfl
  | .query chain => chain.tags_stripped

theorem tagsOfArgs_stripped : ∀ args : List Param, tagsOfArgs (strippedAll args) = tagsOfArgs args
  | [] => rfl
  | p :: rest => by
    rw [strippedAll, tagsOfArgs, tagsOfArgs, p.chainTags_stripped, tagsOfArgs_stripped rest]

end

namespace Chain

theorem isMorphism_stripped (c : Chain) : c.stripped.isMorphism = c.isMorphism := by
  cases c with
  | vertex | morphism => rfl
  | step pred | client pred => exact isMorphism_stripped pred

theorem terminal?_stripped (c : Chain) : c.stripped.terminal? = c.terminal? := by
  cases c with
  | vertex | morphism | step => rfl
  | client pred => exact terminal?_stripped pred

end Chain

theorem Param.isMorphism_stripped (p : Param) : p.stripped.isMorphism = p.isMorphism := by
  cases p with
  | query chain => exact chain.isMorphism_stripped
  | null | text | int | float | list => rfl

theorem argKindError?_stripped (kind : StepKind) (args : List Param) :
    argKindError? kind (strippedAll args) = argKindError? kind args := by
  unfold argKindError?
  congr 1
  funext ⟨index, accepted⟩
  simp only [strippedAll_eq_map, List.getElem?_map]
  cases args[index]? with
  | none => rfl
  | some arg => simp

theorem morphismError?_stripped (kind : StepKind) (args : List Param) :
    morphismError? kind (strippedAll args) = morphismError? kind args := by
  unfold morphismError?
  congr 1
  funext index
  rw [strippedAll_eq_map, List.getElem?_map, Option.any_map]
  simp [Param.isMorphism_stripped]

theorem Chain.refusal?_stripped (c : Chain) (kind : StepKind) (attempted : String)
    (args : List Param) :
    c.stripped.refusal? kind attempted (strippedAll args) = c.refusal? kind attempted args := by
  rw [refusal?, refusal?, c.terminal?_stripped, argKindError?_stripped, morphismError?_stripped,
    strippedAll_eq_map, List.length_map]

/-! ## Calls -/

theorem Call.kind_stripped (call : Call) : call.stripped.kind = call.kind := by
  cases call <;> rfl

theorem Call.args_stripped (call : Call) : call.stripped.args = strippedAll call.args := by
  cases call <;> rfl

theorem Root.chain_stripped (root : Root) : root.stripped.chain = root.chain.stripped := by
  cases root <;> rfl

namespace Chain

theorem extend_stripped (c : Chain) (kind : StepKind) (attempted : String) (args : List Param) :
    c.stripped.extend kind attempted (strippedAll args) =
      (c.extend kind attempted args).map stripped := by
  rw [extend, extend, refusal?_stripped]
  cases c.refusal? kind attempted args <;> rfl

/-- A call without client operators does to the chain without them what the call does to the
chain. -/
theorem on_stripped (c : Chain) {call bare : ChainCall} (h : call.stripped? = some bare) :
    bare.on c.stripped = (call.on c).map stripped := by
  cases call with
  | addNamed name args =>
    obtain rfl := Option.some.inj h
    rw [ChainCall.on, ChainCall.on, addNamed, addNamed]
    cases StepKind.ofName name with
    | ok kind => exact c.extend_stripped kind name args
    | error error => rfl
  | add kind args =>
    obtain rfl := Option.some.inj h
    exact c.extend_stripped kind kind.name args
  | typed call =>
    obtain rfl := Option.some.inj h
    rw [ChainCall.on, ChainCall.on, Chain.call, call.kind_stripped, call.args_stripped]
    exact c.extend_stripped call.kind call.kind.name call.args
  | client op => cases h

/-- Taking the client operators out of the calls takes them out of the chain. -/
theorem after_stripped (c : Chain) (calls : List ChainCall) :
    c.stripped.after (strippedCalls calls) = (c.after calls).stripped := by
  induction calls generalizing c with
  | nil => rfl
  | cons call rest ih =>
    rw [after]
    cases hcall : call.stripped? with
    | none =>
      obtain ⟨op, rfl⟩ : ∃ op, call = .client op := by
        cases call with
        | client op => exact ⟨op, rfl⟩
        | addNamed | add | typed => cases hcall
      -- the operator is no stripped call, and no link of the stripped chain
      exact ih (.client c op)
    | some bare =>
      rw [strippedCalls, List.filterMap_cons_some hcall, after, c.on_stripped hcall]
      cases call.on c with
      | ok next => exact ih next
      | error error => exact ih c

/-- Neither the server nor a caller who adds steps can tell the chains apart. -/
structure Alike (c d : Chain) : Prop where
  text : c.text = d.text
  tags : c.tags = d.tags
  isTerminal : c.isTerminal = d.isTerminal
  isMorphism : c.isMorphism = d.isMorphism

theorem alike_stripped (c : Chain) : c.Alike c.stripped where
  text := c.text_stripped.symm
  tags := c.tags_stripped.symm
  isTerminal := by rw [isTerminal, isTerminal, terminal?_stripped]
  isMorphism := c.isMorphism_stripped.symm

/-- After any calls, refused ones among them, the same calls without client operators have made the
chain without client operators. It is like the chain itself, and whatever else is asked of the two
is answered alike. -/
theorem stripped_calls_alike (root : Root) (calls : List ChainCall) :
    let c := root.chain.after calls
    let bare := root.stripped.chain.after (strippedCalls calls)
    bare = c.stripped ∧ c.Alike bare ∧
      ∀ call bareCall : ChainCall, call.stripped? = some bareCall →
        ((∃ next, call.on c = .ok next) ↔ ∃ next, bareCall.on bare = .ok next) ∧
        ∀ error, call.on c = .error error ↔ bareCall.on bare = .error error := by
  intro c bare
  have made : bare = c.stripped := by
    rw [← after_stripped root.chain calls, ← root.chain_stripped]
  rw [made]
  refine ⟨rfl, c.alike_stripped, fun call bareCall h => ?_⟩
  rw [c.on_stripped h]
  cases call.on c with
  | ok next => simp [Except.map]
  | error error => simp [Except.map]

/-- Operators before a refused call, in a followed morphism and in what the morphism itself embeds. -/
theorem stripped_calls_alike_embedded :
    let inner : Chain := .client (.vertex 1 [.text "b"]) (.map (.cleanRdf "en"))
    let path : Chain := .client (.step (.morphism 0) .intersect [.query inner]) .distinct
    let c := (Root.vertex 0 []).chain.after
      [.client .distinct, .add .all [.null], .client (.filter (.language "en"))]
    let bare := (Root.vertex 0 []).chain.after [.add .all [.null]]
    let call : ChainCall := .typed (.follow path)
    let bareCall : ChainCall :=
      .typed (.follow (.step (.morphism 0) .intersect [.query (.vertex 1 [.text "b"])]))
    call.stripped? = some bareCall ∧
      ((∃ next, call.on c = .ok next) ↔ ∃ next, bareCall.on bare = .ok next) :=
  ⟨rfl, ((stripped_calls_alike (.vertex 0 []) [.client .distinct, .add .all [.null],
    .client (.filter (.language "en"))]).2.2 _ _ rfl).1⟩

end Chain

end Traversal
