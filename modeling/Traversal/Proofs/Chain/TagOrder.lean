import Traversal.Proofs.Chain.Acceptance
import Traversal.Proofs.Chain.Tags
import Traversal.Proofs.ClientOp.OnePass

/-! # How tags accumulate

Each link brings its own labels, and the tags of a chain are the labels of its links, root first, each
where it comes first. So what is added to a chain never moves a tag that is there, and a morphism that
is followed brings those of its tags that are new, in its own order. -/

namespace Traversal

/-- What is added are the first occurrences of the tags that are not there yet. -/
theorem addTags_eq_append (known tags : List String) :
    addTags known tags = known ++ (tags.filter (· ∉ known)).eraseDups := by
  induction tags generalizing known with
  | nil => simp [addTags]
  | cons tag rest ih =>
    rw [addTags, List.filter_cons]
    by_cases hm : tag ∈ known
    · rw [if_pos hm, if_neg (by simpa using hm), ih]
    · rw [if_neg hm, if_pos (by simpa using hm), ih, List.eraseDups_cons, List.filter_filter,
        List.append_assoc]
      simp [not_or, beq_eq_decide, Bool.and_comm]

theorem prefix_addTags (known tags : List String) : known <+: addTags known tags := by
  rw [addTags_eq_append]
  exact List.prefix_append _ _

/-- Adding to first occurrences gives the first occurrences of both lists together. -/
theorem addTags_eraseDups (labels more : List String) :
    addTags labels.eraseDups more = (labels ++ more).eraseDups := by
  simp [addTags_eq_append, List.eraseDups_append, List.removeAll]

namespace Chain

/-- The labels of the newest link. A root has the tag `id`, and a step has what its arguments name and
the tags of the morphism it follows. -/
def ownLabels : Chain → List String
  | vertex .. | morphism _ => [idTag]
  | step _ kind args =>
    namedTags kind args ++
      kind.rule.morphismArgs.flatMap fun index => (args[index]?.map Param.chainTags).getD []
  | client .. => []

theorem tags_step (pred : Chain) (kind : StepKind) (args : List Param) :
    (step pred kind args).tags = addTags pred.tags (step pred kind args).ownLabels := by
  simp only [tags, ownLabels, tagsOfArgs_eq_map, List.getElem?_map]

/-- The tags are the first occurrences among the labels of all links. -/
theorem tags_eq_eraseDups (c : Chain) : c.tags = (c.lineage.flatMap ownLabels).eraseDups := by
  cases c with
  | vertex | morphism => simp [tags, lineage, ownLabels, List.eraseDups_cons]
  | step pred kind args =>
    rw [tags_step, tags_eq_eraseDups pred, addTags_eraseDups, lineage, List.flatMap_append,
      List.flatMap_singleton]
  | client pred op =>
    rw [tags, tags_eq_eraseDups pred, lineage, List.flatMap_append, List.flatMap_singleton, ownLabels,
      List.append_nil]

theorem head?_tags (c : Chain) : c.tags.head? = some idTag := by
  cases c with
  | vertex | morphism => rfl
  | step pred kind args =>
    obtain ⟨added, he⟩ := prefix_addTags pred.tags (step pred kind args).ownLabels
    rw [tags_step, ← he, List.head?_append, head?_tags pred, Option.some_or]
  | client pred => exact head?_tags pred

theorem prefix_tags_of_on {c next : Chain} {call : ChainCall} (h : call.on c = .ok next) :
    c.tags <+: next.tags := by
  rcases exists_of_on h with ⟨kind, _, args, _, rfl⟩ | ⟨op, rfl⟩
  · rw [tags_step]
    exact prefix_addTags _ _
  · exact List.prefix_refl _

/-! ## Chains as arguments -/

section Embedded

variable {c : Chain} {kind : StepKind} {args : List Param}

/-- Of the tags of another chain those are added that are new, in their order. -/
theorem addTags_tags (known : List String) (m : Chain) :
    addTags known m.tags = known ++ m.tags.filter (· ∉ known) := by
  rw [addTags_eq_append, ← filter_eraseDups, tags_eq_eraseDups m, eraseDups_eraseDups]

theorem tags_step_of_follows (follows : kind = .follow ∨ kind = .followR) (c m : Chain) :
    (step c kind [.query m]).tags = c.tags ++ m.tags.filter (· ∉ c.tags) := by
  have labels : (step c kind [.query m]).ownLabels = m.tags := by
    rcases follows with rfl | rfl <;>
      simp [ownLabels, namedTags, TagRule.labels, StepKind.rule, StepRule.exactly, Param.chainTags]
  rw [tags_step, labels, addTags_tags]

theorem tags_step_of_combines (combines : kind = .intersect ∨ kind = .union) (c : Chain)
    (args : List Param) : (step c kind args).tags = c.tags := by
  have labels : (step c kind args).ownLabels = [] := by
    rcases combines with rfl | rfl <;> rfl
  rw [tags_step, labels, addTags]

theorem refusal?_eq_none_of_on {call : ChainCall} (h : call.on c = .ok (.step c kind args)) :
    ∃ attempted, c.refusal? kind attempted args = none := by
  rcases exists_of_on h with ⟨_, attempted, _, fits, he⟩ | ⟨op, he⟩
  · cases he
    exact ⟨attempted, fits⟩
  · cases he

/-- A step that follows is accepted with one argument only, which is a morphism. -/
theorem exists_morphism_of_on (follows : kind = .follow ∨ kind = .followR) {call : ChainCall}
    (h : call.on c = .ok (.step c kind args)) :
    ∃ m, args = [.query m] ∧ m.isMorphism = true := by
  obtain ⟨attempted, fits⟩ := refusal?_eq_none_of_on h
  obtain ⟨-, -, arity, -, morphism⟩ := refusal?_eq_none_iff.mp fits
  have number := StepKind.arityError?_eq_none_iff.mp arity
  have one : args.length = 1 := by
    rcases follows with rfl | rfl <;>
      exact Nat.le_antisymm (number.notMore 1 rfl) (number.enough 1 rfl)
  have first : Param.HasMorphism args 0 := by
    rcases follows with rfl | rfl <;>
      exact morphismError?_eq_none_iff.mp morphism 0 List.mem_cons_self
  obtain ⟨arg, rfl⟩ := List.length_eq_one_iff.mp one
  obtain ⟨m, graph, rest, present, lineage_eq⟩ := first
  obtain rfl : arg = .query m := Option.some.inj present
  exact ⟨m, rfl, isMorphism_iff.mpr ⟨graph, rest, lineage_eq⟩⟩

end Embedded

/-- How the tags of a chain come about, and what a call makes of them. -/
structure GathersTags (c : Chain) : Prop where
  nodup : c.tags.Nodup
  head?_eq : c.tags.head? = some idTag
  eq_eraseDups : c.tags = (c.lineage.flatMap ownLabels).eraseDups
  prefix_of_on : ∀ (call : ChainCall) (next : Chain), call.on c = .ok next → c.tags <+: next.tags
  /-- Following gives the tags of a morphism that are new, in its order. -/
  follow : ∀ (call : ChainCall) (kind : StepKind) (args : List Param),
    kind = .follow ∨ kind = .followR → call.on c = .ok (.step c kind args) →
      ∃ m, args = [.query m] ∧ m.isMorphism = true ∧
        (step c kind args).tags = c.tags ++ m.tags.filter (· ∉ c.tags)
  combine : ∀ (call : ChainCall) (kind : StepKind) (args : List Param),
    kind = .intersect ∨ kind = .union → call.on c = .ok (.step c kind args) →
      (step c kind args).tags = c.tags

/-- Tags accumulate so along every chain. -/
theorem gathersTags (c : Chain) : c.GathersTags := by
  constructor
  case nodup => exact c.nodup_tags
  case head?_eq => exact c.head?_tags
  case eq_eraseDups => exact c.tags_eq_eraseDups
  case prefix_of_on => exact fun _ _ h => prefix_tags_of_on h
  case follow =>
    intro call kind args follows accepted
    obtain ⟨m, rfl, starts⟩ := exists_morphism_of_on follows accepted
    exact ⟨m, rfl, starts, tags_step_of_follows follows c m⟩
  case combine => exact fun _ _ args combines _ => tags_step_of_combines combines c args

/-- The tag that is there already and the one that both steps of the morphism name are not repeated,
and the morphism is one that follows another. -/
example :
    let inner : Chain := .step (.morphism 0) .save [.text "p", .text "a"]
    let m : Chain := .client (.step (.step inner .save [.text "p", .text "b"]) .follow [.query inner])
      .distinct
    let c : Chain := .step (.vertex 0 []) .tag [.list [.text "b", .text "id"]]
    (Chain.step c .follow [.query m]).tags = ["id", "b", "a"] := by decide

end Chain

end Traversal
