import Traversal.Proofs.Chain.Calls
import Traversal.Proofs.Step.Lookup

/-! # The shape of a chain

The links of a chain, root first. Whatever calls make a chain, it has one root, at its start, and at
most one terminal step, after which there are only client operators. That a chain starts at a
morphism and which graph it is for can be seen at each of its links. -/

namespace Traversal.Chain

/-- The links from the root on. A link is the chain that ends in it. -/
def lineage : Chain → List Chain
  | vertex graph args => [vertex graph args]
  | morphism graph => [morphism graph]
  | step pred kind args => pred.lineage ++ [step pred kind args]
  | client pred op => pred.lineage ++ [client pred op]

/-- The newest link is a terminal step. -/
def isTerminalStep (c : Chain) : Bool := c.kind?.any fun kind => kind.rule.terminal

/-- The arguments of the newest link, as they stand in the text. -/
def writtenArgs : Chain → List String
  | vertex _ args => renderAll args
  | morphism _ => []
  | step _ _ args => renderAll args
  | client .. => []

/-! ## Links of any chain -/

@[simp] theorem kind?_step (pred : Chain) (kind : StepKind) (args : List Param) :
    (step pred kind args).kind? = some kind := rfl

@[simp] theorem kind?_client (pred : Chain) (op : ClientOp) : (client pred op).kind? = none := rfl

theorem lineage_eq_append (c : Chain) :
    c.lineage = (c.pred?.map lineage).getD [] ++ [c] := by
  cases c <;> rfl

theorem getLast?_lineage (c : Chain) : c.lineage.getLast? = some c := by
  simp [lineage_eq_append c]

/-- The first link is a root, and each of the others is made from the link before it. -/
theorem exists_first (c : Chain) : ∃ first rest, c.lineage = first :: rest ∧ first.pred? = none ∧
    ∀ link ∈ rest, link.pred? ≠ none := by
  cases c with
  | vertex graph args => exact ⟨_, [], rfl, rfl, by simp⟩
  | morphism graph => exact ⟨_, [], rfl, rfl, by simp⟩
  | step pred | client pred =>
    obtain ⟨first, rest, lineage_eq, root, made⟩ := exists_first pred
    refine ⟨first, rest ++ [_], by rw [lineage, lineage_eq, List.cons_append], root, ?_⟩
    intro link mem
    rcases List.mem_append.mp mem with old | new
    · exact made link old
    · obtain rfl := List.mem_singleton.mp new
      simp [pred?]

/-- What every chain has from the chain before it, all links of a chain have alike. -/
theorem eq_of_mem_lineage {α : Type} {f : Chain → α} (h : ∀ c, ∀ pred ∈ c.pred?, f c = f pred)
    {c link : Chain} (mem : link ∈ c.lineage) : f link = f c := by
  rw [lineage_eq_append, List.mem_append, List.mem_singleton] at mem
  rcases mem with old | rfl
  · cases c with
    | vertex | morphism => cases old
    | step pred | client pred => exact (eq_of_mem_lineage h old).trans (h _ pred rfl).symm
  · rfl

theorem isMorphism_eq_of_pred (c : Chain) : ∀ pred ∈ c.pred?, c.isMorphism = pred.isMorphism := by
  cases c <;> rintro _ ⟨⟩ <;> rfl

theorem graph_eq_of_pred (c : Chain) : ∀ pred ∈ c.pred?, c.graph = pred.graph := by
  cases c <;> rintro _ ⟨⟩ <;> rfl

theorem isMorphism_iff_of_root {c : Chain} (h : c.pred? = none) :
    c.isMorphism = true ↔ c.kind? = some .morphism := by
  cases c with
  | vertex => simp [isMorphism, kind?]
  | morphism => simp [isMorphism, kind?]
  | step | client => cases h

theorem countP_steps (c : Chain) :
    c.steps.countP (·.rule.terminal) = c.lineage.countP isTerminalStep := by
  cases c with
  | vertex | morphism => rfl
  | step pred kind args =>
    rw [steps, lineage, List.countP_append, List.countP_append, countP_steps pred]
    rfl
  | client pred op =>
    rw [steps, lineage, List.countP_append, countP_steps pred]
    rfl

/-! ## Links of a chain that calls make -/

namespace Reachable

variable {c : Chain}

theorem of_mem (h : c.Reachable) {link : Chain} (mem : link ∈ c.lineage) : link.Reachable := by
  induction h with
  | vertex graph args =>
    obtain rfl := List.mem_singleton.mp mem
    exact .vertex graph args
  | morphism graph =>
    obtain rfl := List.mem_singleton.mp mem
    exact .morphism graph
  | step hp fits ih =>
    rcases List.mem_append.mp mem with old | new
    · exact ih old
    · obtain rfl := List.mem_singleton.mp new
      exact .step hp fits
  | client op hp ih =>
    rcases List.mem_append.mp mem with old | new
    · exact ih old
    · obtain rfl := List.mem_singleton.mp new
      exact .client op hp

theorem takes (h : c.Reachable) {kind : StepKind} (hk : c.kind? = some kind) :
    kind.rule.Takes c.writtenArgs.length := by
  cases h with
  | vertex graph args =>
    obtain rfl := Option.some.inj hk
    exact ⟨by simp [StepKind.rule], by simp [StepKind.rule]⟩
  | morphism graph =>
    obtain rfl := Option.some.inj hk
    exact ⟨by simp [StepKind.rule], by simp [StepKind.rule, writtenArgs]⟩
  | step _ fits =>
    obtain rfl := Option.some.inj hk
    rw [writtenArgs, renderAll_eq_map, List.length_map]
    exact StepKind.arityError?_eq_none_iff.mp (refusal?_eq_none_iff.mp fits).2.2.1
  | client => cases hk

theorem startsQuery_eq_false (h : c.Reachable) (made : c.pred? ≠ none) {kind : StepKind}
    (hk : c.kind? = some kind) : kind.rule.startsQuery = false := by
  cases h with
  | vertex | morphism => exact absurd rfl made
  | step _ fits =>
    obtain rfl := Option.some.inj hk
    exact (refusal?_eq_none_iff.mp fits).1
  | client => cases hk

/-- What ends the chain is the terminal step among its links. -/
theorem terminal?_eq_some_iff (h : c.Reachable) {terminal : StepKind} :
    c.terminal? = some terminal ↔
      ∃ link ∈ c.lineage, link.kind? = some terminal ∧ terminal.rule.terminal = true := by
  induction h with
  | vertex | morphism =>
    simp only [terminal?, lineage, List.mem_singleton, exists_eq_left, kind?, Option.some.injEq]
    constructor
    · rintro ⟨⟩
    · rintro ⟨rfl, ⟨⟩⟩
  | @step pred kind _ args _ fits ih =>
    -- the chain before a step is not terminal, so none of its links is a terminal step
    rw [terminal?_eq_none.mpr (refusal?_eq_none_iff.mp fits).2.1] at ih
    simp only [terminal?, lineage, List.mem_append, List.mem_singleton, or_and_right, exists_or,
      exists_eq_left, ← ih, kind?_step, Option.some.injEq, reduceCtorEq, false_or]
    constructor
    · intro ends
      obtain ⟨ends, ⟨⟩⟩ := Option.ite_none_right_eq_some.mp ends
      exact ⟨rfl, ends⟩
    · rintro ⟨rfl, ends⟩
      exact if_pos ends
  | client op _ ih =>
    rw [terminal?, ih, lineage]
    simp [or_and_right, exists_or]

/-- A chain is terminal if any of its links is a terminal step. -/
theorem isTerminal_iff (h : c.Reachable) :
    c.isTerminal = true ↔ ∃ link ∈ c.lineage, link.isTerminalStep = true := by
  simp only [isTerminal, Option.isSome_iff_exists, h.terminal?_eq_some_iff, isTerminalStep,
    Option.any_eq_true]
  constructor
  · rintro ⟨terminal, link, mem, ends⟩
    exact ⟨link, mem, terminal, ends⟩
  · rintro ⟨link, mem, terminal, ends⟩
    exact ⟨terminal, link, mem, ends⟩

/-- After a terminal step there are client operators only. -/
theorem pairwise_lineage (h : c.Reachable) : c.lineage.Pairwise fun earlier later =>
    earlier.isTerminalStep = true → later.kind? = none := by
  induction h with
  | vertex | morphism => exact List.pairwise_singleton _ _
  | @step pred _ _ _ hp fits ih =>
    rw [lineage, List.pairwise_append]
    refine ⟨ih, List.pairwise_singleton _ _, fun earlier mem _ _ ends => ?_⟩
    have terminal : pred.isTerminal = true := hp.isTerminal_iff.mpr ⟨earlier, mem, ends⟩
    rw [(refusal?_eq_none_iff.mp fits).2.1] at terminal
    cases terminal
  | client op _ ih =>
    rw [lineage, List.pairwise_append]
    refine ⟨ih, List.pairwise_singleton _ _, fun _ _ later mem _ => ?_⟩
    obtain rfl := List.mem_singleton.mp mem
    rfl

/-- A chain has one terminal step if it is terminal, and none if it is not. -/
theorem countP_lineage (h : c.Reachable) :
    c.lineage.countP isTerminalStep = c.isTerminal.toNat := by
  rw [← h.countP_terminal, countP_steps]

end Reachable

/-! ## The shape -/

/-- The links of the chain are `first` and then `rest`, and this is how they go together. -/
structure HasShape (c first : Chain) (rest : List Chain) : Prop where
  lineage_eq : c.lineage = first :: rest
  getLast?_eq : c.lineage.getLast? = some c
  root : first.kind? = some .vertex ∨ first.kind? = some .morphism
  follow : ∀ link ∈ rest, ∀ kind ∈ link.kind?, kind.rule.startsQuery = false
  one_terminal : c.lineage.countP isTerminalStep ≤ 1
  /-- After a terminal step there are client operators only. -/
  clients_last : c.lineage.Pairwise fun earlier later =>
    earlier.isTerminalStep = true → later.kind? = none
  terminal : c.isTerminal = true ↔ ∃ link ∈ c.lineage, link.isTerminalStep = true
  morphism : ∀ link ∈ c.lineage, link.isMorphism = true ↔ first.kind? = some .morphism
  graph : ∀ link ∈ c.lineage, link.graph = first.graph
  takes : ∀ link ∈ c.lineage, ∀ kind ∈ link.kind?, kind.rule.Takes link.writtenArgs.length
  no_args : ∀ link ∈ c.lineage, link.kind? = some .morphism → link.writtenArgs = []

/-- What calls make has this shape, whichever they are and whichever of them are refused. -/
theorem exists_shape_after (root : Root) (calls : List ChainCall) :
    ∃ first rest, (root.chain.after calls).HasShape first rest := by
  have h : (root.chain.after calls).Reachable := (reachable_root root).after calls
  generalize root.chain.after calls = c at h ⊢
  obtain ⟨first, rest, lineage_eq, isRoot, made⟩ := exists_first c
  have first_mem : first ∈ c.lineage := lineage_eq ▸ List.mem_cons_self
  refine ⟨first, rest, ?_⟩
  constructor
  case lineage_eq => exact lineage_eq
  case getLast?_eq => exact c.getLast?_lineage
  case root =>
    cases first with
    | vertex => exact .inl rfl
    | morphism => exact .inr rfl
    | step | client => cases isRoot
  case follow =>
    intro link mem kind hk
    have link_mem : link ∈ c.lineage := lineage_eq ▸ List.mem_cons_of_mem first mem
    exact (h.of_mem link_mem).startsQuery_eq_false (made link mem) hk
  case one_terminal =>
    rw [h.countP_lineage]
    exact Bool.toNat_le _
  case clients_last => exact h.pairwise_lineage
  case terminal => exact h.isTerminal_iff
  case morphism =>
    intro link mem
    rw [eq_of_mem_lineage isMorphism_eq_of_pred mem,
      ← eq_of_mem_lineage isMorphism_eq_of_pred first_mem]
    exact isMorphism_iff_of_root isRoot
  case graph =>
    intro link mem
    rw [eq_of_mem_lineage graph_eq_of_pred mem, eq_of_mem_lineage graph_eq_of_pred first_mem]
  case takes => exact fun link mem kind hk => (h.of_mem mem).takes hk
  case no_args =>
    intro link mem hk
    exact List.length_eq_zero_iff.mp (Nat.le_zero.mp (((h.of_mem mem).takes hk).notMore 0 rfl))

end Traversal.Chain
