import Traversal.Chain.Extend

/-! # The chains that calls make

A chain starts at a root, and every step after it is one that the chain before it did not refuse. A
terminal chain refuses every step, so a terminal step is the last step of its chain. -/

namespace Traversal.Chain

/-- The chains that calls make. -/
inductive Reachable : Chain → Prop
  | vertex (graph : GraphId) (args : List Param) : Reachable (.vertex graph args)
  | morphism (graph : GraphId) : Reachable (.morphism graph)
  | step {pred : Chain} {kind : StepKind} {attempted : String} {args : List Param}
      (hp : Reachable pred) (h : pred.refusal? kind attempted args = none) :
      Reachable (.step pred kind args)
  | client {pred : Chain} (op : ClientOp) (hp : Reachable pred) : Reachable (.client pred op)

/-- The kinds of the steps, root first. -/
def steps : Chain → List StepKind
  | vertex .. => [.vertex]
  | morphism _ => [.morphism]
  | step pred kind _ => pred.steps ++ [kind]
  | client pred _ => pred.steps

/-! ## Terminal steps -/

theorem terminal?_eq_none {c : Chain} : c.terminal? = none ↔ c.isTerminal = false := by
  rw [isTerminal, Option.isSome_eq_false_iff, Option.isNone_iff_eq_none]

@[simp] theorem isTerminal_step (pred : Chain) (kind : StepKind) (args : List Param) :
    (step pred kind args).isTerminal = kind.rule.terminal := by
  rw [isTerminal, terminal?]
  cases kind.rule.terminal <;> rfl

@[simp] theorem isTerminal_client (pred : Chain) (op : ClientOp) :
    (client pred op).isTerminal = pred.isTerminal := rfl

/-- What is refused does not depend on the name by which it was asked for. -/
theorem refusal?_eq_none_iff {c : Chain} {kind : StepKind} {attempted : String}
    {args : List Param} : c.refusal? kind attempted args = none ↔
      kind.rule.startsQuery = false ∧ c.isTerminal = false ∧ kind.arityError? args.length = none ∧
        argKindError? kind args = none ∧ morphismError? kind args = none := by
  simp only [refusal?, Option.or_eq_none_iff, Option.map_eq_none_iff, terminal?_eq_none]
  cases kind.rule.startsQuery <;> simp

theorem extend_eq_ok {c next : Chain} {kind : StepKind} {attempted : String} {args : List Param} :
    c.extend kind attempted args = .ok next ↔
      c.refusal? kind attempted args = none ∧ next = .step c kind args := by
  rw [extend]
  cases c.refusal? kind attempted args with
  | none => simp [eq_comm]
  | some error => simp

theorem exists_of_addNamed {c next : Chain} {name : String} {args : List Param}
    (h : c.addNamed name args = .ok next) :
    ∃ kind, c.refusal? kind name args = none ∧ next = .step c kind args := by
  rw [addNamed] at h
  cases hkind : StepKind.ofName name with
  | error error => simp [hkind] at h
  | ok kind =>
    rw [hkind] at h
    exact ⟨kind, extend_eq_ok.mp h⟩

/-- A chain that calls make has one terminal step if it is terminal, and none if it is not. -/
theorem Reachable.countP_terminal {c : Chain} (h : c.Reachable) :
    c.steps.countP (·.rule.terminal) = c.isTerminal.toNat := by
  induction h with
  | vertex | morphism => rfl
  | @step pred kind _ _ _ refused ih =>
    -- the step was not refused, so there is no terminal step before it
    rw [(refusal?_eq_none_iff.mp refused).2.1] at ih
    rw [steps, List.countP_append, ih, isTerminal_step]
    cases hk : kind.rule.terminal <;> simp [hk]
  | client _ _ ih => exact ih

/-! ## Client operators after a chain -/

section Client

variable (ops : List ClientOp)

/-- What one client operator leaves as it is, any number of them do. -/
theorem foldl_client_eq {α : Type} {f : Chain → α} (h : ∀ pred op, f (.client pred op) = f pred)
    (c : Chain) : f (ops.foldl .client c) = f c := by
  induction ops generalizing c with
  | nil => rfl
  | cons op rest ih => exact (ih _).trans (h c op)

theorem clientOps_foldl_client (c : Chain) :
    (ops.foldl .client c).clientOps = c.clientOps ++ ops := by
  induction ops generalizing c with
  | nil => simp
  | cons op rest ih => simp [ih, clientOps]

theorem Reachable.foldl_client {c : Chain} (h : c.Reachable) : (ops.foldl .client c).Reachable := by
  induction ops generalizing c with
  | nil => exact h
  | cons op rest ih => exact ih (.client op h)

end Client

end Traversal.Chain
