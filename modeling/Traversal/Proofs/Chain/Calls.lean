import Traversal.Chain.Call
import Traversal.Proofs.Chain.Reachable

/-! # Calls in a row

A caller makes a root and then asks for steps, by name, by kind or by a typed call, and for client
operators. A call that is refused leaves the chain as it is, and the caller may go on with another.
What can be reached so are the reachable chains, no more and no fewer. -/

namespace Traversal

/-- How a chain starts. -/
inductive Root where
  | vertex (graph : GraphId) (args : List Param)
  | morphism (graph : GraphId)

def Root.chain : Root → Chain
  | vertex graph args => .vertex graph args
  | morphism graph => .morphism graph

/-- What a caller asks of a chain. -/
inductive ChainCall where
  | addNamed (name : String) (args : List Param)
  | add (kind : StepKind) (args : List Param)
  | typed (call : Call)
  | client (op : ClientOp)

/-- The chain that a call makes of a chain, unless it is refused. -/
def ChainCall.on (c : Chain) : ChainCall → Except UsageError Chain
  | addNamed name args => c.addNamed name args
  | add kind args => c.add kind args
  | typed call => c.call call
  | client op => .ok (.client c op)

namespace Chain

/-- The chain after some calls. -/
def after (c : Chain) : List ChainCall → Chain
  | [] => c
  | call :: rest =>
    match call.on c with
    | .ok next => next.after rest
    | .error _ => c.after rest

/-- All that a call can make of a chain. -/
theorem exists_of_on {c next : Chain} {call : ChainCall} (h : call.on c = .ok next) :
    (∃ kind attempted args, c.refusal? kind attempted args = none ∧ next = .step c kind args) ∨
      ∃ op, next = .client c op := by
  cases call with
  | addNamed name args =>
    obtain ⟨kind, fits, rfl⟩ := exists_of_addNamed h
    exact .inl ⟨kind, name, args, fits, rfl⟩
  | add kind args => exact .inl ⟨kind, _, args, extend_eq_ok.mp h⟩
  | typed call => exact .inl ⟨call.kind, _, call.args, extend_eq_ok.mp h⟩
  | client op => exact .inr ⟨op, (Except.ok.inj h).symm⟩

theorem after_cons_of_ok {c next : Chain} {call : ChainCall} (h : call.on c = .ok next)
    (rest : List ChainCall) : c.after (call :: rest) = next.after rest := by
  rw [after, h]

theorem after_append (c : Chain) (calls more : List ChainCall) :
    c.after (calls ++ more) = (c.after calls).after more := by
  induction calls generalizing c with
  | nil => rfl
  | cons call rest ih =>
    rw [List.cons_append, after, after]
    cases call.on c with
    | ok next => exact ih next
    | error _ => exact ih c

theorem Reachable.after {c : Chain} (h : c.Reachable) (calls : List ChainCall) :
    (c.after calls).Reachable := by
  induction calls generalizing c with
  | nil => exact h
  | cons call rest ih =>
    rw [Chain.after]
    cases hcall : call.on c with
    | error _ => exact ih h
    | ok next =>
      rcases exists_of_on hcall with ⟨kind, attempted, args, fits, rfl⟩ | ⟨op, rfl⟩
      · exact ih (.step h fits)
      · exact ih (.client op h)

theorem reachable_root (root : Root) : root.chain.Reachable := by
  cases root with
  | vertex graph args => exact .vertex graph args
  | morphism graph => exact .morphism graph

/-- The reachable chains are those that a caller can make. -/
theorem reachable_iff {c : Chain} :
    c.Reachable ↔ ∃ (root : Root) (calls : List ChainCall), root.chain.after calls = c := by
  constructor
  · intro h
    induction h with
    | vertex graph args => exact ⟨.vertex graph args, [], rfl⟩
    | morphism graph => exact ⟨.morphism graph, [], rfl⟩
    | @step pred kind attempted args _ fits ih =>
      obtain ⟨root, calls, made⟩ := ih
      -- what is refused does not depend on the name, so a call by kind makes the step
      have fits : pred.refusal? kind kind.name args = none :=
        refusal?_eq_none_iff.mpr (refusal?_eq_none_iff.mp fits)
      have call : (ChainCall.add kind args).on pred = .ok (.step pred kind args) :=
        extend_eq_ok.mpr ⟨fits, rfl⟩
      refine ⟨root, calls ++ [.add kind args], ?_⟩
      rw [after_append, made, after_cons_of_ok call, after]
    | @client pred op _ ih =>
      obtain ⟨root, calls, made⟩ := ih
      refine ⟨root, calls ++ [.client op], ?_⟩
      rw [after_append, made]
      rfl
  · rintro ⟨root, calls, rfl⟩
    exact (reachable_root root).after calls

end Chain

end Traversal
