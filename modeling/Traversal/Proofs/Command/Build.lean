import Traversal.Command.Build
import Traversal.Proofs.Chain.Reachable

/-! # Chains from the command line

A chain that is built from steps is one that calls make: it starts at a root, and each further step
was asked for by its name and not refused. -/

namespace Traversal.Chain

theorem addStep_eq_ok {c next : Chain} {arg : StepArg} (h : c.addStep arg = .ok next) :
    ∃ kind params, c.refusal? kind arg.name params = none ∧ next = .step c kind params := by
  rw [addStep] at h
  cases hparams : arg.params with
  | error error => simp [hparams] at h
  | ok params =>
    cases hnext : c.addNamed arg.name params with
    | error error => simp [hparams, hnext] at h
    | ok next' =>
      simp only [hparams, hnext] at h
      obtain rfl := Except.ok.inj h
      obtain ⟨kind, fits, hstep⟩ := exists_of_addNamed hnext
      exact ⟨kind, params, fits, hstep⟩

/-- Steps that are added keep what each step keeps that is not refused. -/
theorem addSteps_induction {P : Chain → Prop}
    (step : ∀ {c kind attempted args}, P c → c.refusal? kind attempted args = none →
      P (.step c kind args)) {args : List StepArg} {c built : Chain}
    (h : c.addSteps args = .ok built) (hc : P c) : P built := by
  induction args generalizing c with
  | nil =>
    obtain rfl := Except.ok.inj h
    exact hc
  | cons arg rest ih =>
    rw [addSteps] at h
    cases hnext : c.addStep arg with
    | error error => simp [hnext] at h
    | ok next =>
      rw [hnext] at h
      obtain ⟨kind, params, fits, rfl⟩ := addStep_eq_ok hnext
      exact ih h (step hc fits)

theorem ofRoot_eq_ok {graph : GraphId} {root : StepArg} {c : Chain}
    (h : ofRoot graph root = .ok c) :
    (∃ params, c = .vertex graph params) ∨ c = .morphism graph := by
  unfold ofRoot at h
  split at h
  · cases hparams : root.params with
    | error error => simp [hparams] at h
    | ok params =>
      rw [hparams] at h
      exact .inl ⟨params, (Except.ok.inj h).symm⟩
  · split at h
    · split at h
      · exact .inr (Except.ok.inj h).symm
      · cases h
    · cases h

/-- A built chain is one that calls make, and it has no client operators. -/
theorem reachable_of_build {graph : GraphId} {steps : List StepArg} {c : Chain}
    (h : build graph steps = .ok c) : c.Reachable ∧ c.clientOps = [] := by
  cases steps with
  | nil => cases h
  | cons root rest =>
    rw [build] at h
    cases hroot : ofRoot graph root with
    | error error => simp [hroot] at h
    | ok first =>
      rw [hroot] at h
      refine addSteps_induction (P := fun c => c.Reachable ∧ c.clientOps = []) ?_ h ?_
      · exact fun hc fits => ⟨.step hc.1 fits, hc.2⟩
      · rcases ofRoot_eq_ok hroot with ⟨params, rfl⟩ | rfl
        · exact ⟨.vertex graph params, rfl⟩
        · exact ⟨.morphism graph, rfl⟩

end Traversal.Chain
