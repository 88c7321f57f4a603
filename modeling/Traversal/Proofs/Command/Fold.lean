import Traversal.Command.Build
import Traversal.Proofs.Command.Conversion

/-! # Building is adding step by step

A list of steps makes the chain that the library makes: the root with its arguments, and then each
step asked for by its name with its arguments on the chain so far. If it makes none, the first step
that fails says why, its arguments before the step itself, and what comes after it does not count. -/

namespace Traversal.Chain

/-- The chain that a first step makes. -/
inductive StartsFrom (graph : GraphId) : StepArg → Chain → Prop
  | vertex {name : String} {args : List Json} {params : List Param}
      (called : name = "V" ∨ name = "Vertex") (converted : paramsOfJson args = .ok params) :
      StartsFrom graph ⟨name, args⟩ (.vertex graph params)
  | morphism {name : String} (called : name = "M" ∨ name = "Morphism") :
      StartsFrom graph ⟨name, []⟩ (.morphism graph)

/-- The chain that further steps make, each added by its name with its converted arguments. -/
inductive Adds : Chain → List StepArg → Chain → Prop
  | nil (c : Chain) : Adds c [] c
  | cons {c next built : Chain} {arg : StepArg} {rest : List StepArg} {params : List Param}
      (converted : paramsOfJson arg.args = .ok params) (added : c.addNamed arg.name params = .ok next)
      (others : Adds next rest built) : Adds c (arg :: rest) built

/-- Why a first step makes no chain. -/
inductive RootFault : StepArg → BuildError → Prop
  | notRoot {name : String} {args : List Json} (vertex : ¬ (name = "V" ∨ name = "Vertex"))
      (morphism : ¬ (name = "M" ∨ name = "Morphism")) : RootFault ⟨name, args⟩ (.notRoot name)
  | rootArgs {name : String} {args : List Json} (called : name = "M" ∨ name = "Morphism")
      (some : args ≠ []) : RootFault ⟨name, args⟩ (.rootArgs name)
  | argument {name : String} {args : List Json} {cause : ArgError}
      (called : name = "V" ∨ name = "Vertex") (first : (Json.faultsOfAll args).head? = some cause) :
      RootFault ⟨name, args⟩ (.badArgument name cause)

/-- Why a further step cannot be added: an argument is none, or the step is refused. -/
inductive StepFault (c : Chain) (arg : StepArg) : BuildError → Prop
  | argument {cause : ArgError} (first : (Json.faultsOfAll arg.args).head? = some cause) :
      StepFault c arg (.badArgument arg.name cause)
  | usage {params : List Param} {error : UsageError} (converted : paramsOfJson arg.args = .ok params)
      (refused : c.addNamed arg.name params = .error error) : StepFault c arg (.usage error)

/-- Why a list of steps makes no chain. Whatever stands after the step at fault, there is none before
it. -/
inductive BuildFault (graph : GraphId) : List StepArg → BuildError → Prop
  | noSteps : BuildFault graph [] .noSteps
  | root {root : StepArg} {error : BuildError} (fault : RootFault root error)
      (rest : List StepArg) : BuildFault graph (root :: rest) error
  | step {root arg : StepArg} {front : List StepArg} {first c : Chain} {error : BuildError}
      (starts : StartsFrom graph root first) (adds : Adds first front c)
      (fault : StepFault c arg error) (rest : List StepArg) :
      BuildFault graph (root :: (front ++ arg :: rest)) error

/-! ## The first step -/

theorem params_eq_ok_iff {arg : StepArg} {params : List Param} :
    arg.params = .ok params ↔ paramsOfJson arg.args = .ok params := by
  rw [StepArg.params]
  cases paramsOfJson arg.args <;> simp

theorem params_eq_error_iff {arg : StepArg} {error : BuildError} : arg.params = .error error ↔
    ∃ cause, (Json.faultsOfAll arg.args).head? = some cause ∧ error = .badArgument arg.name cause := by
  simp only [← paramsOfJson_eq_error_iff, StepArg.params]
  cases paramsOfJson arg.args <;> simp [eq_comm]

theorem morphism_not_vertex {name : String} (called : name = "M" ∨ name = "Morphism") :
    ¬ (name = "V" ∨ name = "Vertex") := by
  rcases called with rfl | rfl <;> decide

theorem StartsFrom.ofRoot_eq {graph : GraphId} {root : StepArg} {c : Chain}
    (h : StartsFrom graph root c) : ofRoot graph root = .ok c := by
  cases h with
  | vertex called converted =>
    rw [ofRoot, if_pos called, params_eq_ok_iff.mpr converted]
  | morphism called =>
    rw [ofRoot, if_neg (morphism_not_vertex called), if_pos called]
    rfl

theorem RootFault.ofRoot_eq {root : StepArg} {error : BuildError} (h : RootFault root error)
    (graph : GraphId) : ofRoot graph root = .error error := by
  cases h with
  | notRoot vertex morphism => rw [ofRoot, if_neg vertex, if_neg morphism]
  | @rootArgs name args called some =>
    have : args.isEmpty = false := List.isEmpty_eq_false_iff.mpr some
    rw [ofRoot, if_neg (morphism_not_vertex called), if_pos called]
    simp [this]
  | argument called first =>
    rw [ofRoot, if_pos called, params_eq_error_iff.mpr ⟨_, first, rfl⟩]

/-- A first step makes a chain or is at fault. -/
theorem starts_or_fault (graph : GraphId) (root : StepArg) :
    (∃ c, StartsFrom graph root c) ∨ ∃ error, RootFault root error := by
  obtain ⟨name, args⟩ := root
  by_cases vertex : name = "V" ∨ name = "Vertex"
  · rcases paramsOfJson_cases args with ⟨params, _, converted⟩ | ⟨cause, first, _⟩
    · exact .inl ⟨_, .vertex vertex converted⟩
    · exact .inr ⟨_, .argument vertex first⟩
  · by_cases morphism : name = "M" ∨ name = "Morphism"
    · cases args with
      | nil => exact .inl ⟨_, .morphism morphism⟩
      | cons arg rest => exact .inr ⟨_, .rootArgs morphism (List.cons_ne_nil arg rest)⟩
    · exact .inr ⟨_, .notRoot vertex morphism⟩

/-! ## Further steps -/

theorem StepFault.addStep_eq {c : Chain} {arg : StepArg} {error : BuildError}
    (h : StepFault c arg error) : c.addStep arg = .error error := by
  cases h with
  | argument first => rw [addStep, params_eq_error_iff.mpr ⟨_, first, rfl⟩]
  | usage converted refused =>
    rw [addStep, params_eq_ok_iff.mpr converted]
    simp only [refused]

theorem Adds.addSteps_append {c built : Chain} {front : List StepArg} (h : Adds c front built)
    (rest : List StepArg) : c.addSteps (front ++ rest) = built.addSteps rest := by
  induction h with
  | nil => rfl
  | cons converted added _ ih =>
    rw [List.cons_append, addSteps, addStep, params_eq_ok_iff.mpr converted]
    simp only [added, ih]

/-- Further steps are all added, or one after some that are is at fault. -/
theorem adds_or_fault (c : Chain) (args : List StepArg) :
    (∃ built, Adds c args built) ∨ ∃ front arg rest built error,
      args = front ++ arg :: rest ∧ Adds c front built ∧ StepFault built arg error := by
  induction args generalizing c with
  | nil => exact .inl ⟨c, .nil c⟩
  | cons arg rest ih =>
    rcases paramsOfJson_cases arg.args with ⟨params, _, converted⟩ | ⟨cause, first, _⟩
    · cases hnext : c.addNamed arg.name params with
      | error error => exact .inr ⟨[], arg, rest, c, _, rfl, .nil c, .usage converted hnext⟩
      | ok next =>
        rcases ih next with ⟨built, others⟩ | ⟨front, bad, after, built, error, rfl, adds, fault⟩
        · exact .inl ⟨built, .cons converted hnext others⟩
        · exact .inr ⟨arg :: front, bad, after, built, error, rfl, .cons converted hnext adds, fault⟩
    · exact .inr ⟨[], arg, rest, c, _, rfl, .nil c, .argument first⟩

/-! ## The whole list -/

theorem build_of_adds {graph : GraphId} {root : StepArg} {rest : List StepArg} {first c : Chain}
    (starts : StartsFrom graph root first) (adds : Adds first rest c) :
    build graph (root :: rest) = .ok c := by
  have all := adds.addSteps_append []
  rw [List.append_nil] at all
  rw [build, starts.ofRoot_eq]
  exact all

theorem BuildFault.build_eq {graph : GraphId} {steps : List StepArg} {error : BuildError}
    (h : BuildFault graph steps error) : build graph steps = .error error := by
  cases h with
  | noSteps => rfl
  | root fault rest => rw [build, fault.ofRoot_eq]
  | step starts adds fault rest =>
    rw [build, starts.ofRoot_eq]
    simp only [adds.addSteps_append, addSteps, fault.addStep_eq]

theorem built_or_fault (graph : GraphId) (steps : List StepArg) :
    (∃ root rest first c, steps = root :: rest ∧ StartsFrom graph root first ∧ Adds first rest c) ∨
      ∃ error, BuildFault graph steps error := by
  cases steps with
  | nil => exact .inr ⟨_, .noSteps⟩
  | cons root rest =>
    rcases starts_or_fault graph root with ⟨first, starts⟩ | ⟨error, fault⟩
    · rcases adds_or_fault first rest with ⟨c, adds⟩ | ⟨front, arg, after, c, error, rfl, adds, fault⟩
      · exact .inl ⟨root, rest, first, c, rfl, starts, adds⟩
      · exact .inr ⟨error, .step starts adds fault after⟩
    · exact .inr ⟨error, .root fault rest⟩

theorem build_eq_ok_iff {graph : GraphId} {steps : List StepArg} {c : Chain} :
    build graph steps = .ok c ↔ ∃ root rest first,
      steps = root :: rest ∧ StartsFrom graph root first ∧ Adds first rest c := by
  constructor
  · intro built
    rcases built_or_fault graph steps with ⟨root, rest, first, c', rfl, starts, adds⟩ | ⟨error, fault⟩
    · rw [build_of_adds starts adds] at built
      obtain rfl := Except.ok.inj built
      exact ⟨root, rest, first, rfl, starts, adds⟩
    · rw [fault.build_eq] at built
      cases built
  · rintro ⟨root, rest, first, rfl, starts, adds⟩
    exact build_of_adds starts adds

theorem build_eq_error_iff {graph : GraphId} {steps : List StepArg} {error : BuildError} :
    build graph steps = .error error ↔ BuildFault graph steps error := by
  constructor
  · intro failed
    rcases built_or_fault graph steps with ⟨root, rest, first, c, rfl, starts, adds⟩ | ⟨other, fault⟩
    · rw [build_of_adds starts adds] at failed
      cases failed
    · rw [fault.build_eq] at failed
      exact Except.error.inj failed ▸ fault
  · exact BuildFault.build_eq

theorem addSteps_append (c : Chain) (front rest : List StepArg) :
    c.addSteps (front ++ rest) = (c.addSteps front).bind fun built => built.addSteps rest := by
  induction front generalizing c with
  | nil => rfl
  | cons arg front ih =>
    rw [List.cons_append, addSteps, addSteps]
    cases c.addStep arg with
    | ok next => exact ih next
    | error error => rfl

theorem build_append (graph : GraphId) {front : List StepArg} (h : front ≠ [])
    (rest : List StepArg) :
    build graph (front ++ rest) = (build graph front).bind fun built => built.addSteps rest := by
  obtain ⟨root, front, rfl⟩ := List.exists_cons_of_ne_nil h
  rw [List.cons_append, build, build]
  cases ofRoot graph root with
  | ok first => exact first.addSteps_append front rest
  | error error => rfl

/-- When steps make a chain and which one, that its making can be broken off at any step and taken up
again, what the first fault is when they make none, and when the arguments of a step can be
converted. -/
theorem build_folds (graph : GraphId) :
    (∀ steps c, build graph steps = .ok c ↔ ∃ root rest first,
      steps = root :: rest ∧ StartsFrom graph root first ∧ Adds first rest c) ∧
    (∀ steps error, build graph steps = .error error ↔ BuildFault graph steps error) ∧
    (∀ front rest, front ≠ [] → build graph (front ++ rest) =
      (build graph front).bind fun built => built.addSteps rest) ∧
    (∀ args, (∃ params, paramsOfJson args = .ok params) ↔ ∀ arg ∈ args, arg.IsPlain) :=
  ⟨fun _ _ => build_eq_ok_iff, fun _ _ => build_eq_error_iff,
    fun _ rest nonempty => build_append graph nonempty rest, fun _ => exists_paramsOfJson_iff⟩

end Traversal.Chain
