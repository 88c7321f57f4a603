import Traversal.Proofs.Chain.Outline
import Traversal.Proofs.Chain.Shape

/-! # Which steps are accepted

A step asked for by name is added exactly if the name is that of a step that follows others, no step
of the chain is terminal, the number of arguments is within the step's bounds, the arguments at
checked positions are of accepted kinds, and queries that start at a morphism stand where the step
needs them. Otherwise the error tells the first of these that does not hold. -/

namespace Traversal

namespace Param

/-- The argument at the position, if there is one, is of an accepted kind. -/
def Fits (args : List Param) (check : Nat × List ParamKind) : Prop :=
  ∀ arg, args[check.1]? = some arg → arg.kind ∈ check.2

/-- At the position stands a query whose root is a morphism. -/
def HasMorphism (args : List Param) (index : Nat) : Prop :=
  ∃ sub graph rest, args[index]? = some (.query sub) ∧ sub.lineage = .morphism graph :: rest

end Param

namespace Chain

/-- No link is a terminal step. -/
def Open (c : Chain) : Prop := ∀ link ∈ c.lineage, link.isTerminalStep = false

/-- All that lets a step of that name be added. -/
structure Accepts (c : Chain) (name : String) (kind : StepKind) (args : List Param) : Prop where
  follows : kind.FollowsAs name
  isOpen : c.Open
  number : kind.rule.Takes args.length
  kinds : ∀ check ∈ kind.rule.argKinds, Param.Fits args check
  morphisms : ∀ index ∈ kind.rule.morphismArgs, Param.HasMorphism args index

/-- The error of a step that follows others. It tells what is wrong although nothing before it is. -/
inductive RefusesStep (c : Chain) (kind : StepKind) (attempted : String) (args : List Param) :
    UsageError → Prop
  | terminalChain {link : Chain} {terminal : StepKind} (mem : link ∈ c.lineage)
      (isKind : link.kind? = some terminal) (ends : terminal.rule.terminal = true) :
      RefusesStep c kind attempted args (.terminalChain terminal attempted)
  | tooFewArgs {least : Nat} (isOpen : c.Open) (min : least ∈ kind.rule.minArgs)
      (few : args.length < least) :
      RefusesStep c kind attempted args (.tooFewArgs kind least args.length)
  | tooManyArgs {most : Nat} (isOpen : c.Open)
      (enough : ∀ least ∈ kind.rule.minArgs, least ≤ args.length)
      (max : most ∈ kind.rule.maxArgs) (many : most < args.length) :
      RefusesStep c kind attempted args (.tooManyArgs kind most args.length)
  | argType {before after : List (Nat × List ParamKind)} {index : Nat} {accepted : List ParamKind}
      {arg : Param} (isOpen : c.Open) (number : kind.rule.Takes args.length)
      (checks : kind.rule.argKinds = before ++ (index, accepted) :: after)
      (fit : ∀ check ∈ before, Param.Fits args check) (present : args[index]? = some arg)
      (wrong : arg.kind ∉ accepted) :
      RefusesStep c kind attempted args (.argType kind index accepted arg.kind)
  | morphismRequired {before after : List Nat} {index : Nat} (isOpen : c.Open)
      (number : kind.rule.Takes args.length)
      (kinds : ∀ check ∈ kind.rule.argKinds, Param.Fits args check)
      (positions : kind.rule.morphismArgs = before ++ index :: after)
      (fit : ∀ earlier ∈ before, Param.HasMorphism args earlier)
      (wrong : ¬ Param.HasMorphism args index) :
      RefusesStep c kind attempted args (.morphismRequired kind index)

/-- The error of a step asked for by name. -/
inductive Refuses (c : Chain) (name : String) (args : List Param) : UsageError → Prop
  | unknownStep (unknown : ∀ kind : StepKind, name ∉ kind.names) :
      Refuses c name args (.unknownStep name)
  | rootOnlyStep {kind : StepKind} (called : name ∈ kind.names)
      (root : kind.rule.startsQuery = true) : Refuses c name args (.rootOnlyStep kind)
  | step {kind : StepKind} {error : UsageError} (follows : kind.FollowsAs name)
      (refuses : c.RefusesStep kind name args error) : Refuses c name args error

end Chain

/-- The error with another name for the step that was asked for. -/
def UsageError.attemptedAs (name : String) : UsageError → UsageError
  | .terminalChain terminal _ => .terminalChain terminal name
  | error => error

/-! ## The checks one by one -/

section Checks

variable {kind : StepKind} {args : List Param} {error : UsageError}

/-- The error of one check. -/
def argError? (kind : StepKind) (args : List Param) (check : Nat × List ParamKind) :
    Option UsageError :=
  match args[check.1]? with
  | some arg => if arg.kind ∈ check.2 then none else some (.argType kind check.1 check.2 arg.kind)
  | none => none

theorem argKindError?_eq (kind : StepKind) (args : List Param) :
    argKindError? kind args = kind.rule.argKinds.findSome? (argError? kind args) := rfl

theorem argError?_eq_none_iff {check : Nat × List ParamKind} :
    argError? kind args check = none ↔ Param.Fits args check := by
  unfold argError? Param.Fits
  cases args[check.1]? with
  | none => simp
  | some arg => simp

theorem argError?_eq_some_iff {check : Nat × List ParamKind} :
    argError? kind args check = some error ↔ ∃ arg, args[check.1]? = some arg ∧
      arg.kind ∉ check.2 ∧ error = .argType kind check.1 check.2 arg.kind := by
  unfold argError?
  cases args[check.1]? with
  | none => simp
  | some arg => simp [eq_comm (a := error)]

theorem argKindError?_eq_none_iff : argKindError? kind args = none ↔
    ∀ check ∈ kind.rule.argKinds, Param.Fits args check := by
  simp only [argKindError?_eq, List.findSome?_eq_none_iff, argError?_eq_none_iff]

theorem argKindError?_eq_some_iff : argKindError? kind args = some error ↔
    ∃ before check after arg, kind.rule.argKinds = before ++ check :: after ∧
      (∀ earlier ∈ before, Param.Fits args earlier) ∧ args[check.1]? = some arg ∧
      arg.kind ∉ check.2 ∧ error = .argType kind check.1 check.2 arg.kind := by
  simp only [argKindError?_eq, List.findSome?_eq_some_iff, argError?_eq_none_iff,
    argError?_eq_some_iff]
  constructor
  · rintro ⟨before, check, after, checks, ⟨arg, present, wrong, he⟩, fit⟩
    exact ⟨before, check, after, arg, checks, fit, present, wrong, he⟩
  · rintro ⟨before, check, after, arg, checks, fit, present, wrong, he⟩
    exact ⟨before, check, after, checks, ⟨arg, present, wrong, he⟩, fit⟩

theorem Chain.isMorphism_iff {c : Chain} :
    c.isMorphism = true ↔ ∃ graph rest, c.lineage = .morphism graph :: rest := by
  obtain ⟨first, rest, lineage_eq, isRoot, _⟩ := c.exists_first
  have first_mem : first ∈ c.lineage := lineage_eq ▸ List.mem_cons_self
  rw [← eq_of_mem_lineage isMorphism_eq_of_pred first_mem, isMorphism_iff_of_root isRoot,
    lineage_eq]
  cases first with
  | vertex => simp [kind?]
  | morphism => simp [kind?]
  | step | client => cases isRoot

theorem Param.hasMorphism_iff {index : Nat} :
    HasMorphism args index ↔ args[index]?.any Param.isMorphism = true := by
  constructor
  · rintro ⟨sub, graph, rest, present, lineage_eq⟩
    rw [present]
    exact Chain.isMorphism_iff.mpr ⟨graph, rest, lineage_eq⟩
  · intro h
    obtain ⟨arg, present, starts⟩ := (Option.any_eq_true _ _).mp h
    obtain ⟨sub, isQuery, starts⟩ := (Option.any_eq_true _ _).mp starts
    obtain ⟨graph, rest, lineage_eq⟩ := Chain.isMorphism_iff.mp starts
    cases arg with
    | query chain =>
      obtain rfl := Option.some.inj isQuery
      exact ⟨chain, graph, rest, present, lineage_eq⟩
    | _ => cases isQuery

theorem morphismError?_eq_none_iff : morphismError? kind args = none ↔
    ∀ index ∈ kind.rule.morphismArgs, Param.HasMorphism args index := by
  rw [morphismError?, List.findSome?_eq_none_iff]
  refine forall₂_congr fun index _ => ?_
  rw [Param.hasMorphism_iff]
  simp

theorem morphismError?_eq_some_iff : morphismError? kind args = some error ↔
    ∃ before index after, kind.rule.morphismArgs = before ++ index :: after ∧
      (∀ earlier ∈ before, Param.HasMorphism args earlier) ∧ ¬ Param.HasMorphism args index ∧
      error = .morphismRequired kind index := by
  simp only [morphismError?, List.findSome?_eq_some_iff, Param.hasMorphism_iff,
    Option.ite_none_left_eq_some, ite_eq_left_iff, reduceCtorEq, imp_false, Decidable.not_not,
    Option.some.injEq, eq_comm (a := error)]
  constructor
  · rintro ⟨before, index, after, positions, ⟨wrong, he⟩, fit⟩
    exact ⟨before, index, after, positions, fit, wrong, he⟩
  · rintro ⟨before, index, after, positions, fit, wrong, he⟩
    exact ⟨before, index, after, positions, ⟨wrong, he⟩, fit⟩

end Checks

/-! ## The refusal of a step -/

namespace Chain

variable {c : Chain} {kind : StepKind} {attempted name : String} {args : List Param}
  {error : UsageError}

theorem Reachable.isOpen_iff (h : c.Reachable) : c.terminal? = none ↔ c.Open := by
  rw [terminal?_eq_none, ← Bool.not_eq_true, h.isTerminal_iff]
  simp [Open]

theorem Reachable.refusal?_eq_some_iff (h : c.Reachable) (follows : kind.rule.startsQuery = false) :
    c.refusal? kind attempted args = some error ↔ c.RefusesStep kind attempted args error := by
  simp only [refusal?, follows, Bool.false_eq_true, if_false, Option.none_or,
    Option.or_eq_some_iff, Option.map_eq_some_iff, Option.map_eq_none_iff, h.terminal?_eq_some_iff,
    h.isOpen_iff, StepKind.arityError?_eq_some_iff, StepKind.arityError?_eq_none_iff,
    argKindError?_eq_some_iff, argKindError?_eq_none_iff, morphismError?_eq_some_iff]
  -- the checks are made one after the other, so each error comes with the success of those before
  constructor
  · rintro (⟨terminal, ⟨link, mem, isKind, ends⟩, rfl⟩ | ⟨isOpen, h⟩)
    · exact .terminalChain mem isKind ends
    rcases h with (⟨least, min, few, rfl⟩ | ⟨enough, most, max, many, rfl⟩) | ⟨number, h⟩
    · exact .tooFewArgs isOpen min few
    · exact .tooManyArgs isOpen enough max many
    rcases h with ⟨before, check, after, arg, checks, fit, present, wrong, rfl⟩ | ⟨kinds, h⟩
    · exact .argType isOpen number checks fit present wrong
    · obtain ⟨before, index, after, positions, fit, wrong, rfl⟩ := h
      exact .morphismRequired isOpen number kinds positions fit wrong
  · intro refuses
    cases refuses with
    | terminalChain mem isKind ends => exact .inl ⟨_, ⟨_, mem, isKind, ends⟩, rfl⟩
    | tooFewArgs isOpen min few => exact .inr ⟨isOpen, .inl (.inl ⟨_, min, few, rfl⟩)⟩
    | tooManyArgs isOpen enough max many =>
      exact .inr ⟨isOpen, .inl (.inr ⟨enough, _, max, many, rfl⟩)⟩
    | argType isOpen number checks fit present wrong =>
      exact .inr ⟨isOpen, .inr ⟨number, .inl ⟨_, _, _, _, checks, fit, present, wrong, rfl⟩⟩⟩
    | morphismRequired isOpen number kinds positions fit wrong =>
      exact .inr ⟨isOpen, .inr ⟨number, .inr ⟨kinds, _, _, _, positions, fit, wrong, rfl⟩⟩⟩

theorem Reachable.refusal?_eq_none_iff_accepts (h : c.Reachable) (follows : kind.FollowsAs name) :
    c.refusal? kind attempted args = none ↔ c.Accepts name kind args := by
  rw [refusal?_eq_none_iff, ← terminal?_eq_none, h.isOpen_iff, StepKind.arityError?_eq_none_iff,
    argKindError?_eq_none_iff, morphismError?_eq_none_iff]
  constructor
  · rintro ⟨-, isOpen, number, kinds, morphisms⟩
    exact ⟨follows, isOpen, number, kinds, morphisms⟩
  · rintro ⟨-, isOpen, number, kinds, morphisms⟩
    exact ⟨follows.2, isOpen, number, kinds, morphisms⟩

theorem extend_eq_error {c : Chain} : c.extend kind attempted args = .error error ↔
    c.refusal? kind attempted args = some error := by
  rw [extend]
  cases c.refusal? kind attempted args <;> simp

theorem addNamed_of_followsAs (follows : kind.FollowsAs name) :
    c.addNamed name args = c.extend kind name args := by
  rw [addNamed, StepKind.ofName_of_followsAs follows]

theorem Reachable.addNamed_eq_ok_iff (h : c.Reachable) {next : Chain} :
    c.addNamed name args = .ok next ↔
      ∃ kind, c.Accepts name kind args ∧ next = .step c kind args := by
  constructor
  · intro made
    rcases StepKind.ofName_cases name with ⟨kind, follows⟩ | ⟨kind, called, root⟩ | unknown
    · rw [addNamed_of_followsAs follows, extend_eq_ok, h.refusal?_eq_none_iff_accepts follows] at made
      exact ⟨kind, made⟩
    · simp [addNamed, StepKind.ofName_of_mem called, root] at made
    · simp [addNamed, StepKind.ofName_of_not_mem unknown] at made
  · rintro ⟨kind, accepts, rfl⟩
    rw [addNamed_of_followsAs accepts.follows, extend_eq_ok,
      h.refusal?_eq_none_iff_accepts accepts.follows]
    exact ⟨accepts, rfl⟩

theorem Reachable.addNamed_eq_error_iff (h : c.Reachable) :
    c.addNamed name args = .error error ↔ c.Refuses name args error := by
  constructor
  · intro refused
    rcases StepKind.ofName_cases name with ⟨kind, follows⟩ | ⟨kind, called, root⟩ | unknown
    · rw [addNamed_of_followsAs follows, extend_eq_error, h.refusal?_eq_some_iff follows.2] at refused
      exact .step follows refused
    · rw [addNamed, StepKind.ofName_of_mem called, root] at refused
      cases refused
      exact .rootOnlyStep called root
    · rw [addNamed, StepKind.ofName_of_not_mem unknown] at refused
      cases refused
      exact .unknownStep unknown
  · intro refuses
    cases refuses with
    | unknownStep unknown => rw [addNamed, StepKind.ofName_of_not_mem unknown]
    | rootOnlyStep called root => simp [addNamed, StepKind.ofName_of_mem called, root]
    | step follows refuses =>
      rw [addNamed_of_followsAs follows, extend_eq_error, h.refusal?_eq_some_iff follows.2]
      exact refuses

/-! ## One step under its names -/

theorem map_attemptedAs (refusal : Option UsageError) (name : String)
    (h : ∀ error, refusal = some error → error.attemptedAs name = error) :
    refusal.map (UsageError.attemptedAs name) = refusal := by
  cases refusal with
  | none => rfl
  | some error => rw [Option.map_some, h error rfl]

/-- Only the error of a terminal chain tells the name. -/
theorem refusal?_attemptedAs (c : Chain) (kind : StepKind) (attempted name : String)
    (args : List Param) : c.refusal? kind name args =
      (c.refusal? kind attempted args).map (UsageError.attemptedAs name) := by
  have arity := map_attemptedAs (kind.arityError? args.length) name ?arity
  have kinds := map_attemptedAs (argKindError? kind args) name ?kinds
  have morphisms := map_attemptedAs (morphismError? kind args) name ?morphisms
  · simp only [refusal?, Option.map_or, Option.map_map, arity, kinds, morphisms]
    cases kind.rule.startsQuery <;> rfl
  case arity =>
    intro error he
    rcases StepKind.arityError?_eq_some_iff.mp he with ⟨_, _, _, rfl⟩ | ⟨_, _, _, _, rfl⟩ <;> rfl
  case kinds =>
    intro error he
    obtain ⟨_, _, _, _, _, _, _, _, rfl⟩ := argKindError?_eq_some_iff.mp he
    rfl
  case morphisms =>
    intro error he
    obtain ⟨_, _, _, _, _, _, rfl⟩ := morphismError?_eq_some_iff.mp he
    rfl

theorem extend_attemptedAs (c : Chain) (kind : StepKind) (attempted name : String)
    (args : List Param) : c.extend kind name args =
      (c.extend kind attempted args).mapError (UsageError.attemptedAs name) := by
  rw [extend, extend, c.refusal?_attemptedAs kind attempted name args]
  cases c.refusal? kind attempted args <;> rfl

/-- A step asked for by any of its names is the step asked for by its kind. -/
theorem addNamed_eq_add (c : Chain) (called : name ∈ kind.names) (args : List Param) :
    c.addNamed name args = (c.add kind args).mapError (UsageError.attemptedAs name) := by
  cases root : kind.rule.startsQuery with
  | false =>
    rw [addNamed_of_followsAs ⟨called, root⟩]
    exact c.extend_attemptedAs kind kind.name name args
  | true =>
    have refused : c.refusal? kind kind.name args = some (.rootOnlyStep kind) := by
      simp [refusal?, root]
    rw [addNamed, StepKind.ofName_of_mem called, root, add, extend, refused]
    rfl

/-- When a step is added and what is added, which error there is when it is not, and that it does
not matter which of its names the step is asked for by. -/
theorem addNamed_spec (h : c.Reachable) (name : String) (args : List Param) :
    ((∃ next, c.addNamed name args = .ok next) ↔ ∃ kind, c.Accepts name kind args) ∧
    (∀ error, c.addNamed name args = .error error ↔ c.Refuses name args error) ∧
    (∀ next, c.addNamed name args = .ok next → ∃ kind : StepKind, kind.FollowsAs name ∧
      next.text =
        c.text ++ "." ++ kind.name ++ "(" ++ ", ".intercalate (args.map Param.render) ++ ")") ∧
    ∀ kind : StepKind, ∀ called ∈ kind.names,
      c.addNamed called args = (c.add kind args).mapError (UsageError.attemptedAs called) := by
  refine ⟨?accepted, fun error => h.addNamed_eq_error_iff, ?text, ?names⟩
  case accepted =>
    simp only [h.addNamed_eq_ok_iff]
    constructor
    · rintro ⟨_, kind, accepts, _⟩
      exact ⟨kind, accepts⟩
    · rintro ⟨kind, accepts⟩
      exact ⟨_, kind, accepts, rfl⟩
  case text =>
    intro next made
    obtain ⟨kind, accepts, rfl⟩ := h.addNamed_eq_ok_iff.mp made
    refine ⟨kind, accepts.follows, ?_⟩
    rw [text, stepText, renderAll_eq_map]
    simp only [String.append_assoc]
  case names => exact fun kind called mem => c.addNamed_eq_add mem args

/-- A client operator after a terminal step does not open the chain again, and that the chain is
terminal counts before the missing argument. -/
theorem addNamed_spec_terminal :
    let root : Chain := .vertex 0 [.text "x"]
    let c : Chain := .client (.step root .all []) .distinct
    c.Reachable ∧ c.addNamed "As" [] = .error (.terminalChain .all "As") := by
  intro root c
  have taken : root.refusal? .all "All" [] = none := rfl
  have reachable : c.Reachable := .client _ (.step (.vertex 0 _) taken)
  have mem : Chain.step root .all [] ∈ c.lineage := by simp [c, lineage]
  have follows : StepKind.tag.FollowsAs "As" := ⟨by decide, rfl⟩
  have ended : c.RefusesStep .tag "As" [] (.terminalChain .all "As") := .terminalChain mem rfl rfl
  exact ⟨reachable, ((addNamed_spec reachable "As" []).2.1 _).mpr (.step follows ended)⟩

end Chain

end Traversal
