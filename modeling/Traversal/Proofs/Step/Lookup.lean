import Traversal.Step.Lookup

/-! # Names and numbers of arguments

No two steps share a name or an alias, so a name says which step is meant. The numbers of arguments
that a step takes are those within its bounds. -/

namespace Traversal

namespace StepKind

/-- The step's name and its aliases. -/
def names (kind : StepKind) : List String := kind.name :: kind.aliases

/-- The step follows another one and is called so. -/
def FollowsAs (kind : StepKind) (called : String) : Prop :=
  called ∈ kind.names ∧ kind.rule.startsQuery = false

theorem answersTo_iff {kind : StepKind} {called : String} :
    kind.answersTo called = true ↔ called ∈ kind.names := by
  rw [answersTo, Bool.or_eq_true, beq_iff_eq, List.contains_iff_mem, names, List.mem_cons,
    eq_comm (a := kind.name)]

theorem eq_of_mem_names {kind other : StepKind} {called : String} (h : called ∈ kind.names)
    (ho : called ∈ other.names) : kind = other := by
  have all : ∀ a ∈ every, ∀ b ∈ every, ∀ s ∈ a.names, s ∈ b.names → a = b := by decide +kernel
  exact all kind (mem_every kind) other (mem_every other) called h ho

/-- A step with the name that is looked for is found where it is looked for. -/
theorem find?_eq_some {kinds : List StepKind} {p : StepKind → Bool} {kind : StepKind}
    (mem : kind ∈ kinds) (found : p kind = true) (only : ∀ other, p other = true → other = kind) :
    kinds.find? p = some kind := by
  cases h : kinds.find? p with
  | some other => rw [only other (List.find?_some h)]
  | none => exact absurd found (List.find?_eq_none.mp h kind mem)

theorem ofName_of_mem {kind : StepKind} {called : String} (h : called ∈ kind.names) :
    ofName called = if kind.rule.startsQuery then .error (.rootOnlyStep kind) else .ok kind := by
  have only : ∀ other : StepKind, other.answersTo called = true → other = kind :=
    fun other ho => eq_of_mem_names (answersTo_iff.mp ho) h
  cases hroot : kind.rule.startsQuery with
  | false =>
    have found : chainable.find? (·.answersTo called) = some kind :=
      find?_eq_some (by simp [chainable, mem_every, hroot]) (answersTo_iff.mpr h) only
    simp [ofName, found]
  | true =>
    have missed : chainable.find? (·.answersTo called) = none := by
      rw [List.find?_eq_none]
      intro other mem ho
      rw [only other ho] at mem
      simp [chainable, hroot] at mem
    have found : every.find? (fun kind => kind.rule.startsQuery && kind.answersTo called) =
        some kind := by
      refine find?_eq_some (mem_every kind) ?_ fun other ho => only other ?_
      · rw [hroot, answersTo_iff.mpr h]
        rfl
      · exact (Bool.and_eq_true_iff.mp ho).2
    simp [ofName, missed, found]

theorem ofName_of_followsAs {kind : StepKind} {called : String} (h : kind.FollowsAs called) :
    ofName called = .ok kind := by
  rw [ofName_of_mem h.1, h.2]
  rfl

theorem ofName_of_not_mem {called : String} (h : ∀ kind : StepKind, called ∉ kind.names) :
    ofName called = .error (.unknownStep called) := by
  have missed : ∀ kind : StepKind, kind.answersTo called = false :=
    fun kind => Bool.eq_false_iff.mpr fun ha => h kind (answersTo_iff.mp ha)
  have nowhere : chainable.find? (·.answersTo called) = none :=
    List.find?_eq_none.mpr fun kind _ => by simp [missed kind]
  have noRoot : every.find? (fun kind => kind.rule.startsQuery && kind.answersTo called) = none :=
    List.find?_eq_none.mpr fun kind _ => by simp [missed kind]
  simp [ofName, nowhere, noRoot]

/-- Whatever is looked up is a step that follows others, a step that starts queries, or unknown. -/
theorem ofName_cases (called : String) :
    (∃ kind, FollowsAs kind called) ∨
      (∃ kind : StepKind, called ∈ kind.names ∧ kind.rule.startsQuery = true) ∨
        ∀ kind : StepKind, called ∉ kind.names := by
  by_cases h : ∃ kind : StepKind, called ∈ kind.names
  · obtain ⟨kind, hm⟩ := h
    cases hroot : kind.rule.startsQuery with
    | false => exact .inl ⟨kind, hm, hroot⟩
    | true => exact .inr (.inl ⟨kind, hm, hroot⟩)
  · exact .inr (.inr (not_exists.mp h))

end StepKind

/-! ## Numbers of arguments -/

/-- So many arguments are within the bounds. -/
structure StepRule.Takes (rule : StepRule) (number : Nat) : Prop where
  enough : ∀ least ∈ rule.minArgs, least ≤ number
  notMore : ∀ most ∈ rule.maxArgs, number ≤ most

namespace StepKind

variable {kind : StepKind} {number : Nat} {error : UsageError}

theorem arityError?_eq_some_iff : kind.arityError? number = some error ↔
    (∃ least ∈ kind.rule.minArgs, number < least ∧ error = .tooFewArgs kind least number) ∨
      (∀ least ∈ kind.rule.minArgs, least ≤ number) ∧
        ∃ most ∈ kind.rule.maxArgs, most < number ∧ error = .tooManyArgs kind most number := by
  rw [arityError?, Option.or_eq_some_iff, Option.bind_eq_some_iff, Option.bind_eq_some_iff,
    Option.bind_eq_none_iff]
  simp [Option.mem_def, eq_comm (a := error)]

theorem arityError?_eq_none_iff : kind.arityError? number = none ↔ kind.rule.Takes number := by
  unfold arityError?
  constructor
  · intro h
    obtain ⟨few, many⟩ := Option.or_eq_none_iff.mp h
    constructor
    case enough =>
      intro least hleast
      rw [Option.mem_def] at hleast
      simpa [hleast] using few
    case notMore =>
      intro most hmost
      rw [Option.mem_def] at hmost
      simpa [hmost] using many
  · intro h
    rw [Option.or_eq_none_iff]
    constructor
    · cases hmin : kind.rule.minArgs with
      | none => rfl
      | some least => simp [h.enough least hmin]
    · cases hmax : kind.rule.maxArgs with
      | none => rfl
      | some most => simp [h.notMore most hmax]

end StepKind

end Traversal
