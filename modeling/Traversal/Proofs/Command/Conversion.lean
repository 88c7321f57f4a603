import Mathlib.Data.List.Forall2
import Traversal.Command.StepArg

/-! # Which values stand for arguments

A JSON value stands for an argument exactly if there is no boolean and no object in it, at whatever
depth. If there are some, the first one in the order of the text is what is wrong. -/

namespace Traversal

namespace Json

/-- The value stands in another one, at some depth, or is that one. -/
inductive IsWithin (inner : Json) : Json → Prop
  | self : IsWithin inner inner
  | item {items : List Json} {item : Json} (mem : item ∈ items) (h : IsWithin inner item) :
      IsWithin inner (.array items)
  | member {members : List (String × Json)} {name : String} {value : Json}
      (mem : (name, value) ∈ members) (h : IsWithin inner value) : IsWithin inner (.object members)

/-- No boolean and no object stands in the value. -/
def IsPlain (value : Json) : Prop :=
  (∀ b, ¬ (Json.bool b).IsWithin value) ∧ ∀ members, ¬ (Json.object members).IsWithin value

mutual

/-- The booleans and objects in a value, in the order of the text. An object counts as a whole. -/
def faults : Json → List ArgError
  | .bool b => [.boolean b]
  | .object members => [.object (write (.object members))]
  | .array items => faultsOfAll items
  | .null | .number _ | .string _ => []

def faultsOfAll : List Json → List ArgError
  | [] => []
  | item :: rest => item.faults ++ faultsOfAll rest

end

theorem isPlain_array_iff {items : List Json} :
    (Json.array items).IsPlain ↔ ∀ item ∈ items, item.IsPlain := by
  constructor
  · exact fun h item mem => ⟨fun b hb => h.1 b (.item mem hb), fun ms hms => h.2 ms (.item mem hms)⟩
  · intro h
    constructor
    · rintro b (_ | ⟨mem, hb⟩)
      exact (h _ mem).1 b hb
    · rintro members (_ | ⟨mem, hms⟩)
      exact (h _ mem).2 members hms

mutual

theorem faults_eq_nil_iff : ∀ {value : Json}, value.faults = [] ↔ value.IsPlain
  | .null | .number _ | .string _ => by
    refine iff_of_true rfl ⟨?_, ?_⟩
    · rintro b ⟨⟩
    · rintro members ⟨⟩
  | .bool b => iff_of_false (List.cons_ne_nil _ _) fun plain => plain.1 b .self
  | .object members => iff_of_false (List.cons_ne_nil _ _) fun plain => plain.2 members .self
  | .array items => by rw [isPlain_array_iff, faults, faultsOfAll_eq_nil_iff]

theorem faultsOfAll_eq_nil_iff : ∀ {items : List Json},
    faultsOfAll items = [] ↔ ∀ item ∈ items, item.IsPlain
  | [] => by simp [faultsOfAll]
  | item :: rest => by
    rw [faultsOfAll, List.append_eq_nil_iff, faults_eq_nil_iff, faultsOfAll_eq_nil_iff,
      List.forall_mem_cons]

end

end Json

/-! ## Conversion -/

mutual

/-- A value with faults is refused for the first of them, and any other one is converted. -/
theorem Param.ofJson_cases : ∀ value : Json,
    (∃ p, value.faults = [] ∧ Param.ofJson value = .ok p) ∨
      ∃ cause, value.faults.head? = some cause ∧ Param.ofJson value = .error cause
  | .null => .inl ⟨_, rfl, rfl⟩
  | .bool b => .inr ⟨_, rfl, rfl⟩
  | .number n => .inl ⟨_, rfl, rfl⟩
  | .string s => .inl ⟨_, rfl, rfl⟩
  | .object members => .inr ⟨_, rfl, rfl⟩
  | .array items => by
    rw [Param.ofJson, Json.faults]
    rcases paramsOfJson_cases items with ⟨params, plain, converted⟩ | ⟨cause, first, refused⟩
    · exact .inl ⟨.list params, plain, by rw [converted]⟩
    · exact .inr ⟨cause, first, by rw [refused]⟩

theorem paramsOfJson_cases : ∀ items : List Json,
    (∃ params, Json.faultsOfAll items = [] ∧ paramsOfJson items = .ok params) ∨
      ∃ cause, (Json.faultsOfAll items).head? = some cause ∧ paramsOfJson items = .error cause
  | [] => .inl ⟨[], rfl, rfl⟩
  | item :: rest => by
    rw [paramsOfJson, Json.faultsOfAll]
    rcases Param.ofJson_cases item with ⟨p, plain, converted⟩ | ⟨cause, first, refused⟩
    · rw [plain, converted, List.nil_append]
      rcases paramsOfJson_cases rest with ⟨params, plain, converted⟩ | ⟨cause, first, refused⟩
      · exact .inl ⟨p :: params, plain, by simp only [converted]⟩
      · exact .inr ⟨cause, first, by simp only [refused]⟩
    · refine .inr ⟨cause, ?_, by rw [refused]⟩
      rw [List.head?_append, first, Option.some_or]

end

theorem exists_paramsOfJson_iff {args : List Json} :
    (∃ params, paramsOfJson args = .ok params) ↔ ∀ arg ∈ args, arg.IsPlain := by
  rw [← Json.faultsOfAll_eq_nil_iff]
  rcases paramsOfJson_cases args with ⟨params, plain, converted⟩ | ⟨cause, first, refused⟩
  · simp [plain, converted]
  · have : Json.faultsOfAll args ≠ [] := by
      intro none
      simp [none] at first
    simp [refused, this]

theorem paramsOfJson_eq_error_iff {args : List Json} {cause : ArgError} :
    paramsOfJson args = .error cause ↔ (Json.faultsOfAll args).head? = some cause := by
  rcases paramsOfJson_cases args with ⟨params, plain, converted⟩ | ⟨other, first, refused⟩
  · simp [plain, converted]
  · simp [first, refused]

end Traversal
