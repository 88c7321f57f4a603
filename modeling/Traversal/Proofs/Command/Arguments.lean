import Traversal.Command.Build
import Traversal.Proofs.Chain.Outline
import Traversal.Proofs.Json.Reader
import Traversal.Proofs.Text.Literal

/-! # Arguments typed as they are written

Texts without backslashes and controls, integers, and lists of these are written in the query
language as they are in JSON. So the arguments of a step can be typed on the command line as they
stand in the text of a query, and mean there what they meant. -/

namespace Traversal

/-- An argument that is written as in JSON: a text without backslashes and controls, an integer, or a
list of these. Lists nest at most `depth` deep. -/
inductive Param.Typable : Nat → Param → Prop
  | text {depth : Nat} {s : String} (h : ∀ c ∈ s.toList, c ≠ '\\' ∧ 0x20 ≤ c.toNat) :
      Typable depth (.text s)
  | int {depth : Nat} (n : Int64) : Typable depth (.int n)
  | list {depth : Nat} {items : List Param} (h : ∀ p ∈ items, Typable depth p) :
      Typable (depth + 1) (.list items)

/-- The step as it is typed with its arguments as they stand in the text of a query. -/
def StepArg.typed (name : String) (args : List Param) : String :=
  name ++ "=[" ++ ", ".intercalate (args.map Param.render) ++ "]"

/-! ## One argument -/

namespace Json

theorem readPieces_escapeQuotes {s : List Char} (h : ∀ c ∈ s, c ≠ '\\' ∧ 0x20 ≤ c.toNat)
    (rest : List Char) :
    readPieces (Text.escapeQuotes s ++ '"' :: rest) = some (s.map .char, rest) := by
  induction s with
  | nil => rfl
  | cons c s ih =>
    obtain ⟨⟨slash, shown⟩, others⟩ := List.forall_mem_cons.mp h
    by_cases quote : c = '"'
    · subst quote
      rw [Text.escapeQuotes_cons_quote, List.cons_append, List.cons_append,
        readPieces_escape rfl, ih others]
      rfl
    · rw [Text.escapeQuotes_cons_of_ne quote fun h => absurd h slash, List.cons_append,
        readPieces_char quote slash shown, ih others]
      rfl

theorem readsAs_quoted {s : String} (h : ∀ c ∈ s.toList, c ≠ '\\' ∧ 0x20 ≤ c.toNat) (depth : Nat) :
    ReadsAs (readValue depth) (Text.quoted s).toList (.string s) := by
  rw [Text.toList_quoted]
  refine readValue_string (fun rest => ?_) depth
  rw [readString, readPieces_escapeQuotes h]
  simp [joinPieces_chars]

end Json

namespace Param

open Json (ReadsAs readValue)

/-- The value that the written argument is read as, and that it stands for the argument. -/
def IsTypedAs (depth : Nat) (p : Param) (value : Json) : Prop :=
  ReadsAs (readValue depth) p.render.toList value ∧ ofJson value = .ok p

theorem param_int (n : Int64) : (Json.Number.int n.toInt).param = .int n := by
  rw [Json.Number.param, if_pos ⟨n.minValue_le_toInt, n.toInt_le⟩, Int64.ofInt_toInt]

theorem paramsOfJson_of_isTypedAs {depth : Nat} {items : List Param} {values : List Json}
    (h : List.Forall₂ (IsTypedAs depth) items values) : paramsOfJson values = .ok items := by
  induction h with
  | nil => rfl
  | cons head _ ih => rw [paramsOfJson, head.2, ih]

theorem toList_render_list (p : Param) (rest : List Param) : (list (p :: rest)).render.toList =
    '[' :: (p.render.toList ++
      (Json.continued [' '] (rest.map fun q => q.render.toList) ++ [']'])) := by
  rw [render, renderAll, renderAll_eq_map, String.toList_append, String.toList_append,
    Text.toList_intercalate_cons]
  simp [Json.continued, List.flatMap_map]

/-- A list is typed as the array of what its items are typed as. -/
theorem isTypedAs_list {depth : Nat} {items : List Param} {values : List Json}
    (h : List.Forall₂ (IsTypedAs depth) items values) :
    IsTypedAs (depth + 1) (.list items) (.array values) := by
  refine ⟨?_, by rw [ofJson, paramsOfJson_of_isTypedAs h]⟩
  cases h with
  | nil => exact Json.readsAs_array_nil depth
  | @cons p value rest values head tail =>
    rw [toList_render_list]
    refine Json.readsAs_array (Json.readValue_blank depth) head.1 ?_
    rw [List.forall₂_map_left_iff]
    exact tail.imp fun _ _ item => item.1

theorem exists_values {depth : Nat} {items : List Param}
    (h : ∀ p ∈ items, ∃ value, p.IsTypedAs depth value) :
    ∃ values, List.Forall₂ (IsTypedAs depth) items values := by
  induction items with
  | nil => exact ⟨[], .nil⟩
  | cons p rest ih =>
    obtain ⟨value, head⟩ := h p List.mem_cons_self
    obtain ⟨values, tail⟩ := ih fun q hq => h q (List.mem_cons_of_mem p hq)
    exact ⟨value :: values, .cons head tail⟩

theorem Typable.exists_value {depth : Nat} {p : Param} (h : p.Typable depth) :
    ∃ value, p.IsTypedAs depth value := by
  induction h with
  | text h => exact ⟨.string _, Json.readsAs_quoted h _, rfl⟩
  | int n =>
    have most : n.toInt < UInt64.size := Int.lt_trans n.toInt_lt (by decide)
    refine ⟨.number (.int n.toInt), Json.readsAs_int n.le_toInt most _, ?_⟩
    rw [ofJson, param_int]
  | list _ ih =>
    obtain ⟨values, h⟩ := exists_values ih
    exact ⟨.array values, isTypedAs_list h⟩

end Param

/-! ## The whole step -/

theorem splitAtEquals_append {name : List Char} (h : '=' ∉ name) (json : List Char) :
    splitAtEquals (name ++ '=' :: json) = some (name, json) := by
  induction name with
  | nil => rfl
  | cons c rest ih =>
    obtain ⟨hc, hrest⟩ := List.ne_and_not_mem_of_not_mem_cons h
    rw [List.cons_append, splitAtEquals, if_neg hc.symm, ih hrest]
    rfl

theorem StepArg.toList_typed (name : String) (args : List Param) :
    (typed name args).toList = name.toList ++ '=' :: (Param.list args).render.toList := by
  rw [typed, ← renderAll_eq_map, Param.render]
  simp

theorem StepArg.exists_json_of_typable {args : List Param} (h : ∀ p ∈ args, p.Typable 126) :
    ∃ values, Json.read (Param.list args).render = some (.array values) ∧
      paramsOfJson values = .ok args := by
  obtain ⟨values, typed⟩ := Param.exists_values fun p hp => (h p hp).exists_value
  obtain ⟨read, -⟩ := Param.isTypedAs_list typed
  have whole := read [] Json.stops_nil
  rw [List.append_nil] at whole
  refine ⟨values, ?_, Param.paramsOfJson_of_isTypedAs typed⟩
  rw [Json.read, Json.maxDepth, whole]
  rfl

theorem Chain.build_step {graph : GraphId} {root step : StepArg} {c : Chain} {args : List Param}
    (hroot : ofRoot graph root = .ok c) (hargs : paramsOfJson step.args = .ok args) :
    build graph [root, step] = (c.addNamed step.name args).mapError .usage := by
  simp only [build, hroot, addSteps, addStep, StepArg.params, hargs]
  cases c.addNamed step.name args <;> rfl

/-- A step that is typed with its arguments as they are written is read as that step with those
arguments, and adding it on the command line is adding it by its name. -/
theorem StepArg.parse_typed {name : String} {args : List Param} (nonempty : name ≠ "")
    (plain : '=' ∉ name.toList) (h : ∀ p ∈ args, p.Typable 126) :
    ∃ step, parse (typed name args) = .ok step ∧ step.name = name ∧
      paramsOfJson step.args = .ok args ∧
      ∀ graph root c, Chain.ofRoot graph root = .ok c →
        Chain.build graph [root, step] = (c.addNamed name args).mapError .usage := by
  obtain ⟨values, read, converted⟩ := exists_json_of_typable h
  refine ⟨⟨name, values⟩, ?_, rfl, converted, fun graph root c hroot => ?_⟩
  · rw [parse, toList_typed, splitAtEquals_append plain]
    simp only [String.ofList_toList, read, named, if_neg nonempty]
  · exact Chain.build_step hroot converted

/-- Quotes inside a text, the least integer, and lists in lists. -/
theorem StepArg.parse_typed_nested :
    let args : List Param :=
      [.text "say \"hi\", [1]", .list [.int Int64.minValue, .list [], .list [.text "é"]]]
    "Out" ≠ "" ∧ '=' ∉ "Out".toList ∧ (∀ p ∈ args, p.Typable 126) ∧
      ∃ step, parse (typed "Out" args) = .ok step ∧ step.name = "Out" ∧
        paramsOfJson step.args = .ok args ∧
        ∀ graph root c, Chain.ofRoot graph root = .ok c →
          Chain.build graph [root, step] = (c.addNamed "Out" args).mapError .usage := by
  intro args
  have typable : ∀ p ∈ args, p.Typable 126 := by
    refine List.forall_mem_cons.mpr ⟨.text (by simp), List.forall_mem_singleton.mpr ?_⟩
    refine .list (List.forall_mem_cons.mpr ⟨.int _, List.forall_mem_cons.mpr ⟨.list (by simp), ?_⟩⟩)
    refine List.forall_mem_singleton.mpr (.list (List.forall_mem_singleton.mpr ?_))
    exact .text (by simp)
  exact ⟨by decide, by decide, typable, parse_typed (by decide) (by decide) typable⟩

end Traversal
