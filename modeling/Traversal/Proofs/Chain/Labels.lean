import Traversal.Chain.Extend
import Traversal.Proofs.Chain.Literals

/-! # Labels as the text declares them

A step demands the labels in its argument as tags of every record, and the server learns them from
the literals in the text of that argument. Both agree exactly if every item is a text without an
escaped quote: a null in a list is demanded as an empty label, and of an escaped quote the literal
shows the quote alone, while the label keeps the backslash. -/

namespace Traversal

/-- What the literals in a text denote, in their order. -/
def Text.denoted (text : String) : List String :=
  (literalsIn text.toList).map fun inside => String.ofList (unescapeQuotes inside)

namespace Param

/-- What an argument lists, which is itself if it is no list. -/
def items : Param → List Param
  | null => []
  | list items => items
  | p => [p]

theorem labels_eq_map (p : Param) : p.labels = p.items.map label := by
  cases p <;> rfl

/-- The argument is null or a well-escaped text. -/
def IsLabel (p : Param) : Prop :=
  p = .null ∨ ∃ s, p = .text s ∧ Text.wellEscaped 0 s.toList = true

/-- The argument is a text without an escaped quote. -/
def ShowsItself (p : Param) : Prop :=
  ∃ s, p = .text s ∧ Text.unescapeQuotes s.toList = s.toList

/-- What the literal of a text denotes. -/
def denotation? : Param → Option String
  | text s => some (String.ofList (Text.unescapeQuotes s.toList))
  | _ => none

theorem denotation?_null : denotation? null = none := rfl

theorem denotation?_text (s : String) :
    denotation? (text s) = some (String.ofList (Text.unescapeQuotes s.toList)) := rfl

/-- The atoms of an argument that lists labels are the labels, and literals show what they
denote. -/
theorem atoms_of_isLabel {args : List Param} (h : ∀ p ∈ args, p.IsLabel) :
    (∀ a ∈ atomsOfAll (outlines args), a.Escaped) ∧
      (((atomsOfAll (outlines args)).filterMap Atom.literal?).map fun inside =>
        String.ofList (Text.unescapeQuotes inside)) = args.filterMap denotation? := by
  induction args with
  | nil => exact ⟨nofun, rfl⟩
  | cons p rest ih =>
    rw [List.forall_mem_cons] at h
    obtain ⟨escaped, shown⟩ := ih h.2
    rcases h.1 with rfl | ⟨s, rfl, hs⟩
    · exact ⟨List.forall_mem_cons.mpr ⟨trivial, escaped⟩, shown⟩
    · refine ⟨List.forall_mem_cons.mpr ⟨hs, escaped⟩, ?_⟩
      rw [List.filterMap_cons_some (denotation?_text s), ← shown,
        ← Text.unescapeQuotes_escapeQuotes s.toList]
      rfl

/-- The text of a list of labels denotes its texts, each with its escaped quotes read as quotes. -/
theorem denoted_render {p : Param} (h : ∀ item ∈ p.items, item.IsLabel) :
    Text.denoted p.render = p.items.filterMap denotation? := by
  have ⟨escaped, shown⟩ : (∀ a ∈ p.outline.atoms, a.Escaped) ∧
      ((p.outline.atoms.filterMap Atom.literal?).map fun inside =>
        String.ofList (Text.unescapeQuotes inside)) = p.items.filterMap denotation? := by
    cases p with
    | null => decide
    | list args =>
      -- the first item and those after it are all items, but for the null of an empty list
      cases args with
      | nil => decide
      | cons p rest => exact atoms_of_isLabel h
    | text | int | float | query =>
      simpa [items, outlines, atomsOfAll] using atoms_of_isLabel h
  have read := p.outline.literalsIn_written escaped []
  rw [List.append_nil, Text.literalsIn, List.append_nil] at read
  rw [Text.denoted, p.toList_render, read, shown]

theorem map_label_eq_iff {args : List Param} (h : ∀ p ∈ args, p.IsLabel) :
    args.map label = args.filterMap denotation? ↔ ∀ p ∈ args, p.ShowsItself := by
  induction args with
  | nil => simp
  | cons p rest ih =>
    rw [List.forall_mem_cons] at h
    rw [List.forall_mem_cons, ← ih h.2]
    rcases h.1 with rfl | ⟨s, rfl, -⟩
    · -- a null makes the list of labels the longer one
      have shorter := List.length_filterMap_le denotation? rest
      constructor
      · intro he
        have hlen := congrArg List.length he
        rw [List.filterMap_cons_none denotation?_null, List.length_map, List.length_cons] at hlen
        omega
      · rintro ⟨⟨s, hs, -⟩, -⟩
        cases hs
    · have first : ShowsItself (.text s) ↔
          s = String.ofList (Text.unescapeQuotes s.toList) := by
        rw [← String.toList_inj, String.toList_ofList, eq_comm]
        exact ⟨fun ⟨t, ht, hu⟩ => by cases ht; exact hu, fun hu => ⟨s, rfl, hu⟩⟩
      rw [List.map_cons, List.filterMap_cons_some (denotation?_text s), List.cons.injEq, first]
      rfl

end Param

theorem StepRule.tagArg_eq_some_iff {rule : StepRule} {index : Nat} :
    rule.tagArg = some index ↔ rule.tagRule = .arg index := by
  cases h : rule.tagRule <;> simp [tagArg, h]

/-- A step that names tags by an argument of nulls and well-escaped texts demands exactly what the
text of that argument declares, if every item is a text without an escaped quote, and only then. -/
theorem namedTags_eq_denoted_iff {kind : StepKind} {args : List Param} {index : Nat} {p : Param}
    (rule : kind.rule.tagArg = some index) (arg : args[index]? = some p)
    (labels : ∀ item ∈ p.items, item.IsLabel) :
    namedTags kind args = Text.denoted p.render ↔ ∀ item ∈ p.items, item.ShowsItself := by
  have named : namedTags kind args = p.items.map Param.label := by
    simp [namedTags, TagRule.labels, StepRule.tagArg_eq_some_iff.mp rule, arg, Param.labels_eq_map]
  rw [named, Param.denoted_render labels, Param.map_label_eq_iff labels]

/-- Two labels for the target of a step, one of them with a quote. -/
theorem namedTags_eq_denoted_iff_quoted :
    let p : Param := .list [.text "a", .text "b\"c"]
    let args : List Param := [.text "follows", p]
    StepKind.outward.rule.tagArg = some 1 ∧ args[1]? = some p ∧
      (∀ item ∈ p.items, item.IsLabel) ∧
      (namedTags .outward args = Text.denoted p.render ↔ ∀ item ∈ p.items, item.ShowsItself) := by
  intro p args
  have labels : ∀ item ∈ p.items, item.IsLabel := by
    intro item hi
    rcases List.mem_pair.mp hi with rfl | rfl
    · exact Or.inr ⟨_, rfl, by decide +kernel⟩
    · exact Or.inr ⟨_, rfl, by decide +kernel⟩
  exact ⟨rfl, rfl, labels, namedTags_eq_denoted_iff rfl rfl labels⟩

/-- A null in a list is accepted and demanded as an empty label, which the text does not declare. -/
theorem null_label_not_denoted :
    let c : Chain := .vertex 0 [.text "x"]
    let p : Param := .list [.null, .text "a"]
    c.addNamed "Tag" [p] = .ok (.step c .tag [p]) ∧ namedTags .tag [p] = ["", "a"] ∧
      Text.denoted p.render = ["a"] := by
  intro c p
  have labels : ∀ item ∈ p.items, item.IsLabel := by
    intro item hi
    rcases List.mem_pair.mp hi with rfl | rfl
    · exact Or.inl rfl
    · exact Or.inr ⟨_, rfl, by decide +kernel⟩
  exact ⟨by rfl, by rfl, Param.denoted_render labels⟩

end Traversal
