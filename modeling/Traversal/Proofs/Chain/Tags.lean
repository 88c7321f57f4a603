import Mathlib.Data.List.Nodup
import Traversal.Chain.Tags

/-! # The tags of a chain

A step names tags by one argument or by a range of them. No tag of a chain is there twice, whatever
its steps name and whatever morphisms they follow. -/

namespace Traversal

/-- A range of arguments names what they name one by one. -/
theorem TagRule.labels_args (start count : Nat) (args : List Param) :
    (TagRule.args start (start + count)).labels args =
      (List.range' start count).flatMap fun index => (TagRule.arg index).labels args := by
  simp only [labels, List.drop_take, Nat.add_sub_cancel_left]
  induction count generalizing start with
  | zero => rfl
  | succ count ih =>
    rw [List.range'_succ, List.flatMap_cons, ← ih, List.drop_eq_getElem?_toList_append]
    cases h : args[start]? with
    | none =>
      have past : args.drop (start + 1) = [] :=
        List.drop_eq_nil_iff.mpr (Nat.le_succ_of_le (List.getElem?_eq_none_iff.mp h))
      simp [past]
    | some arg => simp

/-- An argument behind the range names nothing, and the range may go past the last argument. -/
example : (TagRule.args 1 3).labels [.text "p", .text "a", .list [.text "b", .text "c"], .text "d"] =
      ["a", "b", "c"] ∧ (TagRule.args 1 3).labels [.text "p"] = [] := by
  decide +kernel

theorem nodup_addTags {known : List String} (h : known.Nodup) (tags : List String) :
    (addTags known tags).Nodup := by
  induction tags generalizing known with
  | nil => exact h
  | cons tag rest ih =>
    rw [addTags]
    by_cases hm : tag ∈ known
    · rw [if_pos hm]
      exact ih h
    · rw [if_neg hm]
      refine ih (List.nodup_append.mpr ⟨h, List.nodup_singleton tag, ?_⟩)
      rintro other hother _ hsame rfl
      exact hm (List.mem_singleton.mp hsame ▸ hother)

theorem Chain.nodup_tags (c : Chain) : c.tags.Nodup := by
  cases c with
  | vertex | morphism => exact List.nodup_singleton idTag
  | step pred => exact nodup_addTags pred.nodup_tags _
  | client pred => exact pred.nodup_tags

end Traversal
