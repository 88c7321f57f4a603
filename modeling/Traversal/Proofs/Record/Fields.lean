import Mathlib.Data.List.Basic
import Traversal.Record

/-! # The fields of a record

The tags of a record are meant to differ, so that each names one field. Records made from fields are
of this kind, and records made from such records by changing values stay so. -/

namespace Traversal

/-- Under different keys every value is found. -/
theorem lookup_eq_some_iff_mem {α : Type} {pairs : List (String × α)}
    (h : (pairs.map (·.1)).Nodup) {key : String} {value : α} :
    pairs.lookup key = some value ↔ (key, value) ∈ pairs := by
  rw [List.lookup_eq_some_iff]
  constructor
  · rintro ⟨before, after, rfl, -⟩
    exact List.mem_append_right _ List.mem_cons_self
  · intro mem
    obtain ⟨before, after, rfl⟩ := List.append_of_mem mem
    refine ⟨before, after, rfl, fun other hother => ?_⟩
    rw [List.map_append, List.nodup_append] at h
    simpa using (h.2.2 other.1 (List.mem_map_of_mem hother) key (by simp)).symm

namespace Record

/-! ## Records with different tags -/

section Nodup

variable {r : Record}

/-- Every field is found by its tag. -/
theorem get?_eq_some_iff (h : r.tags.Nodup) {tag value : String} :
    r.get? tag = some value ↔ (tag, value) ∈ r.fields :=
  lookup_eq_some_iff_mem h

theorem field_eq_ok_iff (h : r.tags.Nodup) {tag value : String} :
    r.field tag = .ok value ↔ (tag, value) ∈ r.fields := by
  rw [← get?_eq_some_iff h, field]
  cases r.get? tag <;> simp

end Nodup

theorem firstFields_eq_self {fields : List (String × String)} (seen : List String)
    (h : (fields.map (·.1)).Nodup) (fresh : ∀ field ∈ fields, field.1 ∉ seen) :
    firstFields seen fields = fields := by
  induction fields generalizing seen with
  | nil => rfl
  | cons field rest ih =>
    rw [List.map_cons, List.nodup_cons] at h
    rw [List.forall_mem_cons] at fresh
    rw [firstFields, if_neg fresh.1, ih _ h.2]
    intro other hother hseen
    rcases List.mem_cons.mp hseen with he | hseen
    · exact h.1 (he ▸ List.mem_map_of_mem hother)
    · exact fresh.2 other hother hseen

/-- A record with different tags is the one made from its fields. -/
theorem ofFields_fields {r : Record} (h : r.tags.Nodup) : ofFields r.fields = r := by
  rw [ofFields, firstFields_eq_self [] h (by simp)]

theorem not_mem_seen_of_mem_firstFields {seen : List String} {fields : List (String × String)}
    {field : String × String} (h : field ∈ firstFields seen fields) : field.1 ∉ seen := by
  induction fields generalizing seen with
  | nil => cases h
  | cons first rest ih =>
    rw [firstFields] at h
    by_cases hseen : first.1 ∈ seen
    · rw [if_pos hseen] at h
      exact ih h
    · rw [if_neg hseen] at h
      rcases List.mem_cons.mp h with rfl | h
      · exact hseen
      · exact fun hm => ih h (List.mem_cons_of_mem _ hm)

theorem nodup_firstFields (seen : List String) (fields : List (String × String)) :
    ((firstFields seen fields).map (·.1)).Nodup := by
  induction fields generalizing seen with
  | nil => exact List.nodup_nil
  | cons field rest ih =>
    rw [firstFields]
    by_cases hseen : field.1 ∈ seen
    · rw [if_pos hseen]
      exact ih seen
    · rw [if_neg hseen, List.map_cons, List.nodup_cons]
      refine ⟨fun hm => ?_, ih _⟩
      obtain ⟨other, hother, he⟩ := List.mem_map.mp hm
      exact not_mem_seen_of_mem_firstFields hother (he ▸ List.mem_cons_self)

theorem nodup_tags_ofFields (fields : List (String × String)) : (ofFields fields).tags.Nodup :=
  nodup_firstFields [] fields

@[simp] theorem tags_mapValues (f : String → String) (r : Record) :
    (r.mapValues f).tags = r.tags := by
  simp [tags, mapValues]

/-- What a caller can make who is given a record: the record itself, records from fields, and what
comes of these when their values are changed. -/
inductive MadeFrom (r : Record) : Record → Prop
  | given : MadeFrom r r
  | ofFields (fields : List (String × String)) : MadeFrom r (.ofFields fields)
  | mapValues (f : String → String) {made : Record} (h : MadeFrom r made) :
      MadeFrom r (made.mapValues f)

theorem MadeFrom.nodup_tags {r made : Record} (h : MadeFrom r made) (hr : r.tags.Nodup) :
    made.tags.Nodup := by
  induction h with
  | given => exact hr
  | ofFields fields => exact nodup_tags_ofFields fields
  | mapValues f _ ih => rwa [tags_mapValues]

end Record

end Traversal
