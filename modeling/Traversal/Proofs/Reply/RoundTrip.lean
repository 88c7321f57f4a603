import Mathlib.Data.List.Nodup
import Traversal.Proofs.Json.Written
import Traversal.Proofs.Record.Fields
import Traversal.Proofs.Reply.Interpretation

/-! # Records there and back

A response that lists records as they are written gives just these records, with their fields in the
order of the tags, although an object that is read has its members in the order of their names. So
records with the same tags that are written alike are equal. -/

namespace Traversal

namespace Record

/-- The members of a record as it is written. -/
def members (r : Record) : List (String × Json) :=
  r.fields.map fun (tag, value) => (tag, .string value)

theorem names_members (r : Record) : r.members.map (·.1) = r.tags := by
  simp [members, tags, Function.comp_def]

theorem mem_members {r : Record} {member : String × Json} :
    member ∈ r.members ↔ ∃ field ∈ r.fields, member = (field.1, .string field.2) := by
  simp [members, eq_comm (a := member)]

/-- A written record is read as the object of its members. -/
theorem readsAs_json (r : Record) (depth : Nat) :
    Json.ReadsAs (Json.readValue (depth + 1)) r.json.toList (.ofMembers r.members) := by
  refine Json.readsAs_write_object fun member mem => ?_
  obtain ⟨field, _, rfl⟩ := mem_members.mp mem
  rw [Json.write]
  exact Json.readsAs_string field.2 depth

/-- The object that is read stands for the record. -/
theorem shows_ofMembers {tags : List String} {r : Record} (nodup : tags.Nodup) (h : r.tags = tags) :
    Shows tags (.ofMembers r.members) r := by
  subst h
  -- the names differ, so that the last member of a name is the only one
  have distinct : (r.members.reverse.map (·.1)).Nodup := by
    rw [List.map_reverse, names_members]
    exact List.nodup_reverse.mpr nodup
  have member?_iff : ∀ name value, (Json.ofMembers r.members).member? name = some value ↔
      ∃ field ∈ r.fields, (name, value) = (field.1, .string field.2) := by
    intro name value
    rw [Json.member?_ofMembers, lookup_eq_some_iff_mem distinct, List.mem_reverse, mem_members]
  refine ⟨⟨⟨_, rfl⟩, fun name => ⟨?_, ?_⟩, fun name value present => ?_⟩, rfl, fun field mem => ?_⟩
  · rintro ⟨value, present⟩
    obtain ⟨field, mem, he⟩ := (member?_iff name value).mp present
    exact List.mem_map.mpr ⟨field, mem, (Prod.mk.inj he).1.symm⟩
  · intro mem
    obtain ⟨field, found, rfl⟩ := List.mem_map.mp mem
    exact ⟨_, (member?_iff _ _).mpr ⟨field, found, rfl⟩⟩
  · obtain ⟨field, _, he⟩ := (member?_iff name value).mp present
    exact ⟨field.2, (Prod.mk.inj he).2⟩
  · exact (member?_iff _ _).mpr ⟨field, mem, rfl⟩

end Record

namespace Response

/-- The response that lists the records as they are written. -/
def listing (records : List Record) : Response :=
  ⟨200, "\x7b\"result\":[" ++ ",".intercalate (records.map Record.json) ++ "]\x7d"⟩

theorem body_listing (records : List Record) : (listing records).body =
    "\x7b" ++ ",".intercalate
      [Json.memberText "result" ("[" ++ ",".intercalate (records.map Record.json) ++ "]")] ++
      "\x7d" := by
  have name : Json.writeString "result" = "\"result\"" := rfl
  rw [listing, String.intercalate_singleton, Json.memberText, name, ← String.toList_inj]
  simp

example : (listing [⟨[("id", "a"), ("b", "\"")]⟩, ⟨[]⟩]).body =
    "\x7b\"result\":[\x7b\"id\":\"a\",\"b\":\"\\\"\"\x7d,\x7b\x7d]\x7d" := by decide

theorem read_listing (records : List Record) : Json.read (listing records).body =
    some (.ofMembers [("result", .array (records.map fun r => .ofMembers r.members))]) := by
  -- the body, the list and the record each take one of the 127 levels
  have items := Json.readsAs_array_intercalate (List.forall₂_map_left_iff.mpr
    (List.forall₂_map_right_iff.mpr (List.forall₂_same.mpr fun r (_ : r ∈ records) =>
      r.readsAs_json 124)))
  have whole := Json.readsAs_object_intercalate (.cons (Json.readsAs_member items "result") .nil) []
    Json.stops_nil
  rw [← body_listing, List.append_nil] at whole
  rw [Json.read, Json.maxDepth, whole]
  rfl

theorem gives_listing {tags : List String} (nodup : tags.Nodup) {records : List Record}
    (h : ∀ r ∈ records, r.tags = tags) : Gives tags (listing records) (.ofRecords records) := by
  refine .items rfl (read_listing records) rfl ?_
  refine List.forall₂_map_left_iff.mpr (List.forall₂_same.mpr fun r mem => ?_)
  exact Record.shows_ofMembers nodup (h r mem)

/-- Records are read back as they were written, and what is written tells them apart. -/
theorem interpret_listing {tags : List String} (nodup : tags.Nodup) :
    (∀ records : List Record, (∀ r ∈ records, r.tags = tags) →
      (listing records).interpret tags = .ok (.ofRecords records)) ∧
    ∀ r s : Record, r.tags = tags → s.tags = tags → r.json = s.json → r = s := by
  have back : ∀ records : List Record, (∀ r ∈ records, r.tags = tags) →
      (listing records).interpret tags = .ok (.ofRecords records) :=
    fun records h => interpret_of_gives (gives_listing nodup h)
  refine ⟨back, fun r s hr hs same => ?_⟩
  have first := back [r] (List.forall_mem_singleton.mpr hr)
  have second := back [s] (List.forall_mem_singleton.mpr hs)
  have alike : listing [r] = listing [s] := by simp only [listing, List.map_singleton, same]
  rw [alike, second] at first
  simpa [ResultSet.ofRecords, eq_comm] using first

/-- Tags that do not stand in the order of names, and characters that are escaped or take two units of
UTF-16. -/
theorem interpret_listing_escaped :
    let tags := ["z", "a\"\\", "😀"]
    let r : Record := ⟨[("z", "\x00\n"), ("a\"\\", "é\x1f/😀"), ("😀", "")]⟩
    let s : Record := ⟨[("z", ""), ("a\"\\", "\\u0041"), ("😀", "\"\t")]⟩
    tags.Nodup ∧ (∀ record ∈ [r, s, r], record.tags = tags) ∧
      (listing [r, s, r]).interpret tags = .ok (.ofRecords [r, s, r]) ∧
      (r.json = s.json → r = s) := by
  intro tags r s
  have nodup : tags.Nodup := by decide
  have same : ∀ record ∈ [r, s, r], record.tags = tags := by decide
  exact ⟨nodup, same, (interpret_listing nodup).1 _ same, (interpret_listing nodup).2 r s rfl rfl⟩

end Response

end Traversal
