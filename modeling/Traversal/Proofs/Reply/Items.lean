import Mathlib.Data.List.Forall2
import Traversal.Reply

/-! # The items of a reply

An item stands for a record exactly if it is an object whose names are the tags, with texts for
values. The record has these values under the tags, in the order of the tags. Any other item has a
fault, and its error tells the first one. -/

namespace Traversal

/-- Under the name stands a text. -/
def Json.HasText (item : Json) (name : String) : Prop := ∃ s, item.member? name = some (.string s)

/-- An object whose names are the tags, with texts for values. -/
structure Json.IsItem (tags : List String) (item : Json) : Prop where
  isObject : ∃ members, item = .object members
  names : ∀ name, (∃ value, item.member? name = some value) ↔ name ∈ tags
  texts : ∀ name value, item.member? name = some value → ∃ s, value = .string s

namespace Record

/-- The record has the values of the item, under the tags and in their order. -/
structure Shows (tags : List String) (item : Json) (r : Record) : Prop where
  isItem : item.IsItem tags
  tags_eq : r.tags = tags
  values : ∀ field ∈ r.fields, item.member? field.1 = some (.string field.2)

/-- The first thing that is wrong with an item. Names that are no tags come before tags. -/
inductive Fault (tags : List String) : Json → RecordError → Prop
  | notObject {item : Json} (other : ∀ members, item ≠ .object members) :
      Fault tags item (.notObject item.write)
  | unexpectedKey {before after : List (String × Json)} {key : String} {value : Json}
      (known : ∀ member ∈ before, member.1 ∈ tags) (unknown : key ∉ tags) :
      Fault tags (.object (before ++ (key, value) :: after)) (.unexpectedKey key)
  | missingTag {members : List (String × Json)} {before after : List String} {tag : String}
      (known : ∀ member ∈ members, member.1 ∈ tags) (split : tags = before ++ tag :: after)
      (fit : ∀ earlier ∈ before, (Json.object members).HasText earlier)
      (missing : (Json.object members).member? tag = none) :
      Fault tags (.object members) (.missingTag tag)
  | notString {members : List (String × Json)} {before after : List String} {tag : String}
      {value : Json} (known : ∀ member ∈ members, member.1 ∈ tags)
      (split : tags = before ++ tag :: after)
      (fit : ∀ earlier ∈ before, (Json.object members).HasText earlier)
      (present : (Json.object members).member? tag = some value) (other : ∀ s, value ≠ .string s) :
      Fault tags (.object members) (.notString tag value.write)

/-! ## One tag after the other -/

section Fields

variable {item : Json} {error : RecordError}

theorem fieldsOfJson_cons_of_text {tag s : String} (h : item.member? tag = some (.string s))
    (rest : List String) : fieldsOfJson item (tag :: rest) =
      (fieldsOfJson item rest).map fun fields => (tag, s) :: fields := by
  rw [fieldsOfJson, h]
  cases fieldsOfJson item rest <;> rfl

theorem fieldsOfJson_of_values {fields : List (String × String)}
    (values : ∀ field ∈ fields, item.member? field.1 = some (.string field.2)) :
    fieldsOfJson item (fields.map (·.1)) = .ok fields := by
  induction fields with
  | nil => rfl
  | cons field rest ih =>
    obtain ⟨first, values⟩ := List.forall_mem_cons.mp values
    rw [List.map_cons, fieldsOfJson_cons_of_text first, ih values]
    rfl

/-- Tags with texts under them leave the error to what follows. -/
theorem fieldsOfJson_append_of_fit {before after : List String}
    (fit : ∀ tag ∈ before, item.HasText tag)
    (h : fieldsOfJson item after = .error error) :
    fieldsOfJson item (before ++ after) = .error error := by
  induction before with
  | nil => exact h
  | cons tag rest ih =>
    obtain ⟨⟨s, first⟩, fit⟩ := List.forall_mem_cons.mp fit
    rw [List.cons_append, fieldsOfJson_cons_of_text first, ih fit]
    rfl

theorem fieldsOfJson_of_missing {tag : String} (h : item.member? tag = none) (after : List String) :
    fieldsOfJson item (tag :: after) = .error (.missingTag tag) := by
  rw [fieldsOfJson, h]

theorem fieldsOfJson_of_other {tag : String} {value : Json} (h : item.member? tag = some value)
    (other : ∀ s, value ≠ .string s) (after : List String) :
    fieldsOfJson item (tag :: after) = .error (.notString tag value.write) := by
  rw [fieldsOfJson, h]
  cases value with
  | string s => exact absurd rfl (other s)
  | _ => rfl

/-- There is a text under every tag, or there is a first tag without one. -/
theorem values_or_wrong (item : Json) (tags : List String) :
    (∃ fields : List (String × String), fields.map (·.1) = tags ∧
        ∀ field ∈ fields, item.member? field.1 = some (.string field.2)) ∨
      ∃ before tag after, tags = before ++ tag :: after ∧
        (∀ earlier ∈ before, item.HasText earlier) ∧ ¬ item.HasText tag := by
  induction tags with
  | nil => exact .inl ⟨[], rfl, nofun⟩
  | cons tag rest ih =>
    by_cases first : item.HasText tag
    · rcases ih with ⟨fields, rfl, values⟩ | ⟨before, wrong, after, rfl, fit, isWrong⟩
      · obtain ⟨s, first⟩ := first
        exact .inl ⟨(tag, s) :: fields, rfl, List.forall_mem_cons.mpr ⟨first, values⟩⟩
      · exact .inr ⟨tag :: before, wrong, after, rfl, List.forall_mem_cons.mpr ⟨first, fit⟩, isWrong⟩
    · exact .inr ⟨[], tag, rest, rfl, nofun, first⟩

end Fields

/-! ## The whole item -/

section Item

variable {tags : List String} {item : Json} {r : Record} {error : RecordError}

theorem exists_member?_iff {members : List (String × Json)} {name : String} :
    (∃ value, (Json.object members).member? name = some value) ↔
      ∃ member ∈ members, member.1 = name := by
  rw [Json.member?, ← Option.isSome_iff_exists, List.lookup_isSome_iff]
  exact exists_congr fun member => and_congr_right fun _ => by rw [beq_iff_eq, eq_comm]

theorem ofJson_of_unknown {before after : List (String × Json)} {key : String} {value : Json}
    (known : ∀ member ∈ before, member.1 ∈ tags) (unknown : key ∉ tags) :
    ofJson tags (.object (before ++ (key, value) :: after)) = .error (.unexpectedKey key) := by
  have first : (before ++ (key, value) :: after).find? (fun member => member.1 ∉ tags) =
      some (key, value) :=
    List.find?_eq_some_iff_append.mpr
      ⟨by simpa using unknown, before, after, rfl, by simpa using known⟩
  rw [ofJson, first]

theorem ofJson_of_known {members : List (String × Json)}
    (known : ∀ member ∈ members, member.1 ∈ tags) :
    ofJson tags (.object members) = (fieldsOfJson (.object members) tags).map Record.mk := by
  have none : (members.find? fun member => member.1 ∉ tags) = none := by
    simpa [List.find?_eq_none] using known
  rw [ofJson, none]
  cases fieldsOfJson (.object members) tags <;> rfl

/-- All names are tags, or there is a first one that is none. -/
theorem known_or_unknown (tags : List String) (members : List (String × Json)) :
    (∀ member ∈ members, member.1 ∈ tags) ∨ ∃ before key value after,
      members = before ++ (key, value) :: after ∧ (∀ member ∈ before, member.1 ∈ tags) ∧
        key ∉ tags := by
  cases h : members.find? fun member => member.1 ∉ tags with
  | none => exact .inl (by simpa [List.find?_eq_none] using h)
  | some extra =>
    obtain ⟨unknown, before, after, split, known⟩ := List.find?_eq_some_iff_append.mp h
    exact .inr ⟨before, extra.1, extra.2, after, split, by simpa using known, by simpa using unknown⟩

theorem shows_of_known {members : List (String × Json)}
    (known : ∀ member ∈ members, member.1 ∈ tags) (tags_eq : r.tags = tags)
    (values : ∀ field ∈ r.fields, (Json.object members).member? field.1 = some (.string field.2)) :
    r.Shows tags (.object members) := by
  have fieldOf : ∀ tag ∈ tags, (Json.object members).HasText tag := by
    intro tag mem
    obtain ⟨field, hfield, rfl⟩ := List.mem_map.mp (tags_eq ▸ mem)
    exact ⟨field.2, values field hfield⟩
  have tagOf : ∀ name value, (Json.object members).member? name = some value → name ∈ tags := by
    intro name value present
    obtain ⟨member, mem, rfl⟩ := exists_member?_iff.mp ⟨value, present⟩
    exact known member mem
  refine ⟨⟨⟨members, rfl⟩, fun name => ⟨fun ⟨value, present⟩ => tagOf name value present, ?_⟩, ?_⟩,
    tags_eq, values⟩
  · intro mem
    obtain ⟨s, present⟩ := fieldOf name mem
    exact ⟨_, present⟩
  · intro name value present
    obtain ⟨s, text⟩ := fieldOf name (tagOf name value present)
    exact ⟨s, Option.some.inj (present.symm.trans text)⟩

theorem known_of_isItem {members : List (String × Json)} (h : (Json.object members).IsItem tags) :
    ∀ member ∈ members, member.1 ∈ tags :=
  fun member mem => (h.names member.1).mp (exists_member?_iff.mpr ⟨member, mem, rfl⟩)

theorem ofJson_of_shows (h : Shows tags item r) : ofJson tags item = .ok r := by
  obtain ⟨members, rfl⟩ := h.isItem.isObject
  rw [ofJson_of_known (known_of_isItem h.isItem), ← h.tags_eq, Record.tags,
    fieldsOfJson_of_values h.values]
  rfl

theorem ofJson_of_fault (fault : Fault tags item error) : ofJson tags item = .error error := by
  cases fault with
  | notObject other =>
    cases item with
    | object members => exact absurd rfl (other members)
    | _ => rfl
  | unexpectedKey known unknown => exact ofJson_of_unknown known unknown
  | missingTag known split fit missing =>
    rw [ofJson_of_known known, split,
      fieldsOfJson_append_of_fit fit (fieldsOfJson_of_missing missing _)]
    rfl
  | notString known split fit present other =>
    rw [ofJson_of_known known, split,
      fieldsOfJson_append_of_fit fit (fieldsOfJson_of_other present other _)]
    rfl

/-- An item stands for a record or has a fault. -/
theorem shows_or_fault (tags : List String) (item : Json) :
    (∃ r, Shows tags item r) ∨ ∃ error, Fault tags item error := by
  cases item with
  | object members =>
    rcases known_or_unknown tags members with known | ⟨_, _, _, _, rfl, known, unknown⟩
    · rcases values_or_wrong (.object members) tags with
        ⟨fields, tags_eq, values⟩ | ⟨before, tag, after, split, fit, wrong⟩
      · exact .inl ⟨⟨fields⟩, shows_of_known known tags_eq values⟩
      · cases present : (Json.object members).member? tag with
        | none => exact .inr ⟨_, .missingTag known split fit present⟩
        | some value =>
          refine .inr ⟨_, .notString known split fit present fun s he => ?_⟩
          exact wrong ⟨s, he ▸ present⟩
    · exact .inr ⟨_, .unexpectedKey known unknown⟩
  | _ => exact .inr ⟨_, .notObject nofun⟩

theorem Fault.not_isItem (fault : Fault tags item error) : ¬ item.IsItem tags := by
  intro h
  cases fault with
  | notObject other =>
    obtain ⟨members, he⟩ := h.isObject
    exact other members he
  | unexpectedKey known unknown =>
    exact unknown (known_of_isItem h _ (List.mem_append_right _ List.mem_cons_self))
  | missingTag known split fit missing =>
    obtain ⟨value, present⟩ := (h.names _).mpr (split ▸ List.mem_append_right _ List.mem_cons_self)
    simp [missing] at present
  | notString known split fit present other =>
    obtain ⟨s, text⟩ := h.texts _ _ present
    exact other s text

/-- Every item of the right kind stands for a record. -/
theorem exists_shows_iff : (∃ r, Shows tags item r) ↔ item.IsItem tags := by
  constructor
  · rintro ⟨r, h⟩
    exact h.isItem
  · intro h
    rcases shows_or_fault tags item with shows | ⟨error, fault⟩
    · exact shows
    · exact absurd h fault.not_isItem

end Item

end Record

end Traversal
