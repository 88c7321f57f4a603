import Traversal.Proofs.Reply.Items

/-! # What a response means

A response gives records exactly if its status is that of success and its body is an object whose
result is null or a list of items that all stand for records. Every other response is an error. A
status other than success counts before the body, the body before the result, the result before its
items, and an earlier item before a later one. -/

namespace Traversal

open Record (Shows Fault)

/-! ## One item after the other -/

section Records

variable {tags : List String} {items : List Json}

theorem recordsOfJson_cons_of_shows {item : Json} {r : Record} (h : Shows tags item r) (index : Nat)
    (rest : List Json) : recordsOfJson tags index (item :: rest) =
      (recordsOfJson tags (index + 1) rest).map (r :: ·) := by
  rw [recordsOfJson, Record.ofJson_of_shows h]
  simp only
  cases recordsOfJson tags (index + 1) rest <;> rfl

theorem recordsOfJson_of_shown {records : List Record}
    (h : List.Forall₂ (Shows tags) items records) (index : Nat) :
    recordsOfJson tags index items = .ok records := by
  induction h generalizing index with
  | nil => rfl
  | cons shows _ ih =>
    rw [recordsOfJson_cons_of_shows shows, ih]
    rfl

/-- The error is that of the first item with a fault. -/
theorem recordsOfJson_of_fault {before : List Json} {item : Json} {cause : RecordError}
    (fit : ∀ earlier ∈ before, earlier.IsItem tags) (fault : Fault tags item cause) (index : Nat)
    (after : List Json) : recordsOfJson tags index (before ++ item :: after) =
      .error (.malformedRecord (index + before.length) tags cause) := by
  induction before generalizing index with
  | nil =>
    rw [List.nil_append, recordsOfJson, Record.ofJson_of_fault fault]
    rfl
  | cons first rest ih =>
    obtain ⟨isItem, fit⟩ := List.forall_mem_cons.mp fit
    obtain ⟨r, shows⟩ := Record.exists_shows_iff.mpr isItem
    rw [List.cons_append, recordsOfJson_cons_of_shows shows, ih fit, List.length_cons, Nat.add_assoc,
      Nat.add_comm 1]
    rfl

/-- All items stand for records, or there is a first one with a fault. -/
theorem shown_or_fault (tags : List String) (items : List Json) :
    (∃ records, List.Forall₂ (Shows tags) items records) ∨
      ∃ before item after cause, items = before ++ item :: after ∧
        (∀ earlier ∈ before, earlier.IsItem tags) ∧ Fault tags item cause := by
  induction items with
  | nil => exact .inl ⟨[], .nil⟩
  | cons item rest ih =>
    rcases Record.shows_or_fault tags item with ⟨r, shows⟩ | ⟨cause, fault⟩
    · rcases ih with ⟨records, shown⟩ | ⟨before, wrong, after, cause, rfl, fit, fault⟩
      · exact .inl ⟨r :: records, .cons shows shown⟩
      · exact .inr ⟨item :: before, wrong, after, cause, rfl,
          List.forall_mem_cons.mpr ⟨shows.isItem, fit⟩, fault⟩
    · exact .inr ⟨[], item, rest, cause, rfl, nofun, fault⟩

theorem kinds_of_shown {records : List Record} (h : List.Forall₂ (Shows tags) items records) :
    (∀ item ∈ items, item.IsItem tags) ∧ ∀ r ∈ records, r.tags = tags := by
  induction h with
  | nil => exact ⟨nofun, nofun⟩
  | cons shows _ ih =>
    exact ⟨List.forall_mem_cons.mpr ⟨shows.isItem, ih.1⟩,
      List.forall_mem_cons.mpr ⟨shows.tags_eq, ih.2⟩⟩

end Records

namespace Response

/-- All that makes a response one that gives records. -/
def IsWellFormed (tags : List String) (response : Response) : Prop :=
  response.status = 200 ∧ ∃ body, Json.read response.body = some body ∧
    (body.member? "result" = some .null ∨
      ∃ items, body.member? "result" = some (.array items) ∧ ∀ item ∈ items, item.IsItem tags)

/-- The set that a response gives. There is one record for each item, in their order. -/
inductive Gives (tags : List String) (response : Response) : ResultSet → Prop
  | null {body : Json} (success : response.status = 200)
      (read : Json.read response.body = some body) (result : body.member? "result" = some .null) :
      Gives tags response ⟨[], false⟩
  | items {body : Json} {items : List Json} {records : List Record}
      (success : response.status = 200) (read : Json.read response.body = some body)
      (result : body.member? "result" = some (.array items))
      (shown : List.Forall₂ (Shows tags) items records) : Gives tags response ⟨records, false⟩

/-- The error that a response gives. -/
inductive Fails (tags : List String) (response : Response) : QueryError → Prop
  | status {body error : Json} (failed : response.status ≠ 200)
      (read : Json.read response.body = some body) (said : body.member? "error" = some error) :
      Fails tags response (.transport ⟨some response.status, some error.plainText⟩)
  | silentStatus (failed : response.status ≠ 200)
      (silent : ∀ body, Json.read response.body = some body → body.member? "error" = none) :
      Fails tags response (.transport ⟨some response.status, none⟩)
  | notJson (success : response.status = 200) (unread : Json.read response.body = none) :
      Fails tags response (.protocol .notJson)
  | missingResult {body : Json} (success : response.status = 200)
      (read : Json.read response.body = some body) (missing : body.member? "result" = none) :
      Fails tags response (.protocol (.missingResult 200 (errorText body)))
  | resultNotArray {body result : Json} (success : response.status = 200)
      (read : Json.read response.body = some body) (present : body.member? "result" = some result)
      (notNull : result ≠ .null) (notArray : ∀ items, result ≠ .array items) :
      Fails tags response (.protocol (.resultNotArray result.write))
  | malformedRecord {body item : Json} {before after : List Json} {cause : RecordError}
      (success : response.status = 200) (read : Json.read response.body = some body)
      (present : body.member? "result" = some (.array (before ++ item :: after)))
      (fit : ∀ earlier ∈ before, earlier.IsItem tags) (wrong : ¬ item.IsItem tags)
      (fault : Fault tags item cause) :
      Fails tags response (.protocol (.malformedRecord before.length tags cause))

/-! ## The whole response -/

section Whole

variable {tags : List String} {response : Response} {set : ResultSet} {error : QueryError}

theorem interpret_of_gives (h : Gives tags response set) : response.interpret tags = .ok set := by
  cases h with
  | null success read result =>
    simp only [interpret, if_pos success, read, resultOf, result]
    rfl
  | items success read result shown =>
    simp only [interpret, if_pos success, read, resultOf, result, recordsOfJson_of_shown shown]
    rfl

theorem interpret_of_fails (h : Fails tags response error) :
    response.interpret tags = .error error := by
  cases h with
  | status failed read said =>
    simp only [interpret, if_neg failed, read, Option.bind_some, errorText, said]
    rfl
  | silentStatus failed silent =>
    have nothing : (Json.read response.body).bind errorText = none := by
      rw [Option.bind_eq_none_iff]
      intro body read
      rw [errorText, silent body read, Option.map_none]
    rw [interpret, if_neg failed, nothing]
    rfl
  | notJson success unread => simp only [interpret, if_pos success, unread]
  | missingResult success read missing =>
    simp only [interpret, success, if_true, read, resultOf, missing]
  | resultNotArray success read present notNull notArray =>
    simp only [interpret, if_pos success, read, resultOf, present]
  | malformedRecord success read present fit wrong fault =>
    simp only [interpret, if_pos success, read, resultOf, present, recordsOfJson_of_fault fit fault,
      Nat.zero_add]

/-- Every response gives a set or an error. -/
theorem gives_or_fails (tags : List String) (response : Response) :
    (∃ set, Gives tags response set) ∨ ∃ error, Fails tags response error := by
  cases read : Json.read response.body with
  | none =>
    by_cases success : response.status = 200
    · exact .inr ⟨_, .notJson success read⟩
    · exact .inr ⟨_, .silentStatus success (by simp [read])⟩
  | some body =>
    by_cases success : response.status = 200
    · cases present : body.member? "result" with
      | none => exact .inr ⟨_, .missingResult success read present⟩
      | some result =>
        cases result with
        | null => exact .inl ⟨_, .null success read present⟩
        | array items =>
          rcases shown_or_fault tags items with
            ⟨records, shown⟩ | ⟨before, item, after, cause, rfl, fit, fault⟩
          · exact .inl ⟨_, .items success read present shown⟩
          · exact .inr ⟨_, .malformedRecord success read present fit fault.not_isItem fault⟩
        | _ => exact .inr ⟨_, .resultNotArray success read present nofun nofun⟩
    · cases said : body.member? "error" with
      | none => exact .inr ⟨_, .silentStatus success (by simp [read, said])⟩
      | some error => exact .inr ⟨_, .status success read said⟩

theorem interpret_eq_ok_iff : response.interpret tags = .ok set ↔ Gives tags response set := by
  constructor
  · intro h
    rcases gives_or_fails tags response with ⟨other, gives⟩ | ⟨error, fails⟩
    · rw [interpret_of_gives gives] at h
      exact Except.ok.inj h ▸ gives
    · simp [interpret_of_fails fails] at h
  · exact interpret_of_gives

theorem interpret_eq_error_iff : response.interpret tags = .error error ↔
    Fails tags response error := by
  constructor
  · intro h
    rcases gives_or_fails tags response with ⟨set, gives⟩ | ⟨other, fails⟩
    · simp [interpret_of_gives gives] at h
    · rw [interpret_of_fails fails] at h
      exact Except.error.inj h ▸ fails
  · exact interpret_of_fails

/-- What a response gives is a plain set of records with the tags that are asked for. -/
theorem records_of_interpret (h : response.interpret tags = .ok set) :
    ∃ records, set = .ofRecords records ∧ ∀ r ∈ records, r.tags = tags := by
  cases interpret_eq_ok_iff.mp h with
  | null => exact ⟨[], rfl, nofun⟩
  | items _ _ _ shown => exact ⟨_, rfl, (kinds_of_shown shown).2⟩

/-- A response gives a set if it is well formed, and only then. -/
theorem exists_gives_iff : (∃ set, Gives tags response set) ↔ response.IsWellFormed tags := by
  constructor
  · rintro ⟨_, gives⟩
    cases gives with
    | null success read result => exact ⟨success, _, read, .inl result⟩
    | items success read result shown =>
      exact ⟨success, _, read, .inr ⟨_, result, (kinds_of_shown shown).1⟩⟩
  · rintro ⟨success, body, read, null | ⟨items, array, isItem⟩⟩
    · exact ⟨_, .null success read null⟩
    · rcases shown_or_fault tags items with
        ⟨records, shown⟩ | ⟨before, item, after, cause, rfl, fit, fault⟩
      · exact ⟨_, .items success read array shown⟩
      · exact absurd (isItem item (List.mem_append_right _ List.mem_cons_self)) fault.not_isItem

/-- Which responses give a set and which set that is, and the error of every other response. -/
theorem interpret_iff (tags : List String) (response : Response) :
    ((∃ set, response.interpret tags = .ok set) ↔ response.IsWellFormed tags) ∧
    (∀ set, response.interpret tags = .ok set ↔ Gives tags response set) ∧
    ∀ error, response.interpret tags = .error error ↔ Fails tags response error := by
  refine ⟨?_, fun set => interpret_eq_ok_iff, fun error => interpret_eq_error_iff⟩
  simp only [interpret_eq_ok_iff, exists_gives_iff]

end Whole

end Response

end Traversal
