import Traversal.Proofs.Regex.Captures
import Traversal.Rdf
import Traversal.Regex.Reader

/-! # Where the language of a literal begins

The form of a literal matches a line at each quote-at pair behind its first quote, and of these matches
the one with the longest text counts. So the language of a literal begins after the last such pair, and
a value is a literal of one text in one language at most. What is made of a value, and whether a record
passes for a language, depends on nothing else. -/

namespace Traversal.Rdf

/-- The value is a literal of the text in the language: it stands on one line, and no quote-at pair
follows the one after the text. Quotes in the text keep their escapes. -/
structure Decomposes (value text language : String) : Prop where
  parts : value = "\"" ++ text ++ "\"@" ++ language
  oneLine : '\n' ∉ value.toList
  last : ¬ ['"', '@'] <:+: language.toList

/-- What cleaning makes of values: names of addresses, texts of literals in the language. -/
inductive CleansTo (language : String) : String → String → Prop
  | address (name : String) : CleansTo language (addressStart ++ name) name
  | text {value text : String} (other : ∀ name, value ≠ addressStart ++ name)
      (literal : Decomposes value text language) :
      CleansTo language value (String.ofList (Text.unescapeQuotes text.toList))
  | same {value : String} (other : ∀ name, value ≠ addressStart ++ name)
      (foreign : ∀ text, ¬ Decomposes value text language) : CleansTo language value value

/-! ## Matches of the form -/

/-- The form as it is written down. -/
theorem read_literalForm : Regex.Pattern.read "^\"(.*)\"@(.*)$" =
    some (.sequenceOf (literalForm.map Regex.Piece.pattern)) := rfl

/-- The form matches a line at each quote-at pair behind a quote at its start. -/
theorem matches_literalForm {cs : List Char} {captures : List (List Char)} :
    Regex.Matches literalForm none cs captures ↔ ∃ text language, captures = [text, language] ∧
      cs = '"' :: (text ++ '"' :: '@' :: language) ∧ '\n' ∉ cs := by
  have line (run : List Char) : (∀ c ∈ run, lineCharacters.has c = true) ↔ '\n' ∉ run := by
    simp only [lineCharacters, Text.CharSet.has_complement_single]
    exact ⟨fun h mem => h _ mem rfl, fun h c mem he => h (he ▸ mem)⟩
  have atEnd (before : Option Char) (rest : List Char) :
      Regex.Look.holds .textEnd ⟨before, rest.head?⟩ = true ↔ rest = [] := by
    simp [Regex.Look.holds]
  simp only [literalForm, Regex.matches_look, Regex.matches_literal, Regex.matches_captured,
    Regex.matches_nil, line, atEnd]
  constructor
  · rintro ⟨-, _, rfl, text, _, _, rfl, rfl, feed, _, rfl, _, rfl, language, _, _, rfl, rfl, feed',
      rfl, rfl⟩
    exact ⟨text, language, rfl, by simp, by simp [feed, feed']⟩
  · rintro ⟨text, language, rfl, rfl, oneLine⟩
    obtain ⟨feed, feed'⟩ : '\n' ∉ text ∧ '\n' ∉ language := by simpa using oneLine
    exact ⟨rfl, _, rfl, text, _, _, rfl, rfl, feed, _, rfl, _, rfl, language, [], _,
      (List.append_nil language).symm, rfl, feed', rfl, rfl⟩

/-- The matcher's captures are the parts of the value. -/
theorem splitLiteral?_eq_iff_capturesAt {value text language : String} :
    splitLiteral? value = some (text, language) ↔
      Regex.capturesAt literalForm none value.toList = some [text.toList, language.toList] := by
  have anchored : Regex.capturesFrom literalForm none value.toList =
      Regex.capturesAt literalForm none value.toList := Regex.capturesFrom_textStart _ _
  rw [splitLiteral?, Regex.captures?, anchored]
  cases found : Regex.capturesAt literalForm none value.toList with
  | none => simp
  | some captures =>
    obtain ⟨text', language', rfl, -⟩ := matches_literalForm.mp (.of_capturesAt found)
    simp [← String.toList_inj]

/-! ## Literals -/

theorem toList_parts (text language : String) : ("\"" ++ text ++ "\"@" ++ language).toList =
    '"' :: (text.toList ++ '"' :: '@' :: language.toList) := by
  simp

/-- No quoted part at the start of a value that an at sign follows is longer than its text. -/
theorem Decomposes.length_le {value text language : String} {run rest : List Char}
    (h : Decomposes value text language) (parts : value.toList = '"' :: (run ++ '"' :: '@' :: rest)) :
    run.length ≤ text.toList.length := by
  rw [h.parts, toList_parts, List.cons.injEq, List.append_eq_append_iff] at parts
  rcases parts.2 with ⟨between, longer, tail⟩ | ⟨between, shorter, -⟩
  · -- a longer text would take in the pair, and end at a later one
    match between, tail with
    | [], _ => simp [longer]
    | [_], tail => simp at tail
    | _ :: _ :: between, tail =>
      refine absurd ⟨between, rest, ?_⟩ h.last
      simp only [List.cons_append, List.cons.injEq] at tail
      simpa using tail.2.2.symm
  · rw [shorter, List.length_append]
    exact Nat.le_add_right _ _

theorem Decomposes.toList_eq {value text language : String} (h : Decomposes value text language) :
    value.toList = '"' :: (text.toList ++ '"' :: '@' :: language.toList) := by
  rw [← toList_parts, ← h.parts]

/-- The match at the last pair is the one with the longest captures. -/
theorem Decomposes.longest {value text language : String} (h : Decomposes value text language)
    {other : List (List Char)} (matched : Regex.Matches literalForm none value.toList other) :
    Regex.NoLonger other [text.toList, language.toList] := by
  obtain ⟨text', language', rfl, parts, -⟩ := matches_literalForm.mp matched
  rcases Nat.lt_or_eq_of_le (h.length_le parts) with lt | eq
  · exact .shorter lt
  · -- what the text does not take is the language's
    have total := congrArg List.length (h.toList_eq.symm.trans parts)
    simp only [List.length_cons, List.length_append] at total
    exact .alike eq (.alike (by omega) .nothing)

/-- A match with the longest captures leaves no later pair. -/
theorem Decomposes.of_longest {value text language : String}
    (matched : Regex.Matches literalForm none value.toList [text.toList, language.toList])
    (most : ∀ other, Regex.Matches literalForm none value.toList other →
      Regex.NoLonger other [text.toList, language.toList]) :
    Decomposes value text language := by
  obtain ⟨text', language', he, parts, oneLine⟩ := matches_literalForm.mp matched
  obtain ⟨rfl, rfl⟩ : text.toList = text' ∧ language.toList = language' := by simpa using he
  refine ⟨String.toList_inj.mp (parts.trans (toList_parts text language).symm), oneLine, ?_⟩
  rintro ⟨inner, rest, split⟩
  -- at a later pair the form would match with a longer text
  have later : Regex.Matches literalForm none value.toList
      [text.toList ++ '"' :: '@' :: inner, rest] := by
    refine matches_literalForm.mpr ⟨_, _, rfl, ?_, oneLine⟩
    rw [parts, ← split]
    simp
  cases most _ later with
  | shorter lt =>
    rw [List.length_append] at lt
    omega
  | alike eq => simp at eq

theorem splitLiteral?_eq_some_iff {value text language : String} :
    splitLiteral? value = some (text, language) ↔ Decomposes value text language := by
  rw [splitLiteral?_eq_iff_capturesAt, Regex.capturesAt_eq_some_iff]
  constructor
  · rintro ⟨matched, most⟩
    exact .of_longest matched most
  · intro h
    exact ⟨matches_literalForm.mpr ⟨_, _, rfl, h.toList_eq, h.oneLine⟩, fun _ => h.longest⟩

theorem Decomposes.unique {value text language text' language' : String}
    (h : Decomposes value text language) (h' : Decomposes value text' language') :
    text' = text ∧ language' = language := by
  have same := (splitLiteral?_eq_some_iff.mpr h').symm.trans (splitLiteral?_eq_some_iff.mpr h)
  exact Prod.mk.inj (Option.some.inj same)

theorem Decomposes.length_le_of_parts {value text language text' language' : String}
    (h : Decomposes value text language) (parts : value = "\"" ++ text' ++ "\"@" ++ language') :
    text'.length ≤ text.length := by
  have le := h.length_le ((congrArg String.toList parts).trans (toList_parts text' language'))
  rwa [String.length_toList, String.length_toList] at le

/-! ## Cleaning -/

theorem clean_address (language name : String) : clean language (address name) = name := by
  have starts : addressStart.toList.isPrefixOf? (address name).toList = some name.toList :=
    List.isPrefixOf?_eq_some_iff_append_eq.mpr (String.toList_append).symm
  rw [clean, starts]
  exact String.ofList_toList

theorem clean_of_other {language value : String} (other : ∀ name, value ≠ addressStart ++ name) :
    clean language value =
      match splitLiteral? value with
      | some (text, found) =>
        if found = language then String.ofList (Text.unescapeQuotes text.toList) else value
      | none => value := by
  unfold clean
  split
  next name starts =>
    refine absurd (String.toList_inj.mp ?_) (other (String.ofList name))
    rw [← List.isPrefixOf?_eq_some_iff_append_eq.mp starts, String.toList_append, String.toList_ofList]
  next => rfl

theorem CleansTo.clean_eq {language value cleaned : String} (h : CleansTo language value cleaned) :
    clean language value = cleaned := by
  cases h with
  | address => exact clean_address language cleaned
  | text other literal =>
    rw [clean_of_other other, splitLiteral?_eq_some_iff.mpr literal]
    exact if_pos rfl
  | same other foreign =>
    rw [clean_of_other other]
    split
    next text found split =>
      refine if_neg ?_
      rintro rfl
      exact foreign text (splitLiteral?_eq_some_iff.mp split)
    next => rfl

/-- A value is an address, a literal in the language, or neither. -/
theorem exists_cleansTo (language value : String) : ∃ cleaned, CleansTo language value cleaned := by
  by_cases address : ∃ name, value = addressStart ++ name
  · obtain ⟨name, rfl⟩ := address
    exact ⟨name, .address name⟩
  · have other : ∀ name, value ≠ addressStart ++ name := not_exists.mp address
    by_cases literal : ∃ text, Decomposes value text language
    · obtain ⟨text, literal⟩ := literal
      exact ⟨_, .text other literal⟩
    · exact ⟨value, .same other (not_exists.mp literal)⟩

theorem clean_eq_iff {language value cleaned : String} :
    clean language value = cleaned ↔ CleansTo language value cleaned := by
  constructor
  · rintro rfl
    obtain ⟨cleaned, h⟩ := exists_cleansTo language value
    exact h.clean_eq.symm ▸ h
  · exact CleansTo.clean_eq

/-! ## Languages of records -/

/-- The value is no literal in another language. -/
def admits (language value : String) : Bool :=
  match splitLiteral? value with
  | some (_, other) => other == language
  | none => true

theorem matchesLanguage_eq_all (language : String) (r : Record) :
    matchesLanguage language r = r.fields.all fun field => admits language field.2 := rfl

theorem admits_eq_false_iff {language value : String} : admits language value = false ↔
    ∃ text other, Decomposes value text other ∧ other ≠ language := by
  simp only [← splitLiteral?_eq_some_iff]
  unfold admits
  cases splitLiteral? value with
  | none => simp
  | some parts => simp [Prod.ext_iff]

theorem matchesLanguage_eq_false_iff {language : String} {r : Record} :
    matchesLanguage language r = false ↔
      ∃ field ∈ r.fields, ∃ text other, Decomposes field.2 text other ∧ other ≠ language := by
  rw [matchesLanguage_eq_all, List.all_eq_false]
  simp only [Bool.not_eq_true, admits_eq_false_iff]

/-- What the two groups of the pattern capture are the only parts of a value after which no other
quote-at pair comes, and they are those with the longest text. They decide what a value is cleaned to
and which records pass for a language. -/
theorem language_begins_after_last_pair :
    Regex.Pattern.read "^\"(.*)\"@(.*)$" =
      some (.sequenceOf (literalForm.map Regex.Piece.pattern)) ∧
    (∀ value text language,
      splitLiteral? value = some (text, language) ↔ Decomposes value text language) ∧
    (∀ value text language, Decomposes value text language → ∀ text' language',
      (Decomposes value text' language' → text' = text ∧ language' = language) ∧
      (value = "\"" ++ text' ++ "\"@" ++ language' → text'.length ≤ text.length)) ∧
    (∀ language value cleaned, clean language value = cleaned ↔ CleansTo language value cleaned) ∧
    (∀ language r, matchesLanguage language r = false ↔
      ∃ field ∈ r.fields, ∃ text other, Decomposes field.2 text other ∧ other ≠ language) :=
  ⟨read_literalForm,
    fun _ _ _ => splitLiteral?_eq_some_iff,
    fun _ _ _ h _ _ => ⟨h.unique, h.length_le_of_parts⟩,
    fun _ _ _ => clean_eq_iff,
    fun _ _ => matchesLanguage_eq_false_iff⟩

/-- One quote is not enough, and quotes and pairs in the text do not end it. -/
example : splitLiteral? "\"@en" = none ∧
    splitLiteral? "\"\"@fr\"\"@en" = some ("\"@fr\"", "en") := by decide +kernel

end Traversal.Rdf
