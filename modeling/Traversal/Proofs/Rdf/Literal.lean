import Traversal.Proofs.Rdf.Boundary
import Traversal.Proofs.Text.Escaping

/-! # Values there and back

The address of a name is cleaned to the name. The literal of a text is cleaned to the text in its
language and to nothing else in another one, whatever quotes, at signs and backslashes the text has,
but only if it has no line feed: with one, its literal is taken for none, so that it stays as it is and
passes for every language. -/

namespace Traversal.Rdf

/-- A language is named by letters, digits and hyphens. -/
def IsLanguage (code : String) : Prop := ∀ c ∈ code.toList, c.isAlphanum = true ∨ c = '-'

instance (code : String) : Decidable (IsLanguage code) :=
  List.decidableBAll (fun c : Char => c.isAlphanum = true ∨ c = '-') code.toList

theorem IsLanguage.not_mem {code : String} (h : IsLanguage code) {c : Char}
    (other : c.isAlphanum = false ∧ c ≠ '-') : c ∉ code.toList := by
  intro mem
  rcases h c mem with alphanum | hyphen
  · simp [other.1] at alphanum
  · exact other.2 hyphen

/-! ## Escapes -/

theorem mem_escapeEvery {c : Char} (hc : c ≠ '\\') (s : List Char) : c ∈ escapeEvery s ↔ c ∈ s := by
  induction s with
  | nil => rfl
  | cons d rest ih =>
    rw [escapeEvery]
    by_cases hd : d = '"'
    · simp [hd, hc, ih]
    · simp [hd, ih]

theorem length_le_length_escapeEvery (s : List Char) : s.length ≤ (escapeEvery s).length := by
  induction s with
  | nil => exact Nat.le_refl _
  | cons c rest ih =>
    rw [escapeEvery]
    split_ifs
    · simp only [List.length_cons]
      omega
    · exact Nat.succ_le_succ ih

/-! ## The language of a literal -/

theorem toList_literal (text language : String) : (literal text language).toList =
    '"' :: (escapeEvery text.toList ++ '"' :: '@' :: language.toList) := by
  simp [literal]

/-- A literal is longer than its text. -/
theorem literal_ne (text language : String) : literal text language ≠ text := by
  intro he
  have longer := length_le_length_escapeEvery text.toList
  have same := congrArg (fun s : String => s.toList.length) he
  simp only [toList_literal, List.length_cons, List.length_append] at same
  omega

/-- In a literal of a text on one line, the pair before the language is the last one. -/
theorem decomposes_literal {text language : String} (code : IsLanguage language)
    (oneLine : '\n' ∉ text.toList) :
    Decomposes (literal text language) (String.ofList (escapeEvery text.toList)) language where
  parts := rfl
  oneLine := by
    have feed : '\n' ∉ language.toList := code.not_mem (by decide)
    simp [toList_literal, mem_escapeEvery, oneLine, feed]
  last pair := by
    have quote : '"' ∉ language.toList := code.not_mem (by decide)
    exact quote (pair.subset List.mem_cons_self)

/-- The literal of a text without a line feed is split into the escaped text and the language. -/
theorem splitLiteral?_literal (text : String) {language : String} (code : IsLanguage language) :
    splitLiteral? (literal text language) = if '\n' ∈ text.toList then none
      else some (String.ofList (escapeEvery text.toList), language) := by
  split_ifs with feed
  · rw [Option.eq_none_iff_forall_ne_some]
    rintro ⟨text', other⟩ found
    refine (splitLiteral?_eq_some_iff.mp found).oneLine ?_
    simp [toList_literal, mem_escapeEvery, feed]
  · exact splitLiteral?_eq_some_iff.mpr (decomposes_literal code feed)

/-! ## Records -/

theorem matchesLanguage_insert (language tag value : String) (before after : List (String × String)) :
    matchesLanguage language ⟨before ++ (tag, value) :: after⟩ =
      (admits language value && matchesLanguage language ⟨before ++ after⟩) := by
  simp [matchesLanguage_eq_all, Bool.and_left_comm]

/-! ## Literals -/

/-- A literal begins with a quote, and an address does not. -/
theorem literal_ne_address (text language name : String) :
    literal text language ≠ addressStart ++ name := by
  intro he
  have same := congrArg (fun s : String => s.toList.head?) he
  simp [toList_literal, addressStart] at same

section Literals

variable {language : String} (code : IsLanguage language) (text : String)
include code

theorem clean_literal_self : clean language (literal text language) =
    if '\n' ∈ text.toList then literal text language else text := by
  rw [clean_of_other (literal_ne_address text language), splitLiteral?_literal text code]
  split_ifs with feed
  · rfl
  · simp [Text.unescapeQuotes_escapeEvery]

theorem clean_literal_of_ne {other : String} (ne : other ≠ language) :
    clean other (literal text language) = literal text language := by
  rw [clean_of_other (literal_ne_address text language), splitLiteral?_literal text code]
  split_ifs with feed
  · rfl
  · simp [ne.symm]

/-- In its language a literal is cleaned to its text, unless that has a line feed. -/
theorem clean_literal_eq_iff :
    clean language (literal text language) = text ↔ '\n' ∉ text.toList := by
  rw [clean_literal_self code]
  split_ifs with feed
  · simp [feed, literal_ne]
  · simp [feed]

theorem admits_literal (wanted : String) : admits wanted (literal text language) =
    (decide ('\n' ∈ text.toList) || language == wanted) := by
  rw [admits, splitLiteral?_literal text code]
  split_ifs with feed <;> simp [feed]

end Literals

/-- An address is cleaned to its name. A literal is cleaned to its text in its own language exactly if
the text has no line feed, and stays as it is in another one. A record passes for the language of a
literal in it if it passes without it, and for another one never, unless the text has a line feed. -/
theorem clean_undoes_iff (text : String) {language other : String} (code : IsLanguage language)
    (ne : other ≠ language) :
    (clean language (literal text language) = text ↔ '\n' ∉ text.toList) ∧
    clean other (literal text language) = literal text language ∧
    (∀ tag before after, matchesLanguage language ⟨before ++ (tag, literal text language) :: after⟩ =
      matchesLanguage language ⟨before ++ after⟩) ∧
    (∀ tag before after, matchesLanguage other ⟨before ++ (tag, literal text language) :: after⟩ =
      (decide ('\n' ∈ text.toList) && matchesLanguage other ⟨before ++ after⟩)) ∧
    clean language (address text) = text := by
  refine ⟨clean_literal_eq_iff code text, clean_literal_of_ne code text ne, ?_, ?_,
    clean_address language text⟩
  · intro tag before after
    rw [matchesLanguage_insert, admits_literal code, beq_self_eq_true, Bool.or_true, Bool.true_and]
  · intro tag before after
    rw [matchesLanguage_insert, admits_literal code, beq_false_of_ne ne.symm, Bool.or_false]

/-- Quotes, a quote before an at sign, and a backslash at the end. -/
theorem clean_undoes_iff_quoted :
    let text := "\"Wings\"@fr \\\"live\"@\\"
    IsLanguage "en-GB" ∧ "fr" ≠ "en-GB" ∧ '\n' ∉ text.toList ∧
      clean "en-GB" (literal text "en-GB") = text ∧
      clean "fr" (literal text "en-GB") = literal text "en-GB" ∧
      matchesLanguage "en-GB" ⟨[("id", literal text "en-GB")]⟩ = true ∧
      matchesLanguage "fr" ⟨[("id", literal text "en-GB")]⟩ = false ∧
      clean "en-GB" (address text) = text := by
  intro text
  have code : IsLanguage "en-GB" := by decide
  have ne : "fr" ≠ "en-GB" := by decide
  have feed : '\n' ∉ text.toList := by decide
  obtain ⟨own, foreign, passes, stops, name⟩ := clean_undoes_iff text code ne
  refine ⟨code, ne, feed, own.mpr feed, foreign, passes "id" [] [], ?_, name⟩
  rw [← List.nil_append [("id", _)], stops, decide_eq_false feed, Bool.false_and]

/-- The literal of a text with a line feed is not cleaned, and it passes for another language. -/
theorem clean_literal_feed : IsLanguage "en" ∧ IsLanguage "fr" ∧
    clean "en" (literal "a\nb" "en") = "\"a\nb\"@en" ∧
    matchesLanguage "fr" ⟨[("id", literal "a\nb" "en")]⟩ = true := by
  decide +kernel

end Traversal.Rdf
