import Mathlib.Data.List.Basic
import Mathlib.Logic.Relation
import Traversal.Proofs.Text.Literal
import Traversal.Rdf

/-! # Bare and escaped quotes

Escaping takes a quote after a backslash for an escaped one. It is the same as reading the escaped
quotes of a text as quotes and then escaping each quote, so that what a text denotes and how it is
written determine each other: `escapeQuotes_eq_iff`. Two texts are written alike exactly if one comes
from the other by giving bare quotes a backslash and by taking such a backslash away:
`eqvGen_gainsEscape_iff`. -/

namespace Traversal.Text

/-- Every quote stands right after a backslash. -/
def QuotesEscaped (text : List Char) : Prop :=
  ∀ before after, text = before ++ '"' :: after → before.getLast? = some '\\'

/-- A quote that follows no backslash gets one. -/
inductive GainsEscape : List Char → List Char → Prop
  | intro {before : List Char} (bare : before.getLast? ≠ some '\\') (after : List Char) :
      GainsEscape (before ++ '"' :: after) (before ++ '\\' :: '"' :: after)

/-! ## What a text denotes -/

theorem head?_ne_of_no_pair {c : Char} {rest : List Char}
    (h : ∀ tail, c = '\\' → rest = '"' :: tail → False) (slash : c = '\\') :
    rest.head? ≠ some '"' := by
  intro quote
  obtain ⟨tail, pair⟩ := List.head?_eq_some_iff.mp quote
  exact h tail slash pair

theorem unescapeQuotes_cons_of_ne {c : Char} {rest : List Char}
    (hpair : c = '\\' → rest.head? ≠ some '"') :
    unescapeQuotes (c :: rest) = c :: unescapeQuotes rest := by
  rw [unescapeQuotes.eq_3]
  rintro tail rfl rfl
  exact hpair rfl rfl

theorem unescapeQuotes_of_no_backslash {s : List Char} (h : '\\' ∉ s) : unescapeQuotes s = s := by
  induction s with
  | nil => rfl
  | cons c rest ih =>
    obtain ⟨hc, hrest⟩ := List.ne_and_not_mem_of_not_mem_cons h
    rw [unescapeQuotes_cons_of_ne fun h => absurd h.symm hc, ih hrest]

/-- A text is read in two parts if it is not cut between a backslash and its quote. -/
theorem unescapeQuotes_append {before after : List Char}
    (apart : before.getLast? = some '\\' → after.head? ≠ some '"') :
    unescapeQuotes (before ++ after) = unescapeQuotes before ++ unescapeQuotes after := by
  fun_induction unescapeQuotes before with
  | case1 => rfl
  | case2 rest ih =>
    have later : rest.getLast? = some '\\' → after.head? ≠ some '"' := fun slash =>
      apart (List.mem_getLast?_cons (List.mem_getLast?_cons slash))
    simp [unescapeQuotes, ih later]
  | case3 c rest hpair ih =>
    have later : rest.getLast? = some '\\' → after.head? ≠ some '"' := fun slash =>
      apart (List.mem_getLast?_cons slash)
    rw [List.cons_append, unescapeQuotes_cons_of_ne, ih later, List.cons_append]
    intro slash
    cases rest with
    | nil =>
      -- the cut is right behind this backslash
      exact apart (congrArg some slash)
    | cons d tail =>
      have bare : (d :: tail).head? ≠ some '"' := head?_ne_of_no_pair hpair slash
      exact bare

/-! ## Escaping each quote -/

theorem escapeEvery_head_ne (s : List Char) : (Rdf.escapeEvery s).head? ≠ some '"' := by
  cases s with
  | nil => simp [Rdf.escapeEvery]
  | cons c rest => by_cases hc : c = '"' <;> simp [Rdf.escapeEvery, hc]

/-- Every escape that is added is taken away, also where a backslash was before the quote. -/
theorem unescapeQuotes_escapeEvery (s : List Char) : unescapeQuotes (Rdf.escapeEvery s) = s := by
  induction s with
  | nil => rfl
  | cons c rest ih =>
    rw [Rdf.escapeEvery]
    by_cases hc : c = '"'
    · rw [if_pos hc, unescapeQuotes, ih, hc]
    · rw [if_neg hc, unescapeQuotes_cons_of_ne fun _ => escapeEvery_head_ne rest, ih]

theorem escapeEvery_injective : Function.Injective Rdf.escapeEvery :=
  Function.LeftInverse.injective unescapeQuotes_escapeEvery

theorem QuotesEscaped.cons_pair {text : List Char} (h : QuotesEscaped text) :
    QuotesEscaped ('\\' :: '"' :: text) := by
  intro before after he
  match before, he with
  | [], he => simp at he
  | [c], he => exact congrArg some (List.cons.inj he).1.symm
  | _ :: _ :: before, he =>
    have rest : text = before ++ '"' :: after := (List.cons.inj (List.cons.inj he).2).2
    exact List.mem_getLast?_cons (List.mem_getLast?_cons (h before after rest))

theorem QuotesEscaped.cons_of_ne {c : Char} {text : List Char} (hc : c ≠ '"')
    (h : QuotesEscaped text) : QuotesEscaped (c :: text) := by
  intro before after he
  match before, he with
  | [], he => exact absurd (List.cons.inj he).1 hc
  | _ :: before, he =>
    have rest : text = before ++ '"' :: after := (List.cons.inj he).2
    exact List.mem_getLast?_cons (h before after rest)

theorem quotesEscaped_escapeEvery (s : List Char) : QuotesEscaped (Rdf.escapeEvery s) := by
  induction s with
  | nil => simp [QuotesEscaped, Rdf.escapeEvery]
  | cons c rest ih =>
    rw [Rdf.escapeEvery]
    split_ifs with hc
    · exact ih.cons_pair
    · exact ih.cons_of_ne hc

/-! ## Escaping the bare quotes -/

/-- The writer and the reader take the same backslashes for those of a quote, so that what is left
to do is to escape each quote that is read. -/
theorem escapeQuotes_eq_escapeEvery (s : List Char) :
    escapeQuotes s = Rdf.escapeEvery (unescapeQuotes s) := by
  fun_induction escapeQuotes s with
  | case1 => rfl
  | case2 rest ih | case3 rest hpair ih => simp [unescapeQuotes, Rdf.escapeEvery, ih]
  | case4 c rest hpair hc ih =>
    rw [unescapeQuotes_cons_of_ne (head?_ne_of_no_pair hpair), Rdf.escapeEvery, if_neg hc, ih]

/-- A literal denotes what its text denotes. -/
theorem unescapeQuotes_escapeQuotes (s : List Char) :
    unescapeQuotes (escapeQuotes s) = unescapeQuotes s := by
  rw [escapeQuotes_eq_escapeEvery, unescapeQuotes_escapeEvery]

/-- Texts are written alike if they denote the same, and only then. -/
theorem escapeQuotes_eq_iff {s t : List Char} :
    escapeQuotes s = escapeQuotes t ↔ unescapeQuotes s = unescapeQuotes t := by
  rw [escapeQuotes_eq_escapeEvery, escapeQuotes_eq_escapeEvery, escapeEvery_injective.eq_iff]

theorem escapeQuotes_escapeQuotes (s : List Char) :
    escapeQuotes (escapeQuotes s) = escapeQuotes s :=
  escapeQuotes_eq_iff.mpr (unescapeQuotes_escapeQuotes s)

theorem quotesEscaped_escapeQuotes (s : List Char) : QuotesEscaped (escapeQuotes s) := by
  rw [escapeQuotes_eq_escapeEvery]
  exact quotesEscaped_escapeEvery (unescapeQuotes s)

theorem escapeQuotes_of_no_quote {s : List Char} (h : '"' ∉ s) : escapeQuotes s = s := by
  induction s with
  | nil => rfl
  | cons c rest ih =>
    obtain ⟨hc, hrest⟩ := List.ne_and_not_mem_of_not_mem_cons h
    have hhead : rest.head? ≠ some '"' := fun he => hrest (List.mem_of_head? he)
    rw [escapeQuotes_cons_of_ne hc.symm fun _ => hhead, ih hrest]

theorem quoted_eq_iff {s t : String} :
    quoted s = quoted t ↔ unescapeQuotes s.toList = unescapeQuotes t.toList := by
  rw [← String.toList_inj, toList_quoted, toList_quoted, ← escapeQuotes_eq_iff]
  simp

/-! ## Which texts are written alike -/

/-- The backslash that a bare quote gets is read as a part of it. -/
theorem GainsEscape.unescapeQuotes_eq {s t : List Char} (h : GainsEscape s t) :
    unescapeQuotes s = unescapeQuotes t := by
  obtain ⟨bare, after⟩ := h
  rw [unescapeQuotes_append fun slash => absurd slash bare,
    unescapeQuotes_append fun slash => absurd slash bare]
  simp [unescapeQuotes]

/-- Escaping gives one bare quote after the other its backslash. What is before the rest of the text
is kept along, as it decides whether a quote at the start of the rest is bare. -/
theorem eqvGen_escapeQuotes (before s : List Char)
    (apart : before.getLast? = some '\\' → s.head? ≠ some '"') :
    Relation.EqvGen GainsEscape (before ++ s) (before ++ escapeQuotes s) := by
  fun_induction escapeQuotes s generalizing before with
  | case1 => exact .refl _
  | case2 rest ih => simpa using ih (before ++ ['\\', '"']) (by simp)
  | case3 rest hpair ih =>
    have bare : before.getLast? ≠ some '\\' := fun slash => apart slash rfl
    have first := Relation.EqvGen.rel _ _ (GainsEscape.intro bare rest)
    exact first.trans _ _ _ (by simpa using ih (before ++ ['\\', '"']) (by simp))
  | case4 c rest hpair hc ih =>
    have next : c = '\\' → rest.head? ≠ some '"' := head?_ne_of_no_pair hpair
    simpa using ih (before ++ [c]) (by simpa using next)

/-- Texts denote the same exactly if one comes from the other by giving bare quotes a backslash and
by taking such backslashes away. -/
theorem eqvGen_gainsEscape_iff {s t : List Char} :
    Relation.EqvGen GainsEscape s t ↔ unescapeQuotes s = unescapeQuotes t := by
  constructor
  · intro h
    induction h with
    | rel s t gains => exact gains.unescapeQuotes_eq
    | refl s => rfl
    | symm s t _ ih => exact ih.symm
    | trans s t u _ _ first second => exact first.trans second
  · intro h
    have left : Relation.EqvGen GainsEscape s (escapeQuotes s) := eqvGen_escapeQuotes [] s nofun
    have right : Relation.EqvGen GainsEscape t (escapeQuotes t) := eqvGen_escapeQuotes [] t nofun
    rw [escapeQuotes_eq_iff.mpr h] at left
    exact left.trans _ _ _ (right.symm _ _)

end Traversal.Text
