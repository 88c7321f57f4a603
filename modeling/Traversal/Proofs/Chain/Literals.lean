import Traversal.Proofs.Chain.Decoding

/-! # The literals of a query

The literal of a text argument is whole exactly if the text is well escaped, as escaping does not
count the backslashes before a quote and leaves those at the end of a text. Two text arguments are
written alike exactly if they differ only in backslashes that bare quotes get. Where all texts of a
query are well escaped, the literals in its text are those of its arguments, one for one. -/

namespace Traversal

/-! ## One argument -/

namespace Param

/-- A text argument is written as one literal, closed by its last character and not earlier, exactly
if each quote in it stands after no backslash or an odd number of them and an even number ends it. -/
theorem isLiteral_render_text_iff (s : String) :
    Text.IsLiteral (text s).render ↔ Text.wellEscaped 0 s.toList = true := by
  rw [Text.IsLiteral, render, Text.toList_quoted, Text.readLiteral]
  constructor
  · rintro ⟨inside, h⟩
    rw [Text.escapeQuotes_eq_escapeAfter] at h
    exact Text.wellEscaped_of_closeLiteral h
  · exact fun h => ⟨_, Text.closeLiteral_escapeQuotes h []⟩

/-- A quote after two backslashes is taken as escaped, but closes the literal. -/
theorem not_isLiteral_render_text : ¬ ∀ s : String, Text.IsLiteral (text s).render := by
  intro h
  obtain ⟨inside, hread⟩ := h "\\\\\""
  have early : Text.readLiteral (text "\\\\\"").render.toList = some (['\\', '\\'], ['"']) := by
    decide +kernel
  rw [early] at hread
  cases hread

/-- Escaping writes texts alike exactly if they denote the same. It keeps what a text denotes, leaves
no quote without a backslash before it, and changes nothing when done again. So text arguments are
written alike exactly if one comes from the other by giving bare quotes a backslash and by taking
such backslashes away. -/
theorem render_text_identifies_escaped_quotes :
    (∀ s t, Text.escapeQuotes s = Text.escapeQuotes t ↔
      Text.unescapeQuotes s = Text.unescapeQuotes t) ∧
    (∀ s, Text.escapeQuotes (Text.escapeQuotes s) = Text.escapeQuotes s) ∧
    (∀ s, Text.unescapeQuotes (Text.escapeQuotes s) = Text.unescapeQuotes s) ∧
    (∀ s, Text.QuotesEscaped (Text.escapeQuotes s)) ∧
    (∀ s t, (text s).render = (text t).render ↔
      Relation.EqvGen Text.GainsEscape s.toList t.toList) := by
  refine ⟨fun _ _ => Text.escapeQuotes_eq_iff, Text.escapeQuotes_escapeQuotes,
    Text.unescapeQuotes_escapeQuotes, Text.quotesEscaped_escapeQuotes, ?_⟩
  intro s t
  rw [render, render, Text.quoted_eq_iff, Text.eqvGen_gainsEscape_iff]

/-- A quote has one backslash at most. One more before it belongs to the text. -/
example : (text "\"").render = (text "\\\"").render ∧
    (text "\\\"").render ≠ (text "\\\\\"").render := by
  decide +kernel

end Param

/-! ## The characters of numbers -/

namespace Layout

variable {layout : Layout} {c : Char}

/-- The characters of a floating-point number. -/
def isNumberChar (c : Char) : Bool :=
  c.isDigit || ['.', '-', '+', 'e', 'i', 'n', 'f', 'N', 'a'].contains c

theorem isNumberChar_of_mem_toDigits {n : Nat} (h : c ∈ Nat.toDigits 10 n) :
    isNumberChar c = true := by
  simp [isNumberChar, Nat.isDigit_of_mem_toDigits (by decide) (by decide) h]

theorem isNumberChar_of_mem_zeros {n : Nat} (h : c ∈ zeros n) : isNumberChar c = true := by
  rw [List.eq_of_mem_replicate h]
  rfl

theorem isNumberChar_of_mem_positional {digits : List Char}
    (hd : ∀ d ∈ digits, isNumberChar d = true) {exponent : Int}
    (h : c ∈ positional digits exponent) : isNumberChar c = true := by
  unfold positional at h
  split at h
  · simp only [List.cons_append, List.mem_cons, List.mem_append] at h
    rcases h with rfl | rfl | h | h
    · rfl
    · rfl
    · exact isNumberChar_of_mem_zeros h
    · exact hd c h
  · dsimp only at h
    split at h
    · simp only [List.mem_append, List.mem_cons, List.not_mem_nil, or_false] at h
      rcases h with (h | h) | rfl | rfl
      · exact hd c h
      · exact isNumberChar_of_mem_zeros h
      · rfl
      · rfl
    · simp only [List.mem_append, List.mem_cons] at h
      rcases h with h | rfl | h
      · exact hd c (List.mem_of_mem_take h)
      · rfl
      · exact hd c (List.mem_of_mem_drop h)

theorem isNumberChar_of_mem_scientific {digits : List Char}
    (hd : ∀ d ∈ digits, isNumberChar d = true) {exponent : Int}
    (h : c ∈ layout.scientific digits exponent) : isNumberChar c = true := by
  simp only [scientific, List.mem_append, List.mem_cons] at h
  rcases h with (h | rfl | h) | h
  · split at h
    · exact hd c h
    · rw [List.mem_append, List.mem_cons] at h
      rcases h with h | rfl | h
      · exact hd c (List.mem_of_mem_take h)
      · rfl
      · exact hd c (List.mem_of_mem_drop h)
  · rfl
  · split at h
    · rw [List.mem_singleton.mp h]
      rfl
    · split at h
      · rw [List.mem_singleton.mp h]
        rfl
      · cases h
  · exact isNumberChar_of_mem_toDigits h

theorem isNumberChar_of_mem_size {m p : Nat} (h : c ∈ layout.size m p) :
    isNumberChar c = true := by
  unfold size at h
  split at h
  · have zero : ['0', '.', '0'].all isNumberChar = true := by decide
    exact List.all_eq_true.mp zero c h
  · dsimp only at h
    split at h
    · exact isNumberChar_of_mem_positional (fun _ => isNumberChar_of_mem_toDigits) h
    · exact isNumberChar_of_mem_scientific (fun _ => isNumberChar_of_mem_toDigits) h

theorem isNumberChar_of_mem_write {x : Binary64} (h : c ∈ (layout.write x).toList) :
    isNumberChar c = true := by
  cases x with
  | finite negative m p =>
    rw [write, String.toList_ofList, List.mem_append] at h
    rcases h with h | h
    · split at h
      · rw [List.mem_singleton.mp h]
        rfl
      · cases h
    · exact isNumberChar_of_mem_size h
  | infinite negative =>
    have words : "-inf".toList.all isNumberChar = true ∧ "inf".toList.all isNumberChar = true := by
      decide +kernel
    rw [write] at h
    split at h
    · exact List.all_eq_true.mp words.1 c h
    · exact List.all_eq_true.mp words.2 c h
  | nan =>
    have word : "NaN".toList.all isNumberChar = true := by decide +kernel
    exact List.all_eq_true.mp word c h

theorem not_mem_write {d : Char} (hd : isNumberChar d = false) (x : Binary64) :
    d ∉ (layout.write x).toList := by
  intro h
  rw [isNumberChar_of_mem_write h] at hd
  cases hd

end Layout

/-! ## All arguments -/

namespace Atom

/-- The atom is no text, or one that is well escaped. -/
def Escaped : Atom → Prop
  | text s => Text.wellEscaped 0 s.toList = true
  | _ => True

instance : DecidablePred Escaped
  | .text s => inferInstanceAs (Decidable (Text.wellEscaped 0 s.toList = true))
  | .null | .int _ | .float _ => inferInstanceAs (Decidable True)

/-- What a text or a floating-point number puts between quotes. -/
def literal? : Atom → Option (List Char)
  | null => none
  | text s => some (Text.escapeQuotes s.toList)
  | int _ => none
  | float x => some (Param.layout.write x).toList

end Atom

section Reading

open Text

theorem literalsIn_int (n : Int) (rest : List Char) :
    literalsIn ((toString n).toList ++ rest) = literalsIn rest :=
  literalsIn_append_of_no_quote (fun h => nomatch isIntChar_of_mem_toString h) rest

theorem literalsIn_float (x : Binary64) (rest : List Char) :
    literalsIn ('"' :: ((Param.layout.write x).toList ++ '"' :: rest)) =
      (Param.layout.write x).toList :: literalsIn rest := by
  have clean : wellEscaped 0 (Param.layout.write x).toList = true :=
    wellEscaped_of_no_backslash (Layout.not_mem_write rfl x)
  have same : escapeQuotes (Param.layout.write x).toList = (Param.layout.write x).toList :=
    escapeQuotes_of_no_quote (Layout.not_mem_write rfl x)
  refine literalsIn_quote ?_
  simpa only [same] using closeLiteral_escapeQuotes clean rest

theorem StepKind.quote_not_mem_name (kind : StepKind) : '"' ∉ kind.name.toList := by
  cases kind <;> decide +kernel

/-- Reading over an atom finds its literal, if it has one, and goes on behind it. -/
theorem Atom.literalsIn_written {a : Atom} (h : a.Escaped) (rest : List Char) :
    literalsIn (a.written ++ rest) = a.literal?.toList ++ literalsIn rest := by
  cases a with
  | null => rfl
  | text s => exact literalsIn_quoted h rest
  | int n => exact literalsIn_int n.toInt rest
  | float x => simpa [written, literal?] using literalsIn_float x rest

mutual

theorem Outline.literalsIn_written : ∀ o : Outline, (∀ a ∈ o.atoms, a.Escaped) →
    ∀ rest : List Char, literalsIn (o.written ++ rest) =
      o.atoms.filterMap Atom.literal? ++ literalsIn rest
  | .atom a, h, rest => by
    rw [Outline.written, Atom.literalsIn_written (h a (List.mem_singleton.mpr rfl)), Outline.atoms,
      List.filterMap_cons]
    cases a.literal? <;> rfl
  | .list first more, h, rest => by
    have hp := List.forall_mem_append.mp h
    simp only [Outline.written, List.cons_append, List.append_assoc, List.nil_append]
    rw [literalsIn_cons (by decide), first.literalsIn_written hp.1, literalsIn_more more hp.2,
      literalsIn_cons (by decide), Outline.atoms, List.filterMap_append, List.append_assoc]
  | .query steps, h, rest => by
    rw [Outline.written, graphToken, List.append_assoc,
      literalsIn_append_of_no_quote (by decide +kernel), literalsIn_steps steps h, Outline.atoms]

theorem literalsIn_more : ∀ items : List Outline, (∀ a ∈ atomsOfAll items, a.Escaped) →
    ∀ rest : List Char, literalsIn (writtenMore items ++ rest) =
      (atomsOfAll items).filterMap Atom.literal? ++ literalsIn rest
  | [], _, rest => rfl
  | item :: items, h, rest => by
    have hp := List.forall_mem_append.mp h
    simp only [writtenMore, List.cons_append, List.append_assoc]
    rw [literalsIn_cons (by decide), literalsIn_cons (by decide), item.literalsIn_written hp.1,
      literalsIn_more items hp.2, atomsOfAll, List.filterMap_append, List.append_assoc]

theorem StepOutline.literalsIn_written : ∀ step : StepOutline, (∀ a ∈ step.atoms, a.Escaped) →
    ∀ rest : List Char, literalsIn (step.written ++ rest) =
      step.atoms.filterMap Atom.literal? ++ literalsIn rest
  | .mk kind first more, h, rest => by
    have hp := List.forall_mem_append.mp h
    simp only [StepOutline.written, List.cons_append, List.append_assoc, List.nil_append]
    rw [literalsIn_cons (by decide), literalsIn_append_of_no_quote kind.quote_not_mem_name,
      literalsIn_cons (by decide), first.literalsIn_written hp.1, literalsIn_more more hp.2,
      literalsIn_cons (by decide), StepOutline.atoms, List.filterMap_append, List.append_assoc]

theorem literalsIn_steps : ∀ steps : List StepOutline, (∀ a ∈ atomsOfSteps steps, a.Escaped) →
    ∀ rest : List Char, literalsIn (writtenSteps steps ++ rest) =
      (atomsOfSteps steps).filterMap Atom.literal? ++ literalsIn rest
  | [], _, rest => rfl
  | step :: steps, h, rest => by
    have hp := List.forall_mem_append.mp h
    rw [writtenSteps, List.append_assoc, step.literalsIn_written hp.1, literalsIn_steps steps hp.2,
      atomsOfSteps, List.filterMap_append, List.append_assoc]

end

/-- In the text of a query with well-escaped texts, nothing but its texts and floating-point numbers
stands between quotes, each between its own. -/
theorem Chain.literalsIn_text (c : Chain) (h : ∀ a ∈ c.atoms, a.Escaped) :
    literalsIn c.text.toList = c.atoms.filterMap Atom.literal? := by
  have read := literalsIn_steps c.outline h []
  rw [List.append_nil, literalsIn, List.append_nil] at read
  rw [Chain.toList_text, graphToken, literalsIn_append_of_no_quote (by decide +kernel), read]
  rfl

end Reading

end Traversal
