import Mathlib.Data.List.DropRight
import Traversal.Text.Blank

/-! # Trimming

A text has one part only with white space before and after it that neither begins nor ends with white
space: what trimming leaves. -/

namespace Traversal.Text

/-- Nothing but white space. -/
def Blank (cs : List Char) : Prop := ∀ c ∈ cs, isBlank c = true

/-- The core is left of the text when the white space at both ends is taken away. -/
structure Trims (raw core : List Char) : Prop where
  parts : ∃ before after, raw = before ++ core ++ after ∧ Blank before ∧ Blank after
  first : ∀ c ∈ core.head?, isBlank c = false
  last : ∀ c ∈ core.getLast?, isBlank c = false

theorem trimChars_eq_rdropWhile (cs : List Char) :
    trimChars cs = (cs.dropWhile isBlank).rdropWhile isBlank := rfl

theorem trims_trimChars (raw : List Char) : Trims raw (trimChars raw) := by
  rw [trimChars_eq_rdropWhile]
  have before := raw.takeWhile_append_dropWhile (p := isBlank)
  have after : (raw.dropWhile isBlank).rdropWhile isBlank ++ (raw.dropWhile isBlank).rtakeWhile isBlank
      = raw.dropWhile isBlank := List.rdropWhile_append_rtakeWhile
  refine ⟨⟨raw.takeWhile isBlank, (raw.dropWhile isBlank).rtakeWhile isBlank, ?_,
    fun _ => List.mem_takeWhile_imp, fun _ => List.mem_rtakeWhile_imp⟩, ?_, ?_⟩
  · rw [List.append_assoc, after, before]
  · intro c begins
    obtain ⟨rest, eq⟩ := List.head?_eq_some_iff.mp begins
    have head : (raw.dropWhile isBlank).head? = some c := by
      rw [← after, eq, List.cons_append, List.head?_cons]
    simpa [head] using List.head?_dropWhile_not isBlank raw
  · intro c ends
    obtain ⟨some, rfl⟩ := List.mem_getLast?_eq_getLast ends
    exact Bool.eq_false_iff.mpr (List.rdropWhile_last_not isBlank _ some)

/-- Nothing is dropped from characters that do not begin with white space. -/
theorem dropWhile_isBlank {cs : List Char} (first : ∀ c ∈ cs.head?, isBlank c = false) :
    cs.dropWhile isBlank = cs := by
  cases cs with
  | nil => rfl
  | cons c rest => exact List.dropWhile_cons_of_neg (by simp [first c rfl])

theorem Trims.trimChars_eq {raw core : List Char} (h : Trims raw core) : trimChars raw = core := by
  obtain ⟨⟨before, after, rfl, blankBefore, blankAfter⟩, first, last⟩ := h
  rw [trimChars, List.append_assoc, List.dropWhile_append_of_pos blankBefore]
  cases core with
  | nil =>
    rw [List.nil_append, List.dropWhile_eq_nil_iff.mpr blankAfter]
    rfl
  | cons c rest =>
    have kept : (c :: rest ++ after).dropWhile isBlank = c :: rest ++ after :=
      dropWhile_isBlank (by simpa using first)
    have keptBack : (c :: rest).reverse.dropWhile isBlank = (c :: rest).reverse :=
      dropWhile_isBlank (by simpa only [List.head?_reverse] using last)
    have blankBack : Blank after.reverse := fun c present =>
      blankAfter c (List.mem_reverse.mp present)
    rw [kept, List.reverse_append, List.dropWhile_append_of_pos blankBack, keptBack,
      List.reverse_reverse]

theorem trimChars_eq_iff {raw core : List Char} : trimChars raw = core ↔ Trims raw core :=
  ⟨fun h => h ▸ trims_trimChars raw, Trims.trimChars_eq⟩

theorem trims_nil_iff {raw : List Char} : Trims raw [] ↔ Blank raw := by
  constructor
  · rintro ⟨⟨before, after, rfl, blankBefore, blankAfter⟩, -, -⟩ c present
    rcases List.mem_append.mp present with inBefore | inAfter
    · exact blankBefore c (by simpa using inBefore)
    · exact blankAfter c inAfter
  · intro blank
    exact ⟨⟨raw, [], by simp, blank, by simp [Blank]⟩, by simp, by simp⟩

end Traversal.Text
