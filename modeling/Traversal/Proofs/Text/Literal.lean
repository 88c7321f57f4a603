import Mathlib.Data.List.Basic
import Traversal.Text.Quoted

/-! # Reading literals

Whoever reads the query language ends a literal at the first quote that no backslash takes with it.
The literal of a text ends there, and not at another place, exactly if the text is well escaped:
`closeLiteral_escapeQuotes` and `wellEscaped_of_closeLiteral`. -/

namespace Traversal.Text

/-- Reads on inside a literal up to the quote that closes it. A backslash takes the character after
it with it, and `taken` says that one stands just before. Gives what is inside and what follows. -/
def closeLiteral : Bool → List Char → Option (List Char × List Char)
  | _, [] => none
  | true, c :: rest => (closeLiteral false rest).map fun (inside, after) => (c :: inside, after)
  | false, c :: rest =>
    if c = '"' then some ([], rest)
    else (closeLiteral (c == '\\') rest).map fun (inside, after) => (c :: inside, after)

/-- Reads one literal. -/
def readLiteral : List Char → Option (List Char × List Char)
  | '"' :: rest => closeLiteral false rest
  | _ => none

/-- The text is one literal: the quote at its start is closed by its last character and not
earlier. -/
def IsLiteral (text : String) : Prop :=
  ∃ inside, readLiteral text.toList = some (inside, [])

/-- Every quote stands after no backslash or after an odd number of them, and an even number ends
the text. Just before the text stand `run` backslashes. -/
def wellEscaped : Nat → List Char → Bool
  | run, [] => run % 2 == 0
  | run, c :: rest =>
    if c = '"' then (run == 0 || run % 2 == 1) && wellEscaped 0 rest
    else wellEscaped (if c = '\\' then run + 1 else 0) rest

theorem wellEscaped_of_no_backslash {s : List Char} (h : '\\' ∉ s) : wellEscaped 0 s = true := by
  induction s with
  | nil => rfl
  | cons c rest ih =>
    obtain ⟨hc, hrest⟩ := List.ne_and_not_mem_of_not_mem_cons h
    simp [wellEscaped, hc.symm, ih hrest]

/-! ## Escaping by looking back -/

/-- Escapes the quotes that follow no backslash; `slashed` says that one stands just before. -/
def escapeAfter : Bool → List Char → List Char
  | _, [] => []
  | slashed, c :: rest =>
    if c = '"' then
      if slashed then '"' :: escapeAfter false rest else '\\' :: '"' :: escapeAfter false rest
    else c :: escapeAfter (c == '\\') rest

theorem escapeQuotes_cons_quote (rest : List Char) :
    escapeQuotes ('"' :: rest) = '\\' :: '"' :: escapeQuotes rest := by
  simp [escapeQuotes]

theorem escapeQuotes_cons_pair (rest : List Char) :
    escapeQuotes ('\\' :: '"' :: rest) = '\\' :: '"' :: escapeQuotes rest := by
  simp [escapeQuotes]

theorem escapeQuotes_cons_of_ne {c : Char} {rest : List Char} (hc : c ≠ '"')
    (hpair : c = '\\' → rest.head? ≠ some '"') : escapeQuotes (c :: rest) = c :: escapeQuotes rest := by
  rw [escapeQuotes.eq_3]
  · rw [if_neg hc]
  · rintro tail rfl rfl
    exact hpair rfl rfl

/-- The scanner that looks one character ahead and the one that looks one back write the same. -/
theorem escapeAfter_eq (s : List Char) :
    escapeAfter false s = escapeQuotes s ∧ '\\' :: escapeAfter true s = escapeQuotes ('\\' :: s) := by
  induction s with
  | nil => exact ⟨rfl, rfl⟩
  | cons c rest ih =>
    obtain ⟨bare, slashed⟩ := ih
    by_cases hq : c = '"'
    · subst hq
      rw [escapeQuotes_cons_quote, escapeQuotes_cons_pair]
      simp [escapeAfter, bare]
    · have first : escapeAfter false (c :: rest) = escapeQuotes (c :: rest) := by
        by_cases hb : c = '\\'
        · subst hb
          simpa [escapeAfter] using slashed
        · rw [escapeQuotes_cons_of_ne hq fun h => absurd h hb]
          simp [escapeAfter, hq, beq_false_of_ne hb, bare]
      refine ⟨first, ?_⟩
      rw [escapeQuotes_cons_of_ne (by decide) (by simpa using hq), ← first]
      simp [escapeAfter, hq]

theorem escapeQuotes_eq_escapeAfter (s : List Char) : escapeQuotes s = escapeAfter false s :=
  (escapeAfter_eq s).1.symm

/-! ## Where a literal ends

Of the backslashes just before a character the reader has to know whether their number is odd, and
the writer whether there are any. Both are followed together by that number, `run`. -/

section Closing

variable {run : Nat}

theorem closeLiteral_taken (c : Char) (rest : List Char) : closeLiteral true (c :: rest) =
    (closeLiteral false rest).map fun (inside, after) => (c :: inside, after) := by
  rw [closeLiteral]

theorem closeLiteral_quote (rest : List Char) : closeLiteral false ('"' :: rest) = some ([], rest) := by
  simp [closeLiteral]

theorem closeLiteral_of_ne {c : Char} (hc : c ≠ '"') (rest : List Char) :
    closeLiteral false (c :: rest) =
      (closeLiteral (c == '\\') rest).map fun (inside, after) => (c :: inside, after) := by
  rw [closeLiteral, if_neg hc]

/-- Any character but a bare quote is read as part of the literal, and an odd number of backslashes
takes the next one. -/
theorem closeLiteral_run_cons {c : Char} (hc : c ≠ '"') (run : Nat) (rest : List Char) :
    closeLiteral (run % 2 == 1) (c :: rest) =
      (closeLiteral ((if c = '\\' then run + 1 else 0) % 2 == 1) rest).map
        fun (inside, after) => (c :: inside, after) := by
  have hrun := Nat.mod_two_eq_zero_or_one run
  by_cases hb : c = '\\'
  · subst hb
    rcases hrun with even | odd
    · have hnext : (run + 1) % 2 = 1 := by omega
      simp [even, hnext, closeLiteral_of_ne hc]
    · have hnext : (run + 1) % 2 = 0 := by omega
      simp [odd, hnext, closeLiteral_taken]
  · rcases hrun with even | odd
    · simp [even, hb, beq_false_of_ne hb, closeLiteral_of_ne hc]
    · simp [odd, hb, closeLiteral_taken]

/-- The escaped quote of a text is read as part of the literal, unless an even number of backslashes
stands before it. -/
theorem closeLiteral_run_quote (h : run = 0 ∨ run % 2 = 1) (rest after : List Char) :
    closeLiteral (run % 2 == 1) (escapeAfter (run != 0) ('"' :: rest) ++ after) =
      (closeLiteral false (escapeAfter false rest ++ after)).map fun (inside, after) =>
        ((if run = 0 then ['\\', '"'] else ['"']) ++ inside, after) := by
  rcases h with rfl | odd
  · simp [escapeAfter, closeLiteral_of_ne, closeLiteral_taken, Function.comp_def]
  · have hne : run ≠ 0 := by omega
    simp [escapeAfter, odd, hne, closeLiteral_taken]

theorem escapeAfter_run_cons {c : Char} (hc : c ≠ '"') (run : Nat) (rest : List Char) :
    escapeAfter (run != 0) (c :: rest) =
      c :: escapeAfter ((if c = '\\' then run + 1 else 0) != 0) rest := by
  by_cases hb : c = '\\'
  · simp [escapeAfter, hb]
  · simp [escapeAfter, hc, hb, beq_false_of_ne hb]

/-- After `run` backslashes, a well-escaped text is read to its end. -/
theorem closeLiteral_escapeAfter {s : List Char} (h : wellEscaped run s = true)
    (rest : List Char) : closeLiteral (run % 2 == 1) (escapeAfter (run != 0) s ++ '"' :: rest) =
      some (escapeAfter (run != 0) s, rest) := by
  induction s generalizing run with
  | nil =>
    have even : run % 2 = 0 := by simpa [wellEscaped] using h
    simp [escapeAfter, even, closeLiteral_quote]
  | cons c s ih =>
    by_cases hc : c = '"'
    · subst hc
      obtain ⟨hrun, hs⟩ : (run = 0 ∨ run % 2 = 1) ∧ wellEscaped 0 s = true := by
        simpa [wellEscaped] using h
      have inner : closeLiteral false (escapeAfter false s ++ '"' :: rest) = _ := ih hs
      rw [closeLiteral_run_quote hrun, inner]
      by_cases hz : run = 0 <;> simp [escapeAfter, hz]
    · rw [wellEscaped, if_neg hc] at h
      rw [escapeAfter_run_cons hc, List.cons_append, closeLiteral_run_cons hc, ih h]
      rfl

/-- After `run` backslashes, a text that is not well escaped is read beyond its end or not up to
there. -/
theorem wellEscaped_of_closeLiteral {s inside : List Char}
    (h : closeLiteral (run % 2 == 1) (escapeAfter (run != 0) s ++ ['"']) = some (inside, [])) :
    wellEscaped run s = true := by
  induction s generalizing run inside with
  | nil =>
    rcases Nat.mod_two_eq_zero_or_one run with even | odd
    · simp [wellEscaped, even]
    · simp [escapeAfter, odd, closeLiteral] at h
  | cons c s ih =>
    by_cases hc : c = '"'
    · subst hc
      by_cases hrun : run = 0 ∨ run % 2 = 1
      · rw [closeLiteral_run_quote hrun] at h
        obtain ⟨⟨before, after⟩, hread, he⟩ := Option.map_eq_some_iff.mp h
        obtain rfl : after = [] := (Prod.mk.inj he).2
        have hs : wellEscaped 0 s = true := ih hread
        simp [wellEscaped, hs, hrun]
      · -- the quote closes the literal, and the last one is left over
        obtain ⟨hne, even⟩ : run ≠ 0 ∧ run % 2 = 0 := by omega
        simp [escapeAfter, hne, even, closeLiteral_quote] at h
    · rw [escapeAfter_run_cons hc, List.cons_append, closeLiteral_run_cons hc] at h
      obtain ⟨⟨before, after⟩, hread, he⟩ := Option.map_eq_some_iff.mp h
      obtain rfl : after = [] := (Prod.mk.inj he).2
      rw [wellEscaped, if_neg hc]
      exact ih hread

end Closing

/-- The literal of a well-escaped text is closed by the quote after it. -/
theorem closeLiteral_escapeQuotes {s : List Char} (h : wellEscaped 0 s = true) (rest : List Char) :
    closeLiteral false (escapeQuotes s ++ '"' :: rest) = some (escapeQuotes s, rest) := by
  rw [escapeQuotes_eq_escapeAfter]
  exact closeLiteral_escapeAfter h rest

theorem toList_quoted (s : String) : (quoted s).toList = '"' :: (escapeQuotes s.toList ++ ['"']) := by
  simp [quoted]

/-! ## All literals of a text -/

theorem length_closeLiteral_lt {taken : Bool} {text inside after : List Char}
    (h : closeLiteral taken text = some (inside, after)) : after.length < text.length := by
  fun_induction closeLiteral taken text generalizing inside with
  | case1 => cases h
  | case2 c rest ih | case4 c rest hc ih =>
    obtain ⟨⟨before, after'⟩, hread, he⟩ := Option.map_eq_some_iff.mp h
    obtain rfl : after' = after := (Prod.mk.inj he).2
    exact Nat.lt_succ_of_lt (ih hread)
  | case3 rest =>
    obtain rfl : rest = after := (Prod.mk.inj (Option.some.inj h)).2
    exact Nat.lt_succ_self _

/-- What is inside the literals of a text, in their order. A literal that is not closed is none, and
nothing follows it. -/
def literalsIn : List Char → List (List Char)
  | [] => []
  | c :: rest =>
    if c = '"' then
      match _read : closeLiteral false rest with
      | some (inside, after) => inside :: literalsIn after
      | none => []
    else literalsIn rest
termination_by text => text.length
decreasing_by
  · exact Nat.lt_succ_of_lt (length_closeLiteral_lt _read)
  · exact Nat.lt_succ_self _

theorem literalsIn_quote {rest inside after : List Char}
    (h : closeLiteral false rest = some (inside, after)) :
    literalsIn ('"' :: rest) = inside :: literalsIn after := by
  rw [literalsIn, if_pos rfl]
  split
  next inside' after' he =>
    rw [h] at he
    obtain ⟨rfl, rfl⟩ := Prod.mk.inj (Option.some.inj he)
    rfl
  next he => simp [h] at he

theorem literalsIn_cons {c : Char} (hc : c ≠ '"') (rest : List Char) :
    literalsIn (c :: rest) = literalsIn rest := by
  rw [literalsIn, if_neg hc]

theorem literalsIn_append_of_no_quote {text : List Char} (h : '"' ∉ text) (rest : List Char) :
    literalsIn (text ++ rest) = literalsIn rest := by
  induction text with
  | nil => rfl
  | cons c text ih =>
    obtain ⟨hc, htext⟩ := List.ne_and_not_mem_of_not_mem_cons h
    rw [List.cons_append, literalsIn_cons hc.symm, ih htext]

theorem literalsIn_quoted {s : String} (h : wellEscaped 0 s.toList = true) (rest : List Char) :
    literalsIn ((quoted s).toList ++ rest) = escapeQuotes s.toList :: literalsIn rest := by
  rw [toList_quoted, List.cons_append]
  refine literalsIn_quote ?_
  simpa using closeLiteral_escapeQuotes h rest

end Traversal.Text
