import Mathlib.Data.List.Induction
import Traversal.Number.Word

/-! # Reading whole numbers

A number below the limit is read exactly from its digits, with leading zeros or without and after a
plus sign or not. Anything else is refused at the first character with which no such number goes on. -/

namespace Traversal

/-- Nothing but digits. -/
def AllDigits (cs : List Char) : Prop := ∀ c ∈ cs, c.isDigit = true

/-- The characters after a plus sign, or all of them where there is none. -/
inductive Unsigned : List Char → List Char → Prop
  | plus (digits : List Char) : Unsigned ('+' :: digits) digits
  | bare {digits : List Char} (unsigned : digits.head? ≠ some '+') : Unsigned digits digits

/-- The characters spell the number: its digits, with or without a plus sign. -/
inductive Spells (cs : List Char) : Nat → Prop
  | mk {digits : List Char} (unsigned : Unsigned cs digits) (some : digits ≠ [])
      (all : AllDigits digits) : Spells cs (Nat.ofDigitChars 10 digits 0)

/-- Digits after the digits of `start` make numbers below the limit up to one character. -/
inductive Stuck (limit start : Nat) : List Char → NumeralError → Prop
  | invalidDigit {digits : List Char} {c : Char} (rest : List Char) (all : AllDigits digits)
      (small : Nat.ofDigitChars 10 digits start < limit) (other : c.isDigit = false) :
      Stuck limit start (digits ++ c :: rest) .invalidDigit
  | tooLarge {digits : List Char} {c : Char} (rest : List Char) (all : AllDigits digits)
      (small : Nat.ofDigitChars 10 digits start < limit) (digit : c.isDigit = true)
      (large : limit ≤ Nat.ofDigitChars 10 (digits ++ [c]) start) :
      Stuck limit start (digits ++ c :: rest) .tooLarge

/-- What is wrong with characters that spell no number below the limit. -/
inductive Misspells (limit : Nat) : List Char → NumeralError → Prop
  | empty : Misspells limit [] .empty
  | sign : Misspells limit ['+'] .invalidDigit
  | stuck {cs digits : List Char} {cause : NumeralError} (unsigned : Unsigned cs digits)
      (stopped : Stuck limit 0 digits cause) : Misspells limit cs cause

/-! ## Appending digits -/

theorem le_ofDigitChars (start : Nat) (cs : List Char) : start ≤ Nat.ofDigitChars 10 cs start := by
  rw [Nat.ofDigitChars_eq_ofDigitChars_zero]
  exact Nat.le_trans (Nat.le_mul_of_pos_left start (Nat.pow_pos (by decide))) (Nat.le_add_right ..)

/-- Digits that make a number below the limit are appended, whatever follows them. -/
theorem appendDigits_append {limit start : Nat} {digits : List Char} (all : AllDigits digits)
    (small : Nat.ofDigitChars 10 digits start < limit) (rest : List Char) :
    appendDigits limit start (digits ++ rest) =
      appendDigits limit (Nat.ofDigitChars 10 digits start) rest := by
  induction digits generalizing start with
  | nil => rfl
  | cons c digits ih =>
    obtain ⟨digit, others⟩ := List.forall_mem_cons.mp all
    rw [Nat.ofDigitChars_cons] at small ⊢
    have next : 10 * start + (c.toNat - '0'.toNat) < limit :=
      Nat.lt_of_le_of_lt (le_ofDigitChars _ digits) small
    rw [List.cons_append, appendDigits, if_pos digit]
    simp only [if_pos next]
    exact ih others small

/-- Appending either takes all characters or gets stuck. -/
theorem allDigits_or_stuck {limit start : Nat} (small : start < limit) (cs : List Char) :
    (AllDigits cs ∧ Nat.ofDigitChars 10 cs start < limit) ∨ ∃ cause, Stuck limit start cs cause := by
  induction cs using List.reverseRecOn with
  | nil => exact .inl ⟨by simp [AllDigits], small⟩
  | append_singleton cs c ih =>
    rcases ih with ⟨all, below⟩ | ⟨cause, stuck⟩
    · by_cases digit : c.isDigit = true
      · by_cases next : Nat.ofDigitChars 10 (cs ++ [c]) start < limit
        · exact .inl ⟨List.forall_mem_append.mpr ⟨all, by simpa using digit⟩, next⟩
        · exact .inr ⟨_, .tooLarge [] all below digit (Nat.le_of_not_lt next)⟩
      · exact .inr ⟨_, .invalidDigit [] all below (Bool.eq_false_iff.mpr digit)⟩
    · cases stuck with
      | invalidDigit rest all below other =>
        rw [List.append_assoc]
        exact .inr ⟨_, .invalidDigit (rest ++ [c]) all below other⟩
      | tooLarge rest all below digit large =>
        rw [List.append_assoc]
        exact .inr ⟨_, .tooLarge (rest ++ [c]) all below digit large⟩

theorem Stuck.ne_nil {limit start : Nat} {cs : List Char} {cause : NumeralError}
    (h : Stuck limit start cs cause) : cs ≠ [] := by
  cases h <;> simp

theorem Stuck.appendDigits_eq {limit start : Nat} {cs : List Char} {cause : NumeralError}
    (h : Stuck limit start cs cause) : appendDigits limit start cs = .error cause := by
  cases h with
  | invalidDigit rest all small other =>
    rw [appendDigits_append all small, appendDigits, other]
    rfl
  | tooLarge rest all small digit large =>
    rw [Nat.ofDigitChars_append, Nat.ofDigitChars_cons, Nat.ofDigitChars_nil] at large
    rw [appendDigits_append all small, appendDigits, if_pos digit]
    simp only [if_neg (Nat.not_lt_of_le large)]

theorem appendDigits_eq_ok {limit start : Nat} {cs : List Char} (all : AllDigits cs)
    (small : Nat.ofDigitChars 10 cs start < limit) :
    appendDigits limit start cs = .ok (Nat.ofDigitChars 10 cs start) := by
  simpa [appendDigits] using appendDigits_append all small []

/-! ## Reading a number -/

theorem Unsigned.readWord_eq {limit : Nat} {cs digits : List Char} (h : Unsigned cs digits)
    (some : digits ≠ []) : readWord limit cs = appendDigits limit 0 digits := by
  obtain ⟨c, rest, rfl⟩ := List.exists_cons_of_ne_nil some
  cases h with
  | plus => rfl
  | bare unsigned =>
    have other : c ≠ '+' := fun plus => unsigned (by rw [plus, List.head?_cons])
    simp [readWord, other]

theorem unsigned_cases (cs : List Char) :
    cs = [] ∨ cs = ['+'] ∨ ∃ digits, Unsigned cs digits ∧ digits ≠ [] := by
  cases cs with
  | nil => exact .inl rfl
  | cons c rest =>
    by_cases plus : c = '+'
    · subst plus
      by_cases none : rest = []
      · exact .inr (.inl (by rw [none]))
      · exact .inr (.inr ⟨rest, .plus rest, none⟩)
    · exact .inr (.inr ⟨c :: rest, .bare (by simpa using plus), by simp⟩)

theorem Spells.readWord_eq {limit n : Nat} {cs : List Char} (h : Spells cs n) (small : n < limit) :
    readWord limit cs = .ok n := by
  obtain ⟨unsigned, some, all⟩ := h
  rw [unsigned.readWord_eq some, appendDigits_eq_ok all small]

theorem Misspells.readWord_eq {limit : Nat} {cs : List Char} {cause : NumeralError}
    (h : Misspells limit cs cause) : readWord limit cs = .error cause := by
  cases h with
  | empty => rfl
  | sign => rfl
  | stuck unsigned stopped =>
    rw [unsigned.readWord_eq stopped.ne_nil, stopped.appendDigits_eq]

theorem spells_or_misspells {limit : Nat} (positive : 0 < limit) (cs : List Char) :
    (∃ n, Spells cs n ∧ n < limit) ∨ ∃ cause, Misspells limit cs cause := by
  rcases unsigned_cases cs with rfl | rfl | ⟨digits, unsigned, some⟩
  · exact .inr ⟨_, .empty⟩
  · exact .inr ⟨_, .sign⟩
  · rcases allDigits_or_stuck positive digits with ⟨all, small⟩ | ⟨cause, stuck⟩
    · exact .inl ⟨_, ⟨unsigned, some, all⟩, small⟩
    · exact .inr ⟨cause, .stuck unsigned stuck⟩

theorem readWord_eq_ok_iff {limit n : Nat} (positive : 0 < limit) {cs : List Char} :
    readWord limit cs = .ok n ↔ Spells cs n ∧ n < limit := by
  refine ⟨fun h => ?_, fun h => h.1.readWord_eq h.2⟩
  rcases spells_or_misspells positive cs with ⟨m, spells, small⟩ | ⟨cause, wrong⟩
  · obtain rfl : m = n := Except.ok.inj ((spells.readWord_eq small).symm.trans h)
    exact ⟨spells, small⟩
  · cases wrong.readWord_eq.symm.trans h

theorem readWord_eq_error_iff {limit : Nat} (positive : 0 < limit) {cs : List Char}
    {cause : NumeralError} : readWord limit cs = .error cause ↔ Misspells limit cs cause := by
  refine ⟨fun h => ?_, Misspells.readWord_eq⟩
  rcases spells_or_misspells positive cs with ⟨m, spells, small⟩ | ⟨other, wrong⟩
  · cases (spells.readWord_eq small).symm.trans h
  · obtain rfl : other = cause := Except.error.inj (wrong.readWord_eq.symm.trans h)
    exact wrong

end Traversal
