import Mathlib.Data.List.Basic
import Std.Data.String.ToInt
import Traversal.Json.Numeral

/-! # Integers as they are written

An integer of 64 bits, with a sign or without, has its own value as a number of JSON. The one exception
is minus zero, which is a floating-point number like all other integers. -/

namespace Traversal.Json

/-- A zero alone, or digits that do not start with one. -/
structure IsWhole (digits : List Char) : Prop where
  ne_nil : digits ≠ []
  isDigit : ∀ d ∈ digits, d.isDigit = true
  first : digits.head? = some '0' → digits = ['0']

theorem isWhole_toDigits (n : Nat) : IsWhole (Nat.toDigits 10 n) where
  ne_nil := Nat.toDigits_ne_nil
  isDigit _ hd := Nat.isDigit_of_mem_toDigits (by decide) (by decide) hd
  first := by
    induction n using Nat.strongRecOn with
    | ind n ih =>
      rcases Nat.lt_or_ge n 10 with small | large
      · rw [Nat.toDigits_of_lt_base small]
        intro h
        rw [Option.some.inj h]
      · -- the first digit is that of the tenth part, which is not zero
        rw [Nat.toDigits_of_base_le (by decide) large,
          List.head?_append_of_ne_nil _ Nat.toDigits_ne_nil]
        intro h
        have zero := ih (n / 10) (by omega) h
        have value := congrArg (fun digits => Nat.ofDigitChars 10 digits 0) zero
        rw [Nat.ofDigitChars_ten_toDigits] at value
        have : n / 10 = 0 := value
        omega

/-- An integer as it is written: with a minus or without a sign, and with no fraction and no
exponent. -/
structure IntegerLiteral where
  negative : Bool
  digits : List Char
  isWhole : IsWhole digits

namespace IntegerLiteral

variable (literal : IntegerLiteral)

def chars : List Char := (if literal.negative then ['-'] else []) ++ literal.digits

/-- The integer itself. -/
def value : Int := if literal.negative then -ofDigits literal.digits else ofDigits literal.digits

/-- The integer is written as zero with a minus. -/
def IsMinusZero : Prop := literal.negative = true ∧ literal.value = 0

instance : Decidable literal.IsMinusZero :=
  inferInstanceAs (Decidable (literal.negative = true ∧ literal.value = 0))

/-- The integer is one of 64 bits with a sign, and not written as minus zero. -/
def Fits : Prop :=
  Int64.minValue.toInt ≤ literal.value ∧ literal.value ≤ Int64.maxValue.toInt ∧
    ¬ literal.IsMinusZero

instance : Decidable literal.Fits :=
  inferInstanceAs (Decidable
    (Int64.minValue.toInt ≤ literal.value ∧ literal.value ≤ Int64.maxValue.toInt ∧
      ¬ literal.IsMinusZero))

def numeral : Numeral := ⟨literal.negative, literal.digits, none, none⟩

theorem exists_first :
    ∃ c tail, literal.chars = c :: tail ∧ (c.isDigit = true ∨ c = '-') := by
  obtain ⟨negative, digits, whole⟩ := literal
  cases negative with
  | true => exact ⟨'-', digits, rfl, .inr rfl⟩
  | false =>
    obtain ⟨d, ds, rfl⟩ := List.exists_cons_of_ne_nil whole.ne_nil
    exact ⟨d, ds, rfl, .inl (whole.isDigit d List.mem_cons_self)⟩

/-- An integer of 64 bits, with a sign or without, is read as itself, but for minus zero. -/
theorem value?_eq : literal.numeral.value? =
    if Int64.minValue.toInt ≤ literal.value ∧ literal.value < UInt64.size ∧
        ¬ literal.IsMinusZero then
      some (.int literal.value)
    else literal.numeral.double?.map .double := by
  obtain ⟨negative, digits, whole⟩ := literal
  have unsigned : UInt64.size = 2 ^ 64 := rfl
  have signed : Nat.pow 2 63 = 2 ^ 63 := rfl
  simp only [Numeral.value?, numeral, value, IsMinusZero, unsigned, signed, Int64.toInt_minValue,
    true_and]
  generalize Numeral.double? ⟨negative, digits, none, none⟩ = other
  generalize ofDigits digits = size
  cases negative with
  | false =>
    by_cases small : size < 2 ^ 64
    · have bounds : -(2 ^ 63 : Int) ≤ size ∧ (size : Int) < 2 ^ 64 := by omega
      rw [if_pos ⟨rfl, small⟩, if_pos ⟨bounds.1, bounds.2, by simp⟩]
      rfl
    · have large : ¬ (size : Int) < 2 ^ 64 := by omega
      rw [if_neg (fun h => small h.2), if_neg (by simp), if_neg (fun h => large h.2.1)]
  | true =>
    by_cases inside : 0 < size ∧ size ≤ 2 ^ 63
    · have bounds : -(2 ^ 63 : Int) ≤ -size ∧ -(size : Int) < 2 ^ 64 ∧ ¬ -(size : Int) = 0 := by omega
      rw [if_neg (by simp), if_pos ⟨rfl, inside⟩, if_pos (by simpa using bounds)]
      rfl
    · have outside : ¬ (-(2 ^ 63 : Int) ≤ -size ∧ -(size : Int) < 2 ^ 64 ∧ ¬ -(size : Int) = 0) := by
        omega
      rw [if_neg (by simp), if_neg (fun h => inside h.2), if_neg (by simpa using outside)]

end IntegerLiteral

/-- The numeral of an integer. -/
def Numeral.ofInt (n : Int) : Numeral := ⟨decide (n < 0), Nat.toDigits 10 n.natAbs, none, none⟩

/-- The integer as it is written without need. -/
def IntegerLiteral.ofInt (n : Int) : IntegerLiteral :=
  ⟨decide (n < 0), Nat.toDigits 10 n.natAbs, isWhole_toDigits n.natAbs⟩

theorem toList_toString_int (n : Int) : (toString n).toList =
    (if decide (n < 0) then ['-'] else []) ++ Nat.toDigits 10 n.natAbs := by
  rw [Int.toString_eq_repr, Int.repr_eq_if]
  by_cases neg : n < 0
  · have size : (-n).toNat = n.natAbs := by omega
    rw [if_neg (by omega), String.toList_append, Nat.toList_repr, size]
    simp [neg]
  · have size : n.toNat = n.natAbs := by omega
    rw [if_pos (by omega), Nat.toList_repr, size]
    simp [neg]

/-- An integer of 64 bits, with a sign or without, has its own value. -/
theorem Numeral.value?_ofInt {n : Int} (least : -(Nat.pow 2 63 : Nat) ≤ n)
    (most : n < UInt64.size) : (ofInt n).value? = some (.int n) := by
  have same : (IntegerLiteral.ofInt n).value = n := by
    have size : ofDigits (Nat.toDigits 10 n.natAbs) = n.natAbs := Nat.ofDigitChars_ten_toDigits
    simp only [IntegerLiteral.value, IntegerLiteral.ofInt, size, decide_eq_true_eq]
    omega
  have notMinusZero : ¬ (IntegerLiteral.ofInt n).IsMinusZero := by
    rintro ⟨neg, zero⟩
    simp only [IntegerLiteral.ofInt, decide_eq_true_eq] at neg
    omega
  have signed : Nat.pow 2 63 = 2 ^ 63 := rfl
  have fits : Int64.minValue.toInt ≤ n := by
    rw [Int64.toInt_minValue]
    omega
  have value := (IntegerLiteral.ofInt n).value?_eq
  rwa [same, if_pos ⟨fits, most, notMinusZero⟩] at value

end Traversal.Json
