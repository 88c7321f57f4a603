import Traversal.Number.Binary64

/-! # Floating-point literals

Reads a decimal with any number of digits to the nearest value. The words for infinity and for not a
number are read in any case. -/

namespace Traversal.Binary64

/-- Digits, a point and digits, with at least one digit; gives all digits and how many follow the
point. -/
def readDigits (cs : List Char) : Option ((List Char × Nat) × List Char) :=
  let whole := cs.takeWhile Char.isDigit
  let rest := cs.dropWhile Char.isDigit
  let (fraction, rest) := match rest with
    | '.' :: rest => (rest.takeWhile Char.isDigit, rest.dropWhile Char.isDigit)
    | rest => ([], rest)
  if whole ++ fraction = [] then none else some ((whole ++ fraction, fraction.length), rest)

/-- The exponent that ends a literal, or nothing. -/
def readPower (cs : List Char) : Option Int :=
  match cs with
  | [] => some 0
  | c :: rest =>
    let (sign, digits) : Int × List Char := match rest with
      | '-' :: rest => (-1, rest)
      | '+' :: rest => (1, rest)
      | rest => (1, rest)
    if (c = 'e' ∨ c = 'E') ∧ digits ≠ [] ∧ digits.all Char.isDigit = true then
      some (sign * Nat.ofDigitChars 10 digits 0)
    else none

/-- The nearest value to a decimal of any size. -/
def ofDigits (negative : Bool) (digits : List Char) (power : Int) : Binary64 :=
  let significand := Nat.ofDigitChars 10 digits 0
  if significand = 0 ∨ power + digits.length < -400 then .finite negative 0 0
  else if 400 < power then .infinite negative
  else ofDecimal negative significand power

/-- The value without a sign before it. -/
def sizeOf? (negative : Bool) (cs : List Char) : Option Binary64 :=
  let word := String.ofList (cs.map Char.toLower)
  if word = "inf" ∨ word = "infinity" then some (.infinite negative)
  else if word = "nan" then some .nan
  else do
    let ((digits, places), rest) ← readDigits cs
    let power ← readPower rest
    return ofDigits negative digits (power - places)

/-- The value nearest to what a literal denotes. -/
def ofText? (text : String) : Option Binary64 :=
  match text.toList with
  | '-' :: cs => sizeOf? true cs
  | '+' :: cs => sizeOf? false cs
  | cs => sizeOf? false cs

end Traversal.Binary64
