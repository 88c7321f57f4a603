/-! # Hexadecimal digits -/

namespace Traversal.Text

def hexDigit? (c : Char) : Option Nat :=
  if c.isDigit then some (c.toNat - '0'.toNat)
  else if 'a' ≤ c ∧ c ≤ 'f' then some (c.toNat - 'a'.toNat + 10)
  else if 'A' ≤ c ∧ c ≤ 'F' then some (c.toNat - 'A'.toNat + 10)
  else none

/-- The number with the given digits, most significant first. -/
def hexNumber? (digits : List Char) : Option Nat :=
  digits.foldlM (fun n c => (hexDigit? c).map (16 * n + ·)) 0

/-- The lowercase digits of a number, without leading zeros. -/
def hexadecimal (n : Nat) : List Char :=
  Nat.toDigits 16 n

end Traversal.Text
