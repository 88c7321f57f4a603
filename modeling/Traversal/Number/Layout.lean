import Traversal.Number.Shortest

/-! # Layout of a number's text

Where positional notation ends and how an exponent is written. The digits are the shortest ones. -/

namespace Traversal

/-- How one format writes floating-point numbers. -/
structure Layout where
  /-- Decimal exponents from `lowest` to `highest` are written positionally. -/
  lowest : Int
  highest : Int
  /-- Whether an exponent that is not negative carries a plus sign. -/
  plus : Bool
  tieUp : Bool
deriving DecidableEq, Repr

namespace Layout

def zeros (n : Nat) : List Char := List.replicate n '0'

/-- Digits with a point; `exponent` is the power of ten of the first digit. -/
def positional (digits : List Char) (exponent : Int) : List Char :=
  if exponent < 0 then '0' :: '.' :: zeros ((-exponent).toNat - 1) ++ digits
  else
    let whole := exponent.toNat + 1
    if digits.length ≤ whole then digits ++ zeros (whole - digits.length) ++ ['.', '0']
    else digits.take whole ++ '.' :: digits.drop whole

/-- One digit, a point before further digits, and the exponent. -/
def scientific (layout : Layout) (digits : List Char) (exponent : Int) : List Char :=
  let point := if digits.length ≤ 1 then digits else digits.take 1 ++ '.' :: digits.drop 1
  let sign := if exponent < 0 then ['-'] else if layout.plus then ['+'] else []
  point ++ 'e' :: sign ++ Nat.toDigits 10 exponent.natAbs

/-- The text of a finite value without its sign. -/
def size (layout : Layout) (m p : Nat) : List Char :=
  if m = 0 then ['0', '.', '0']
  else
    let decimal := Binary64.shortest layout.tieUp m p
    let digits := Nat.toDigits 10 decimal.digits
    let exponent := decimal.exponent + (digits.length - 1 : Nat)
    if layout.lowest ≤ exponent ∧ exponent ≤ layout.highest then positional digits exponent
    else layout.scientific digits exponent

def write (layout : Layout) : Binary64 → String
  | .finite negative m p =>
    String.ofList ((if negative then ['-'] else []) ++ layout.size m p)
  | .infinite negative => if negative then "-inf" else "inf"
  | .nan => "NaN"

end Layout

end Traversal
