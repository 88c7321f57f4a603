/-! # Binary floating-point numbers of 64 bits

Finite values are whole multiples of 2^-1074, so all arithmetic on them is arithmetic of natural
numbers followed by one rounding. -/

namespace Traversal

/-- A finite value is `mantissa · 2^scale · 2^-1074` under its sign; zero keeps its sign. -/
inductive Binary64 where
  | finite (negative : Bool) (mantissa scale : Nat)
  | infinite (negative : Bool)
  | nan
deriving DecidableEq, Repr

namespace Binary64

/-- Number of the units 2^-1074 in one. -/
def unitsPerOne : Nat := Nat.pow 2 1074

/-- The natural number nearest to `num / den`; a half goes to the even neighbour. -/
def roundDiv (num den : Nat) : Nat :=
  let q := num / den
  let twice := 2 * (num % den)
  if twice < den then q
  else if den < twice then q + 1
  else if q % 2 = 0 then q else q + 1

/-- The value nearest to `num / den`, with ties to the even mantissa. It is infinite from
2^1024 - 2^970 on. -/
def ofRatio (negative : Bool) (num den : Nat) : Binary64 :=
  let units := num * unitsPerOne
  let whole := units / den
  let scale := if whole < Nat.pow 2 53 then 0 else whole.log2 - 52
  let mantissa := roundDiv units (den * Nat.pow 2 scale)
  let (mantissa, scale) :=
    if mantissa = Nat.pow 2 53 then (Nat.pow 2 52, scale + 1) else (mantissa, scale)
  if scale ≤ 2045 then .finite negative mantissa scale else .infinite negative

def ofNat (n : Nat) : Binary64 := ofRatio false n 1

/-- The value nearest to an integer. -/
def ofInt (n : Int) : Binary64 := ofRatio (n < 0) n.natAbs 1

def negate : Binary64 → Binary64
  | .finite s m p => .finite (!s) m p
  | .infinite s => .infinite (!s)
  | .nan => .nan

/-- The nearest value to `± digits · 10^exponent`. -/
def ofDecimal (negative : Bool) (digits : Nat) (exponent : Int) : Binary64 :=
  if 0 ≤ exponent then ofRatio negative (digits * Nat.pow 10 exponent.toNat) 1
  else ofRatio negative digits (Nat.pow 10 (-exponent).toNat)

def isInfinite : Binary64 → Bool
  | .infinite _ => true
  | _ => false

/-- Size of a finite value in units of 2^-1074. -/
def units : Binary64 → Nat
  | .finite _ m p => m * Nat.pow 2 p
  | _ => 0

/-- Rounded product of the sizes of two finite values. -/
def mulSize (x y : Binary64) : Binary64 :=
  ofRatio false (x.units * y.units) (unitsPerOne * unitsPerOne)

/-- Rounded quotient of the sizes of two finite values, the second not zero. -/
def divSize (x y : Binary64) : Binary64 :=
  ofRatio false x.units y.units

end Binary64

end Traversal
