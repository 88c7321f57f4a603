import Traversal.Number.Binary64

/-! # Shortest decimal text of a binary number

The reals that round to a value form an interval. Among the decimals inside it, the one with the
fewest digits is taken, and of those with equally many digits the one nearest to the value. -/

namespace Traversal

/-- The decimal `digits · 10^exponent`. -/
structure Decimal where
  digits : Nat
  exponent : Int
deriving DecidableEq, Repr

namespace Binary64

/-- The exponent of the power of ten just at or below `num / den`, which is positive. -/
def decimalExponent (num den : Nat) : Int :=
  if den ≤ num then (Nat.toDigits 10 (num / den)).length - 1
  else
    let places := (Nat.toDigits 10 (den / num)).length
    if den ≤ num * Nat.pow 10 (places - 1) then 1 - places else -places

/-- The multiples of `10^exponent` beside the value `m · 2^p` units: the one at or below it, and
which of the two are in the rounding interval. All three numbers of the comparison are multiplied
by four times the number of units in one, and by the power of ten if that is a fraction. -/
structure Neighbours where
  below : Nat
  hasBelow : Bool
  hasAbove : Bool
  /-- How the upper neighbour's distance compares with the lower one's. -/
  nearer : Ordering

def neighbours (m p : Nat) (exponent : Int) : Neighbours :=
  let quarter := Nat.pow 2 p * Nat.pow 10 (-exponent).toNat
  let grid := 4 * unitsPerOne * Nat.pow 10 exponent.toNat
  let low := (4 * m - if m = Nat.pow 2 52 ∧ p ≠ 0 then 1 else 2) * quarter
  let value := 4 * m * quarter
  let high := (4 * m + 2) * quarter
  let inside (x : Nat) : Bool :=
    if m % 2 = 0 then low ≤ x && x ≤ high else low < x && x < high
  let below := value / grid
  { below
    hasBelow := inside (below * grid)
    hasAbove := inside ((below + 1) * grid)
    nearer := compare ((below + 1) * grid - value) (value - below * grid) }

/-- The neighbour to write, if one is in the interval; `tieUp` says which of two equally near
ones. -/
def Neighbours.choose? (n : Neighbours) (tieUp : Bool) : Option Nat :=
  match n.hasBelow, n.hasAbove with
  | false, false => none
  | true, false => some n.below
  | false, true => some (n.below + 1)
  | true, true =>
    match n.nearer with
    | .lt => some (n.below + 1)
    | .gt => some n.below
    | .eq => some (if tieUp || n.below % 2 = 1 then n.below + 1 else n.below)

/-- Tries `count` digits and then more, `further` times; the last grid always has a hit. -/
def shortestFrom (tieUp : Bool) (m p : Nat) (leading : Int) (count : Nat) : Nat → Decimal
  | 0 => ⟨(neighbours m p (leading - count + 1)).below, leading - count + 1⟩
  | further + 1 =>
    match (neighbours m p (leading - count + 1)).choose? tieUp with
    | some d => if d = Nat.pow 10 count then ⟨1, leading + 1⟩ else ⟨d, leading - count + 1⟩
    | none => shortestFrom tieUp m p leading (count + 1) further

/-- The shortest decimal of the finite value `m · 2^p` units, `m` not zero. Seventeen digits tell
all values apart. -/
def shortest (tieUp : Bool) (m p : Nat) : Decimal :=
  shortestFrom tieUp m p (decimalExponent (m * Nat.pow 2 p) unitsPerOne) 1 17

end Binary64

end Traversal
