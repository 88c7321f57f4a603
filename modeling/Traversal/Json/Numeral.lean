import Traversal.Json.Value

/-! # Numerals of JSON

A numeral is read as it is written and then given its value. Digits count towards a floating-point
number for as long as they fit into 64 bits; the number they make is then multiplied or divided by a
power of ten, with one rounding each. -/

namespace Traversal.Json

structure Numeral where
  negative : Bool
  whole : List Char
  fraction : Option (List Char)
  /-- Sign and digits; true stands for a minus. -/
  exponent : Option (Bool × List Char)
deriving DecidableEq, Repr

/-- The leading digits and what follows them. -/
def spanDigits (cs : List Char) : List Char × List Char :=
  (cs.takeWhile Char.isDigit, cs.dropWhile Char.isDigit)

/-- The whole part: a zero alone, or digits that do not start with one. -/
def readWhole : List Char → Option (List Char × List Char)
  | '0' :: rest =>
    match rest with
    | c :: _ => if c.isDigit then none else some (['0'], rest)
    | [] => some (['0'], [])
  | cs => if (spanDigits cs).1 = [] then none else some (spanDigits cs)

/-- A point and at least one digit, or nothing. -/
def readFraction : List Char → Option (Option (List Char) × List Char)
  | '.' :: rest => if (spanDigits rest).1 = [] then none
    else some (some (spanDigits rest).1, (spanDigits rest).2)
  | cs => some (none, cs)

/-- The digits of an exponent after its sign. -/
def exponentDigits (negative : Bool) (cs : List Char) :
    Option (Option (Bool × List Char) × List Char) :=
  if (spanDigits cs).1 = [] then none
  else some (some (negative, (spanDigits cs).1), (spanDigits cs).2)

/-- An exponent mark, a sign or none, and at least one digit, or nothing. -/
def readExponent : List Char → Option (Option (Bool × List Char) × List Char)
  | c :: rest =>
    if c = 'e' ∨ c = 'E' then
      match rest with
      | '-' :: rest => exponentDigits true rest
      | '+' :: rest => exponentDigits false rest
      | rest => exponentDigits false rest
    else some (none, c :: rest)
  | [] => some (none, [])

def readNumeral (cs : List Char) : Option (Numeral × List Char) := do
  let negative := cs.head? = some '-'
  let (whole, cs) ← readWhole (if negative then cs.tail else cs)
  let (fraction, cs) ← readFraction cs
  let (exponent, cs) ← readExponent cs
  some (⟨negative, whole, fraction, exponent⟩, cs)

/-- The number made of digits, most significant first. -/
def ofDigits (digits : List Char) : Nat :=
  Nat.ofDigitChars 10 digits 0

/-- Appends digits to a number for as long as it stays below 2^64; gives the number and how many
digits were taken. -/
def takeFitting (n : Nat) : List Char → Nat × Nat
  | [] => (n, 0)
  | d :: rest =>
    let next := 10 * n + (d.toNat - '0'.toNat)
    if next < UInt64.size then
      let (m, taken) := takeFitting next rest
      (m, taken + 1)
    else (n, 0)

/-- Divides by 10^308 until the exponent left is one that a finite power of ten has. -/
def scaleDown (x : Binary64) (exponent : Nat) : Binary64 :=
  if exponent ≤ 308 then x.divSize (.ofDecimal false 1 exponent)
  else if x.units = 0 then x
  else scaleDown (x.divSize (.ofDecimal false 1 308)) (exponent - 308)
termination_by exponent

/-- `significand · 10^exponent`, if that is finite. -/
def scale? (significand : Nat) (exponent : Int) : Option Binary64 :=
  let x := Binary64.ofNat significand
  if exponent < 0 then some (scaleDown x (-exponent).toNat)
  else if exponent ≤ 308 then
    let y := x.mulSize (.ofDecimal false 1 exponent)
    if y.isInfinite then none else some y
  else if significand = 0 then some x
  else none

/-- The value as a floating-point number, if it does not overflow. An exponent of 2^31 or more makes
zero or overflows whatever the point's position. -/
def Numeral.double? (n : Numeral) : Option Binary64 :=
  let (whole, taken) := takeFitting 0 n.whole
  let fraction := n.fraction.getD []
  let (significand, places) := takeFitting whole fraction
  let shift : Int := (n.whole.length - taken : Nat) - places
  let size := match n.exponent with
    | none => scale? significand shift
    | some (down, digits) =>
      let e := ofDigits digits
      if Nat.pow 2 31 ≤ e then if significand = 0 ∨ down = true then some (.ofNat 0) else none
      else scale? significand (if down then shift - e else shift + e)
  size.map fun x => if n.negative then x.negate else x

/-- An integer of 64 bits stays one; minus zero is no integer. -/
def Numeral.value? (n : Numeral) : Option Number :=
  let size := ofDigits n.whole
  if n.fraction = none ∧ n.exponent = none ∧ n.negative = false ∧ size < UInt64.size then
    some (.int size)
  else if n.fraction = none ∧ n.exponent = none ∧ n.negative = true ∧ 0 < size ∧
      size ≤ Nat.pow 2 63 then
    some (.int (-size))
  else n.double?.map .double

end Traversal.Json
