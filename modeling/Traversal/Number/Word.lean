/-! # Whole numbers of limited size

Reading decimal digits from the left, with the first thing that is wrong as the error. -/

namespace Traversal

inductive NumeralError where
  | empty
  | invalidDigit
  | tooLarge
deriving DecidableEq, Repr

def NumeralError.reason : NumeralError → String
  | empty => "cannot parse integer from empty string"
  | invalidDigit => "invalid digit found in string"
  | tooLarge => "number too large to fit in target type"

/-- Appends digits to a number that stays below the limit. -/
def appendDigits (limit n : Nat) : List Char → Except NumeralError Nat
  | [] => .ok n
  | c :: rest =>
    if c.isDigit then
      let next := 10 * n + (c.toNat - '0'.toNat)
      if next < limit then appendDigits limit next rest else .error .tooLarge
    else .error .invalidDigit

/-- A number below the limit, with or without a plus sign. -/
def readWord (limit : Nat) : List Char → Except NumeralError Nat
  | [] => .error .empty
  | ['+'] => .error .invalidDigit
  | '+' :: digits => appendDigits limit 0 digits
  | digits => appendDigits limit 0 digits

/-- A signed number of 64 bits. -/
def readInt64? (cs : List Char) : Option Int64 :=
  match cs with
  | '-' :: digits =>
    match digits, appendDigits (Nat.pow 2 63 + 1) 0 digits with
    | _ :: _, .ok n => some (Int64.ofInt (-n))
    | _, _ => none
  | cs =>
    match readWord (Nat.pow 2 63) cs with
    | .ok n => some (Int64.ofNat n)
    | .error _ => none

end Traversal
