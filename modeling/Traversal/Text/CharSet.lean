import Traversal.Text.Hexadecimal

/-! # Sets of characters

A set is kept as spans of character numbers, in order and with a gap between each two. Characters
are numbered by code point with the surrogates left out, so that every number below `charCount` is
a character's and neighbours in number are neighbours as characters. -/

namespace Traversal.Text

/-- How many code points are surrogates. -/
def surrogateCount : Nat := 0x800

/-- How many characters there are. -/
def charCount : Nat := 0x110000 - surrogateCount

/-- The number of the character with the given code point. -/
def numberOfCode (code : Nat) : Nat :=
  if code < 0xD800 then code else code - surrogateCount

/-- The code point of the character with the given number. -/
def codeOfNumber (number : Nat) : Nat :=
  if number < 0xD800 then number else number + surrogateCount

/-- The numbers from `first` to `last`, both included. -/
structure Span where
  first : Nat
  last : Nat
deriving DecidableEq, Repr

structure CharSet where
  spans : Array Span
deriving DecidableEq, Repr

/-- Joins spans in order of their first numbers wherever two meet. -/
def Span.join : List Span → List Span
  | [] => []
  | s :: rest => go s rest
where
  go (s : Span) : List Span → List Span
    | [] => [s]
    | t :: rest =>
      if t.first ≤ s.last + 1 then go ⟨s.first, max s.last t.last⟩ rest else s :: go t rest

/-- What lies between spans that are in order, from the number `start` on. -/
def Span.gaps (start : Nat) : List Span → List Span
  | [] => if start < charCount then [⟨start, charCount - 1⟩] else []
  | s :: rest =>
    if start < s.first then ⟨start, s.first - 1⟩ :: gaps (s.last + 1) rest
    else gaps (s.last + 1) rest

namespace CharSet

def empty : CharSet := ⟨#[]⟩

/-- All characters of the given spans, which may overlap and need no order. -/
def ofSpans (spans : List Span) : CharSet :=
  ⟨(Span.join (spans.mergeSort fun s t => s.first ≤ t.first)).toArray⟩

/-- The characters from `first` to `last`. -/
def range (first last : Char) : CharSet :=
  ⟨#[⟨numberOfCode first.toNat, numberOfCode last.toNat⟩]⟩

def single (c : Char) : CharSet := range c c

/-- Looks for the number among the spans from position `low` to before `high`. -/
def covers (spans : Array Span) (number low high : Nat) : Bool :=
  if low < high then
    let middle := (low + high) / 2
    match spans[middle]? with
    | none => false
    | some s =>
      if number < s.first then covers spans number low middle
      else if s.last < number then covers spans number (middle + 1) high
      else true
  else false
termination_by high - low

def has (set : CharSet) (c : Char) : Bool :=
  covers set.spans (numberOfCode c.toNat) 0 set.spans.size

def isEmpty (set : CharSet) : Bool := set.spans.isEmpty

def union (a b : CharSet) : CharSet :=
  ofSpans (a.spans.toList ++ b.spans.toList)

def unionAll (sets : List CharSet) : CharSet :=
  ofSpans (sets.flatMap (·.spans.toList))

def complement (a : CharSet) : CharSet :=
  ⟨(Span.gaps 0 a.spans.toList).toArray⟩

def all : CharSet := complement empty

def intersection (a b : CharSet) : CharSet :=
  complement (union (complement a) (complement b))

def difference (a b : CharSet) : CharSet :=
  complement (union (complement a) b)

def symmetricDifference (a b : CharSet) : CharSet :=
  union (difference a b) (difference b a)

/-- Every character is an ASCII one. -/
def isAscii (set : CharSet) : Bool :=
  set.spans.all (·.last < 0x80)

/-- The one character of the set, if it has just one. -/
def single? (set : CharSet) : Option Char :=
  match set.spans with
  | #[s] => if s.first = s.last then some (Char.ofNat (codeOfNumber s.first)) else none
  | _ => none

end CharSet

/-! ## Tables

A table writes a set as code points and ranges of code points, in hexadecimal, with blanks between
them: `41-5A 5F`. -/

/-- What has been read of a table: the ranges, and the start and the last number of a range that has
not ended. -/
structure TableReader where
  spans : List Span := []
  first : Option Nat := none
  code : Option Nat := none

/-- Ends a range. -/
def TableReader.close (r : TableReader) : TableReader :=
  match r.code with
  | some code =>
    { spans := ⟨numberOfCode (r.first.getD code), numberOfCode code⟩ :: r.spans }
  | none => r

def TableReader.read (r : TableReader) (c : Char) : TableReader :=
  match hexDigit? c with
  | some digit => { r with code := some (16 * r.code.getD 0 + digit) }
  | none => if c = '-' then { r with first := r.code, code := none } else r.close

/-- The set that a table writes. -/
def CharSet.ofTable (table : String) : CharSet :=
  .ofSpans (table.foldl TableReader.read {}).close.spans.reverse

end Traversal.Text
