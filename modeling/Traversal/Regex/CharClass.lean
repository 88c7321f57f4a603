import Traversal.Text.Case
import Traversal.Text.Category
import Traversal.Text.Property.Alphabet
import Traversal.Text.Property.Cluster

/-! # Classes of characters with short names

Digits, blanks and word characters, and the classes named between `[:` and `:]`. -/

namespace Traversal.Regex

open Traversal.Text

/-- What words are made of: alphabetic characters, marks, decimal digits, connectors, joiners. -/
def wordCharacters : CharSet :=
  .unionAll
    [charsOf (alphabetic :: marks ++ [decimalDigits, connectors]), .ofTable "200C-200D"]

def isWordCharacter (c : Char) : Bool :=
  c.isAlphanum || c == '_' || (0x80 ≤ c.toNat && wordCharacters.has c)

def isAsciiWordCharacter (c : Char) : Bool :=
  c.isAlphanum || c == '_'

/-- The ASCII characters. -/
def ascii : CharSet := .range '\x00' '\x7f'

/-- The classes of `\d`, `\s` and `\w`. -/
inductive Shorthand where
  | digit | blank | word
deriving DecidableEq, Repr

def Shorthand.chars : Shorthand → CharSet
  | .digit => decimalDigits.chars
  | .blank => whiteSpace.chars
  | .word => wordCharacters

/-- The class without what is not ASCII. -/
def Shorthand.asciiChars : Shorthand → CharSet
  | .digit => .ofTable "30-39"
  | .blank => .ofTable "9-D 20"
  | .word => .ofTable "30-39 41-5A 5F 61-7A"

/-- The class named between `[:` and `:]`, which holds ASCII characters only. -/
def asciiClass? : String → Option CharSet
  | "alnum" => some (.ofTable "30-39 41-5A 61-7A")
  | "alpha" => some (.ofTable "41-5A 61-7A")
  | "ascii" => some ascii
  | "blank" => some (.ofTable "9 20")
  | "cntrl" => some (.ofTable "0-1F 7F")
  | "digit" => some (.ofTable "30-39")
  | "graph" => some (.ofTable "21-7E")
  | "lower" => some (.ofTable "61-7A")
  | "print" => some (.ofTable "20-7E")
  | "punct" => some (.ofTable "21-2F 3A-40 5B-60 7B-7E")
  | "space" => some (.ofTable "9-D 20")
  | "upper" => some (.ofTable "41-5A")
  | "word" => some (.ofTable "30-39 41-5A 5F 61-7A")
  | "xdigit" => some (.ofTable "30-39 41-46 61-66")
  | _ => none

end Traversal.Regex
