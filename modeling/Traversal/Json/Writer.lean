import Traversal.Json.Text
import Traversal.Json.Value
import Traversal.Number.Layout

/-! # Writing JSON

The compact form: no blanks, members in the order in which they stand. -/

namespace Traversal.Json

/-- Exponents from -5 to 15 are written positionally, others with their sign. -/
def layout : Layout := ⟨-5, 15, true, false⟩

def Number.write : Number → String
  | .int n => toString n
  | .double x => layout.write x

mutual

def write : Json → String
  | .null => "null"
  | .bool true => "true"
  | .bool false => "false"
  | .number n => n.write
  | .string s => writeString s
  | .array items => "[" ++ writeItems items ++ "]"
  | .object members => "\x7b" ++ writeMembers members ++ "\x7d"

def writeItems : List Json → String
  | [] => ""
  | [item] => item.write
  | item :: next :: rest => item.write ++ "," ++ writeItems (next :: rest)

def writeMembers : List (String × Json) → String
  | [] => ""
  | [(name, value)] => writeString name ++ ":" ++ value.write
  | (name, value) :: next :: rest =>
    writeString name ++ ":" ++ value.write ++ "," ++ writeMembers (next :: rest)

end

/-- The text of a value taken as a word: a string as it is, anything else in compact form. -/
def plainText : Json → String
  | .string s => s
  | value => value.write

end Traversal.Json
