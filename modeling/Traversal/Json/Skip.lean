import Traversal.Json.Reader

/-! # Passing over JSON

A value that nobody asks for is only passed over: it has to be well formed, but its numbers need not
be in range, its strings need not make characters, and it may nest to any depth. -/

namespace Traversal.Json

/-- A string that is passed over, its opening quote being read. -/
def skipString (cs : List Char) : Option (Unit × List Char) :=
  (readPieces cs).map fun (_, cs) => ((), cs)

/-- A name, a colon and a value. -/
def skipMember (value : List Char → Option (Unit × List Char)) (cs : List Char) :
    Option (Unit × List Char) :=
  match skipBlanks cs with
  | '"' :: cs =>
    match skipString cs with
    | some (_, cs) =>
      match skipBlanks cs with
      | ':' :: cs => value cs
      | _ => none
    | none => none
  | _ => none

/-- What follows a value; `fuel` bounds how deep it nests, and the length of the text is enough. -/
def skipValue : Nat → List Char → Option (Unit × List Char)
  | 0, _ => none
  | fuel + 1, cs =>
    match skipBlanks cs with
    | [] => none
    | c :: rest =>
      if c = '"' then skipString rest
      else if c = '[' then
        (readBracketed ']' (skipValue fuel) rest).map fun (_, cs) => ((), cs)
      else if c = '{' then
        (readBracketed '}' (skipMember (skipValue fuel)) rest).map fun (_, cs) => ((), cs)
      else if c = 'n' then (['u', 'l', 'l'].isPrefixOf? rest).map fun cs => ((), cs)
      else if c = 't' then (['r', 'u', 'e'].isPrefixOf? rest).map fun cs => ((), cs)
      else if c = 'f' then (['a', 'l', 's', 'e'].isPrefixOf? rest).map fun cs => ((), cs)
      else (readNumeral (c :: rest)).map fun (_, cs) => ((), cs)

end Traversal.Json
