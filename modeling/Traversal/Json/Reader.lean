import Traversal.Json.Numeral
import Traversal.Json.Text

/-! # Reading JSON

The grammar is strict: no comments, no trailing commas, nothing after the value but blanks. Arrays
and objects nest at most 127 deep, which is also what the recursion descends on. -/

namespace Traversal.Json

/-- Drops spaces, tabs, line feeds and carriage returns. -/
def skipBlanks : List Char → List Char
  | [] => []
  | c :: rest =>
    if c = ' ' ∨ c = '\t' ∨ c = '\n' ∨ c = '\r' then skipBlanks rest else c :: rest

/-- Items with commas between them, up to the closing bracket; at least one item. -/
def readItems {α : Type} (close : Char) (item : List Char → Option (α × List Char)) :
    Nat → List Char → Option (List α × List Char)
  | 0, _ => none
  | fuel + 1, cs =>
    match item cs with
    | none => none
    | some (x, cs) =>
      match skipBlanks cs with
      | [] => none
      | c :: cs =>
        if c = ',' then (readItems close item fuel cs).map fun (xs, cs) => (x :: xs, cs)
        else if c = close then some ([x], cs)
        else none

/-- Items up to the closing bracket, or none at all. Each item takes up text, so the length of the
text bounds their number. -/
def readBracketed {α : Type} (close : Char) (item : List Char → Option (α × List Char))
    (cs : List Char) : Option (List α × List Char) :=
  match skipBlanks cs with
  | [] => none
  | c :: rest => if c = close then some ([], rest) else readItems close item cs.length cs

/-- A name, a colon and a value. -/
def readMember {α : Type} (value : List Char → Option (α × List Char)) (cs : List Char) :
    Option ((String × α) × List Char) :=
  match skipBlanks cs with
  | '"' :: cs =>
    match readString cs with
    | some (name, cs) =>
      match skipBlanks cs with
      | ':' :: cs => (value cs).map fun (v, cs) => ((name, v), cs)
      | _ => none
    | none => none
  | _ => none

def readNumber (cs : List Char) : Option (Json × List Char) :=
  match readNumeral cs with
  | some (numeral, cs) => numeral.value?.map fun n => (.number n, cs)
  | none => none

/-- A value with blanks before it, in which arrays and objects nest at most `depth` deep. -/
def readValue : Nat → List Char → Option (Json × List Char)
  | depth, cs =>
    match skipBlanks cs with
    | [] => none
    | c :: rest =>
      if c = '"' then (readString rest).map fun (s, cs) => (.string s, cs)
      else if c = '[' then
        match depth with
        | 0 => none
        | depth + 1 =>
          (readBracketed ']' (readValue depth) rest).map fun (xs, cs) => (.array xs, cs)
      else if c = '{' then
        match depth with
        | 0 => none
        | depth + 1 =>
          (readBracketed '}' (readMember (readValue depth)) rest).map fun (ms, cs) =>
            (ofMembers ms, cs)
      else if c = 'n' then (['u', 'l', 'l'].isPrefixOf? rest).map fun cs => (.null, cs)
      else if c = 't' then (['r', 'u', 'e'].isPrefixOf? rest).map fun cs => (.bool true, cs)
      else if c = 'f' then (['a', 'l', 's', 'e'].isPrefixOf? rest).map fun cs => (.bool false, cs)
      else readNumber (c :: rest)

/-- How deep arrays and objects may nest. -/
def maxDepth : Nat := 127

/-- The value that a whole text stands for. -/
def read (text : String) : Option Json :=
  match readValue maxDepth text.toList with
  | some (value, rest) => if skipBlanks rest = [] then some value else none
  | none => none

end Traversal.Json
