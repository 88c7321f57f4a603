import Traversal.Record
import Traversal.Regex.Captures
import Traversal.Text.Quoted

/-! # RDF values

Entities are named by addresses that start alike, and texts are literals with a language:
`"Paul McCartney"@en`. A literal is taken apart by matching its form, so that the greedy capture of
the text decides where the language begins. -/

namespace Traversal.Rdf

/-- What the address of every entity starts with. -/
def addressStart : String := "http://rdf.freebase.com/ns/"

def defaultLanguage : String := "en"

def address (name : String) : String := addressStart ++ name

/-- Gives every quote a backslash. -/
def escapeEvery : List Char → List Char
  | [] => []
  | c :: rest => if c = '"' then '\\' :: '"' :: escapeEvery rest else c :: escapeEvery rest

/-- The literal of a text in a language. -/
def literal (text language : String) : String :=
  "\"" ++ String.ofList (escapeEvery text.toList) ++ "\"@" ++ language

/-- What may stand on one line. -/
def lineCharacters : Text.CharSet := (Text.CharSet.single '\n').complement

/-- The form of every literal: the text between the first quote and another one, an at sign, and the
language up to the end, all on one line. The text and the language are captured. -/
def literalForm : List Regex.Piece :=
  [.look .textStart, .literal '"', .captured lineCharacters, .literal '"', .literal '@',
    .captured lineCharacters, .look .textEnd]

/-- The text of a literal, with its escapes, and its language. -/
def splitLiteral? (value : String) : Option (String × String) :=
  match Regex.captures? literalForm value with
  | some [text, language] => some (text, language)
  | _ => none

/-- The name of an entity by its address, or the text of a literal in the language. Any other value
stays as it is. -/
def clean (language value : String) : String :=
  match addressStart.toList.isPrefixOf? value.toList with
  | some name => String.ofList name
  | none =>
    match splitLiteral? value with
    | some (text, other) =>
      if other = language then String.ofList (Text.unescapeQuotes text.toList) else value
    | none => value

def cleanRecord (language : String) (r : Record) : Record :=
  r.mapValues (clean language)

/-- No field is a literal in another language. -/
def matchesLanguage (language : String) (r : Record) : Bool :=
  r.fields.all fun (_, value) =>
    match splitLiteral? value with
    | some (_, other) => other == language
    | none => true

end Traversal.Rdf
