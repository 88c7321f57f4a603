import Traversal.Text.Age
import Traversal.Text.Category
import Traversal.Text.Property.Alphabet
import Traversal.Text.Property.Cluster
import Traversal.Text.Property.Identifier
import Traversal.Text.Property.Sign
import Traversal.Text.Script
import Traversal.Text.ScriptExtension
import Traversal.Text.Segment.Cluster
import Traversal.Text.Segment.Sentence
import Traversal.Text.Segment.Word

/-! # Sets of characters by property

A property is named alone (`Greek`) or with a value (`Script=Greek`, `Script:Greek`,
`Script!=Greek`). Names are read loosely. -/

namespace Traversal.Regex

open Traversal.Text

/-- The word `is` that may stand before a name. -/
def dropIs : List Char → Option (List Char)
  | i :: s :: rest => if i.toLower = 'i' ∧ s.toLower = 's' then some rest else none
  | _ => none

/-- A name without what does not count in it: case, spaces, underscores, hyphens, characters that
are not ASCII, and the word `is` before it, unless only a `c` would be left. -/
def plainName (name : List Char) : String :=
  let plain (cs : List Char) : List Char :=
    (cs.filter fun c => c ≠ ' ' ∧ c ≠ '_' ∧ c ≠ '-' ∧ c.toNat < 0x80).map Char.toLower
  match dropIs name with
  | some bare => if plain bare = ['c'] then "isc" else String.ofList (plain bare)
  | none => String.ofList (plain name)

/-- The properties that a character has or has not. -/
def binaryProperties : List Property :=
  [alphabetic, whiteSpace, otherExtenders] ++ caseProperties ++ caseChanges
    ++ identifierProperties ++ clusterProperties ++ signProperties

/-- A binary property, category or script by its name. -/
def property? (name : String) : Option CharSet :=
  ((Property.named? binaryProperties name).map (·.chars)
    <|> category? name
    <|> (Property.named? scripts name).map (·.chars))

/-- What a script uses: its own characters and those it shares, less what only others use. -/
def scriptExtension? (name : String) : Option CharSet :=
  (Property.named? scripts name).map fun script =>
    let charsIn (properties : List Property) : CharSet :=
      ((Property.named? properties name).map (·.chars)).getD .empty
    (script.chars.union (charsIn sharedCharacters)).difference (charsIn claimedCharacters)

/-- The characters that a version of the standard had, with those of all versions before. -/
def age? (name : String) : Option CharSet :=
  if (Property.named? ages name).isNone then none
  else
    let before := ages.takeWhile fun p => !p.names.contains name
    some (charsOf (ages.take (before.length + 1)))

/-- The characters for which the property has the value. -/
def propertyValue? (property value : String) : Option CharSet :=
  match property with
  | "gc" | "generalcategory" => category? value
  | "sc" | "script" => (Property.named? scripts value).map (·.chars)
  | "scx" | "scriptextensions" => scriptExtension? value
  | "age" => age? value
  | "gcb" | "graphemeclusterbreak" => (Property.named? clusterBreaks value).map (·.chars)
  | "wb" | "wordbreak" => (Property.named? wordBreaks value).map (·.chars)
  | "sb" | "sentencebreak" => (Property.named? sentenceBreaks value).map (·.chars)
  | _ => none

/-- What stands before and after the first place where `mark` stands. -/
def cutAt? (mark : List Char) : List Char → Option (List Char × List Char)
  | [] => none
  | c :: rest =>
    if mark.isPrefixOf (c :: rest) then some ([], (c :: rest).drop mark.length)
    else (cutAt? mark rest).map fun (before, after) => (c :: before, after)

/-- The set that a property's text names, and whether its complement is meant. -/
def propertyText? (text : List Char) : Option (CharSet × Bool) :=
  match cutAt? ['!', '='] text with
  | some (name, value) =>
    (propertyValue? (plainName name) (plainName value)).map fun chars => (chars, true)
  | none =>
    match (cutAt? [':'] text) <|> (cutAt? ['='] text) with
    | some (name, value) =>
      (propertyValue? (plainName name) (plainName value)).map fun chars => (chars, false)
    | none => (property? (plainName text)).map fun chars => (chars, false)

end Traversal.Regex
