import Traversal.Text.Category.Letters
import Traversal.Text.Category.Marks
import Traversal.Text.Category.Numbers
import Traversal.Text.Category.Punctuation
import Traversal.Text.Category.Symbols
import Traversal.Text.Category.Others

/-! # General categories

Every character belongs to one general category. Groups of categories have names of their own. -/

namespace Traversal.Text

def letters : List Property :=
  [uppercaseLetters, lowercaseLetters, titlecaseLetters, modifierLetters, otherLetters]

def marks : List Property := [nonspacingMarks, spacingMarks, enclosingMarks]

def numbers : List Property := [decimalDigits, letterNumbers, otherNumbers]

def punctuation : List Property :=
  [connectors, dashes, openings, closings, initialQuotes, finalQuotes, otherPunctuation]

def symbols : List Property :=
  [mathematicalSymbols, currencySymbols, modifierSymbols, otherSymbols]

def separators : List Property := [spaces, lineSeparators, paragraphSeparators]

/-- Controls, format characters, private use and unassigned code points. -/
def others : List Property := [controls, formatCharacters, privateUse, unassigned]

/-- The characters that belong to one of the categories. -/
def charsOf (categories : List Property) : CharSet :=
  .unionAll (categories.map (·.chars))

/-- A group of categories by its name. -/
def categoryGroup? : String → Option (List Property)
  | "l" | "letter" => some letters
  | "lc" | "casedletter" => some [uppercaseLetters, lowercaseLetters, titlecaseLetters]
  | "m" | "mark" | "combiningmark" => some marks
  | "n" | "number" => some numbers
  | "p" | "punctuation" | "punct" => some punctuation
  | "s" | "symbol" => some symbols
  | "z" | "separator" => some separators
  | "c" | "other" => some others
  | _ => none

/-- The characters of a category or a group of categories, or all, all assigned or all ASCII
characters, by name. -/
def category? (name : String) : Option CharSet :=
  match name with
  | "any" => some .all
  | "assigned" => some unassigned.chars.complement
  | "ascii" => some (.range '\x00' '\x7f')
  | name =>
    match categoryGroup? name with
    | some group => some (charsOf group)
    | none =>
      let categories :=
        letters ++ marks ++ numbers ++ punctuation ++ symbols ++ separators ++ others
      (Property.named? categories name).map (·.chars)

end Traversal.Text
