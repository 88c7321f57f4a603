import Traversal.Text.Category
import Traversal.Text.Hexadecimal
import Traversal.Text.Later
import Traversal.Text.Property.Cluster

/-! # Text shown for inspection

A text stands between double quotes with every character visible: quotes, backslashes, controls and
hidden characters are written as escapes. -/

namespace Traversal.Text

/-- What is never shown as itself: separators, controls and the like, and marks and other characters
that attach to the one before them. The two halfwidth sound marks are shown, and four fillers, which
are letters, are hidden. -/
def hiddenCharacters : CharSet :=
  let attached := (charsOf [nonspacingMarks, enclosingMarks, otherExtenders]).difference
    (.ofTable "FF9E-FF9F")
  let unshown := (charsOf (separators ++ others)).difference (.ofTable laterCharacters)
  .unionAll [unshown, attached, .ofTable laterMarks, .ofTable "115F-1160 3164 FFA0"]

def isHidden (c : Char) : Bool :=
  c.toNat < 0x20 || c.toNat == 0x7F || (0x80 ≤ c.toNat && hiddenCharacters.has c)

/-- The escape of a character by its number. -/
def numberEscape (c : Char) : String :=
  "\\u\x7b" ++ String.ofList (hexadecimal c.toNat) ++ "\x7d"

def shownChar (c : Char) : String :=
  if c = '"' then "\\\""
  else if c = '\\' then "\\\\"
  else if c = '\n' then "\\n"
  else if c = '\r' then "\\r"
  else if c = '\t' then "\\t"
  else if c = '\x00' then "\\0"
  else if isHidden c then numberEscape c
  else String.singleton c

/-- The text between quotes, with escapes. -/
def shown (s : String) : String :=
  "\"" ++ String.join (s.toList.map shownChar) ++ "\""

/-- A list of texts, each shown, between brackets. -/
def shownList (texts : List String) : String :=
  "[" ++ ", ".intercalate (texts.map shown) ++ "]"

end Traversal.Text
