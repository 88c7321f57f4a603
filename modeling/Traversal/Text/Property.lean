import Traversal.Text.CharSet

/-! # Properties of characters

A property is known by names, which are written here in lowercase and without blanks, hyphens and
underscores, and holds of the characters in a table. -/

namespace Traversal.Text

structure Property where
  names : List String
  table : String
deriving DecidableEq, Repr

/-- The characters that have the property. -/
def Property.chars (p : Property) : CharSet := .ofTable p.table

/-- The first property with the given name. -/
def Property.named? (properties : List Property) (name : String) : Option Property :=
  properties.find? (·.names.contains name)

end Traversal.Text
