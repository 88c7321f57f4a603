import Traversal.Regex.Marked
import Traversal.Regex.Reader
import Traversal.Regex.Room

/-! # Regular expressions

A regular expression is a pattern that can be read, that is not too deep, and whose automata are not
too large. -/

namespace Traversal

/-- A pattern with its written form. -/
structure Regex where
  source : String
  pattern : Regex.Pattern

/-- The regular expression with the given written form, if it has a meaning. -/
def Regex.ofText? (source : String) : Option Regex := do
  let pattern ← Regex.Pattern.read source
  if pattern.fits then return ⟨source, pattern⟩ else none

def Regex.found (regex : Regex) (text : String) : Bool :=
  regex.pattern.found text

end Traversal
