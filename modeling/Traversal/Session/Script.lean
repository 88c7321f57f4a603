import Traversal.Session.Read

/-! # Scripted transports

Replies fixed beforehand, by query text and by how often that text has been sent. -/

namespace Traversal

structure Script where
  byText : List (String × List Reply) := []
  /-- The replies to every text that has none of its own. -/
  otherwise : List Reply := []

namespace Script

/-- The reply at a position; past the end the last one repeats, and without any there is nothing to
be found. -/
def pick (replies : List Reply) (position : Nat) : Reply :=
  (replies[position]?).getD (replies.getLast?.getD (.answer ⟨404, ""⟩))

def transport (script : Script) : Transport := fun history text =>
  pick ((script.byText.lookup text).getD script.otherwise) (history.count text)

end Script

end Traversal
