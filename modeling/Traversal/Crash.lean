/-! # Crashes

Operators and transports may be given by callers, whose code can break off without an answer, and
asking for a field or record that is not there breaks off too. -/

namespace Traversal

inductive Crash where
  /-- Code given by the caller broke off. -/
  | external (reason : String)
  | noSuchTag (tag : String)
  | noSuchRecord (index : Nat)
deriving DecidableEq, Repr

end Traversal
