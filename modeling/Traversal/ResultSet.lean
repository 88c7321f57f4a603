import Traversal.Record

/-! # Result sets

The records of one execution, in order, and whether repeated ones have been dropped. -/

namespace Traversal

structure ResultSet where
  records : List Record
  distinct : Bool
deriving DecidableEq, Repr

namespace ResultSet

def ofRecords (records : List Record) : ResultSet := ⟨records, false⟩

def empty : ResultSet := ofRecords []

def size (set : ResultSet) : Nat := set.records.length

def isEmpty (set : ResultSet) : Bool := set.records.isEmpty

def get? (set : ResultSet) (index : Nat) : Option Record := set.records[index]?

def first? (set : ResultSet) : Option Record := set.get? 0

/-- The record at a position; asking beyond the last one breaks off. -/
def record (set : ResultSet) (index : Nat) : Except Crash Record :=
  match set.get? index with
  | some r => .ok r
  | none => .error (.noSuchRecord index)

end ResultSet

end Traversal
