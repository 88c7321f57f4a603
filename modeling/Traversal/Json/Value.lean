import Traversal.Number.Binary64

/-! # JSON values

Integers of 64 bits, signed or unsigned, stay integers; every other number is a binary
floating-point number. Members of an object stand in the order of their names, each name once. -/

namespace Traversal

inductive Json.Number where
  | int (value : Int)
  | double (value : Binary64)
deriving DecidableEq, Repr

inductive Json where
  | null
  | bool (value : Bool)
  | number (value : Json.Number)
  | string (value : String)
  | array (items : List Json)
  | object (members : List (String × Json))
deriving Repr

namespace Json

/-- Puts a member at its place; an earlier member of that name gives way. -/
def insertMember (name : String) (value : Json) : List (String × Json) → List (String × Json)
  | [] => [(name, value)]
  | (other, old) :: rest =>
    if name = other then (name, value) :: rest
    else if name < other then (name, value) :: (other, old) :: rest
    else (other, old) :: insertMember name value rest

/-- The object with the given members, of which later ones win. -/
def ofMembers (members : List (String × Json)) : Json :=
  .object (members.foldl (fun object member => insertMember member.1 member.2 object) [])

/-- The member of that name, if the value is an object that has one. -/
def member? (name : String) : Json → Option Json
  | .object members => members.lookup name
  | _ => none

end Json

end Traversal
