import Traversal.Json.Reader
import Traversal.QueryError
import Traversal.ResultSet

/-! # Replies

What the endpoint sends back, and the records in it. A reply counts only as a whole: one item that
does not match the tags of the query makes it an error. -/

namespace Traversal

structure Response where
  status : Nat
  body : String
deriving DecidableEq, Repr

/-- What comes of sending a query once. -/
inductive Reply where
  | answer (response : Response)
  | failure (error : TransportError)
  /-- The transport broke off. -/
  | crash (crash : Crash)
deriving DecidableEq, Repr

/-- The values under the tags, in the order of the tags. -/
def Record.fieldsOfJson (item : Json) : List String → Except RecordError (List (String × String))
  | [] => .ok []
  | tag :: rest =>
    match item.member? tag with
    | none => .error (.missingTag tag)
    | some (.string value) =>
      match fieldsOfJson item rest with
      | .ok fields => .ok ((tag, value) :: fields)
      | .error error => .error error
    | some other => .error (.notString tag other.write)

/-- The record that an item stands for: an object whose names are exactly the tags, with strings for
values. -/
def Record.ofJson (tags : List String) : Json → Except RecordError Record
  | .object members =>
    match members.find? fun member => member.1 ∉ tags with
    | some extra => .error (.unexpectedKey extra.1)
    | none =>
      match fieldsOfJson (.object members) tags with
      | .ok fields => .ok ⟨fields⟩
      | .error error => .error error
  | other => .error (.notObject other.write)

/-- The records of all items, or the error of the first item that is none; `index` is the position
of the first item. -/
def recordsOfJson (tags : List String) (index : Nat) :
    List Json → Except ProtocolError (List Record)
  | [] => .ok []
  | item :: rest =>
    match Record.ofJson tags item with
    | .error cause => .error (.malformedRecord index tags cause)
    | .ok record =>
      match recordsOfJson tags (index + 1) rest with
      | .ok records => .ok (record :: records)
      | .error error => .error error

/-- What the endpoint says about an error of its own. -/
def errorText (body : Json) : Option String :=
  (body.member? "error").map Json.plainText

namespace Response

/-- The records of a body that is JSON. -/
def resultOf (status : Nat) (tags : List String) (body : Json) : Except ProtocolError ResultSet :=
  match body.member? "result" with
  | none => .error (.missingResult status (errorText body))
  | some .null => .ok .empty
  | some (.array items) =>
    match recordsOfJson tags 0 items with
    | .ok records => .ok (.ofRecords records)
    | .error error => .error error
  | some other => .error (.resultNotArray other.write)

/-- The records of a response to a query with the given tags. -/
def interpret (response : Response) (tags : List String) : Except QueryError ResultSet :=
  if response.status = 200 then
    match Json.read response.body with
    | none => .error (.protocol .notJson)
    | some body =>
      match resultOf response.status tags body with
      | .ok set => .ok set
      | .error error => .error (.protocol error)
  else
    .error (.transport (.ofStatus response.status ((Json.read response.body).bind errorText)))

end Response

end Traversal
