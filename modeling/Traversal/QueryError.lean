import Traversal.UsageError

/-! # Errors of execution

A query that is executed can fail in three ways: it may not be executable, the endpoint may not
answer or answer with a status other than success, and the answer may not have the expected
shape. -/

namespace Traversal

/-- Without a status, no answer came at all. -/
structure TransportError where
  status : Option Nat
  message : Option String
deriving DecidableEq, Repr

namespace TransportError

def unreachable (message : String) : TransportError := ⟨none, some message⟩

def ofStatus (status : Nat) (message : Option String) : TransportError := ⟨some status, message⟩

/-- What reading a query says after an execution of it has broken off. -/
def interrupted : TransportError :=
  unreachable "an earlier execution of this query was interrupted"

def text : TransportError → String
  | ⟨some code, some message⟩ => s!"Error({code}) - {message}"
  | ⟨some code, none⟩ => s!"Error({code})"
  | ⟨none, some message⟩ => s!"transport failure: {message}"
  | ⟨none, none⟩ => "transport failure"

end TransportError

/-- Why an item of a reply is no record. -/
inductive RecordError where
  | notObject (got : String)
  | unexpectedKey (key : String)
  | missingTag (tag : String)
  | notString (tag got : String)
deriving DecidableEq, Repr

def RecordError.reason : RecordError → String
  | notObject got => s!"expected an object, got {got}"
  | unexpectedKey key => s!"unexpected key '{key}'"
  | missingTag tag => s!"missing tag '{tag}'"
  | notString tag got => s!"tag '{tag}' is not a string: {got}"

inductive ProtocolError where
  | missingResult (status : Nat) (error : Option String)
  | notJson
  | resultNotArray (got : String)
  | malformedRecord (index : Nat) (expected : List String) (cause : RecordError)
deriving DecidableEq, Repr

def ProtocolError.text : ProtocolError → String
  | missingResult status (some error) => s!"Error({status}) - 'result' not received: {error}"
  | missingResult status none => s!"Error({status}) - 'result' not received"
  | notJson => "response body is not valid JSON"
  | resultNotArray got => s!"response body is not valid JSON: 'result' is not an array: {got}"
  | malformedRecord index expected cause =>
    "record " ++ toString index ++ " does not match tags " ++ Text.shownList expected ++ ": "
      ++ cause.reason

inductive QueryError where
  | usage (error : UsageError)
  | transport (error : TransportError)
  | protocol (error : ProtocolError)
deriving DecidableEq, Repr

def QueryError.text : QueryError → String
  | usage error => error.message
  | transport error => error.text
  | protocol error => error.text

end Traversal
