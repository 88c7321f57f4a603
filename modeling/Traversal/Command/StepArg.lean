import Traversal.Chain.Basic
import Traversal.Json.Reader
import Traversal.Json.Writer

/-! # Steps on the command line

A step is given as `Name` or as `Name=` and a JSON array of its arguments. -/

namespace Traversal

structure StepArg where
  name : String
  args : List Json
deriving Repr

/-- Why a text is no step. -/
inductive StepArgError where
  | notJson (name json : String)
  | notArray (name got : String)
  | emptyName (raw : String)
deriving DecidableEq, Repr

def StepArgError.message : StepArgError → String
  | notJson name json => s!"arguments of `{name}` are not JSON: {json}"
  | notArray name got => s!"arguments of `{name}` must be a JSON array, got {got}"
  | emptyName raw => s!"empty step name in `{raw}`"

/-- What stands before and after the first equals sign. -/
def splitAtEquals : List Char → Option (List Char × List Char)
  | [] => none
  | c :: rest =>
    if c = '=' then some ([], rest)
    else (splitAtEquals rest).map fun (before, after) => (c :: before, after)

namespace StepArg

/-- The name is looked at last: a nameless step with bad arguments has bad arguments. -/
def named (raw name : String) (args : List Json) : Except StepArgError StepArg :=
  if name = "" then .error (.emptyName raw) else .ok ⟨name, args⟩

def parse (raw : String) : Except StepArgError StepArg :=
  match splitAtEquals raw.toList with
  | none => named raw raw []
  | some (before, after) =>
    let name := String.ofList before
    let json := String.ofList after
    match Json.read json with
    | none => .error (.notJson name json)
    | some (.array items) => named raw name items
    | some other => .error (.notArray name other.write)

end StepArg

/-- Why a JSON value is no argument of a step. -/
inductive ArgError where
  | boolean (value : Bool)
  | object (got : String)
deriving DecidableEq, Repr

def ArgError.message : ArgError → String
  | boolean true => "booleans are not step arguments: true"
  | boolean false => "booleans are not step arguments: false"
  | object got => s!"objects are not step arguments: {got}"

/-- Integers of 64 bits with a sign are integers; all other numbers are floating-point numbers. -/
def Json.Number.param : Json.Number → Param
  | .int n =>
    if Int64.minValue.toInt ≤ n ∧ n ≤ Int64.maxValue.toInt then .int (Int64.ofInt n)
    else .float (.ofInt n)
  | .double x => .float x

mutual

/-- The argument that a JSON value stands for. -/
def Param.ofJson : Json → Except ArgError Param
  | .null => .ok .null
  | .bool b => .error (.boolean b)
  | .number n => .ok n.param
  | .string s => .ok (.text s)
  | .array items =>
    match paramsOfJson items with
    | .ok params => .ok (.list params)
    | .error error => .error error
  | .object members => .error (.object (Json.write (.object members)))

/-- The arguments that JSON values stand for, or the error of the first that stands for none. -/
def paramsOfJson : List Json → Except ArgError (List Param)
  | [] => .ok []
  | item :: rest =>
    match Param.ofJson item with
    | .error error => .error error
    | .ok param =>
      match paramsOfJson rest with
      | .ok params => .ok (param :: params)
      | .error error => .error error

end

end Traversal
