import Traversal.Crash
import Traversal.Json.Writer
import Traversal.Text.Shown

/-! # Records

One result of a query: values under tags, in the order of the tags of the query. -/

namespace Traversal

structure Record where
  fields : List (String × String)
deriving DecidableEq, Repr

namespace Record

/-- Drops every field whose tag a field before it has; `seen` holds the tags so far. -/
def firstFields (seen : List String) : List (String × String) → List (String × String)
  | [] => []
  | (tag, value) :: rest =>
    if tag ∈ seen then firstFields seen rest
    else (tag, value) :: firstFields (tag :: seen) rest

/-- The record with the given fields, of which the first one of each tag counts. -/
def ofFields (fields : List (String × String)) : Record :=
  ⟨firstFields [] fields⟩

def get? (r : Record) (tag : String) : Option String :=
  r.fields.lookup tag

/-- The value under the tag; asking for a tag that is not there breaks off. -/
def field (r : Record) (tag : String) : Except Crash String :=
  match r.get? tag with
  | some value => .ok value
  | none => .error (.noSuchTag tag)

def id? (r : Record) : Option String := r.get? "id"

def tags (r : Record) : List String := r.fields.map (·.1)

def size (r : Record) : Nat := r.fields.length

def isEmpty (r : Record) : Bool := r.fields.isEmpty

/-- Changes every value and keeps the tags and their order. -/
def mapValues (f : String → String) (r : Record) : Record :=
  ⟨r.fields.map fun (tag, value) => (tag, f value)⟩

/-- The order of two lists of fields: the first difference decides, tag before value. -/
def compareFields : List (String × String) → List (String × String) → Ordering
  | [], [] => .eq
  | [], _ :: _ => .lt
  | _ :: _, [] => .gt
  | (tag, value) :: rest, (tag', value') :: rest' =>
    ((compareOfLessAndEq tag tag').then (compareOfLessAndEq value value')).then
      (compareFields rest rest')

def compare (r s : Record) : Ordering := compareFields r.fields s.fields

/-- The record as a JSON object, with its fields in their order. -/
def json (r : Record) : String :=
  Json.write (.object (r.fields.map fun (tag, value) => (tag, .string value)))

def shownField (field : String × String) : String :=
  "(" ++ Text.shown field.1 ++ ", " ++ Text.shown field.2 ++ ")"

/-- The record for inspection. -/
def shown (r : Record) : String :=
  "Record \x7b fields: [" ++ ", ".intercalate (r.fields.map shownField) ++ "] \x7d"

end Record

end Traversal
