import Traversal.Rdf
import Traversal.Regex.Basic
import Traversal.ResultSet

/-! # Client operators

What is done to results after the server has answered. Tests and changes of records may be given by
the caller and may break off, and then the operator does. -/

namespace Traversal

/-- A test of records. -/
inductive Predicate where
  | tagEquals (tag value : String)
  | tagMatches (tag : String) (pattern : Regex)
  /-- No field is a literal in another language. -/
  | language (language : String)
  | negation (inner : Predicate)
  | custom (test : Record → Except Crash Bool)

/-- A change of records. -/
inductive Transform where
  /-- Cleans every value; see `Rdf.clean`. -/
  | cleanRdf (language : String)
  | custom (change : Record → Except Crash Record)

inductive ClientOp where
  /-- Drops repeated records and keeps the first of each. -/
  | distinct
  | filter (predicate : Predicate)
  | map (transform : Transform)

namespace Predicate

def test : Predicate → Record → Except Crash Bool
  | tagEquals tag value, r => .ok (r.get? tag == some value)
  | tagMatches tag pattern, r => .ok ((r.get? tag).any pattern.found)
  | language l, r => .ok (Rdf.matchesLanguage l r)
  | negation inner, r => (inner.test r).map (!·)
  | custom test, r => test r

def shown : Predicate → String
  | tagEquals tag value => "TagEquals(" ++ tag ++ " == " ++ Text.shown value ++ ")"
  | tagMatches tag pattern => "TagMatches(" ++ tag ++ " ~ /" ++ pattern.source ++ "/)"
  | language l => "Language(" ++ l ++ ")"
  | negation inner => "Not(" ++ inner.shown ++ ")"
  | custom _ => "Func(..)"

end Predicate

namespace Transform

def apply : Transform → Record → Except Crash Record
  | cleanRdf language, r => .ok (Rdf.cleanRecord language r)
  | custom change, r => change r

def shown : Transform → String
  | cleanRdf language => "CleanRdf(" ++ language ++ ")"
  | custom _ => "Func(..)"

end Transform

/-- The records that pass the test, unless the test breaks off. -/
def keepRecords (test : Record → Except Crash Bool) : List Record → Except Crash (List Record)
  | [] => .ok []
  | r :: rest =>
    match test r with
    | .error crash => .error crash
    | .ok keep =>
      match keepRecords test rest with
      | .error crash => .error crash
      | .ok kept => .ok (if keep then r :: kept else kept)

/-- All records changed, unless the change breaks off. -/
def changeRecords (change : Record → Except Crash Record) :
    List Record → Except Crash (List Record)
  | [] => .ok []
  | r :: rest =>
    match change r with
    | .error crash => .error crash
    | .ok changed =>
      match changeRecords change rest with
      | .error crash => .error crash
      | .ok others => .ok (changed :: others)

/-- The first of each group of equal records; `seen` holds the records so far. -/
def firstRecords (seen : List Record) : List Record → List Record
  | [] => []
  | r :: rest =>
    if r ∈ seen then firstRecords seen rest else r :: firstRecords (r :: seen) rest

def dropRepeated (records : List Record) : ResultSet :=
  ⟨firstRecords [] records, true⟩

namespace ClientOp

def name : ClientOp → String
  | distinct => "distinct"
  | filter _ => "filter"
  | map _ => "map"

def shown : ClientOp → String
  | distinct => "Distinct"
  | filter predicate => "Filter(" ++ predicate.shown ++ ")"
  | map transform => "Map(" ++ transform.shown ++ ")"

/-- A change can make different records equal, so a set without repeated records is freed of them
again. -/
def apply : ClientOp → ResultSet → Except Crash ResultSet
  | distinct, set => .ok (dropRepeated set.records)
  | filter predicate, set =>
    match keepRecords predicate.test set.records with
    | .ok kept => .ok ⟨kept, set.distinct⟩
    | .error crash => .error crash
  | map transform, set =>
    match changeRecords transform.apply set.records with
    | .ok changed => .ok (if set.distinct then dropRepeated changed else .ofRecords changed)
    | .error crash => .error crash

/-- Applies operators one after the other. -/
def applyAll : List ClientOp → ResultSet → Except Crash ResultSet
  | [], set => .ok set
  | op :: rest, set =>
    match op.apply set with
    | .ok next => applyAll rest next
    | .error crash => .error crash

end ClientOp

end Traversal
