import Traversal.Chain.Extend

/-! # Typed calls

The steps with their arguments by type. A call can still be refused: a chain may be terminal, a
followed chain may not be a morphism, labels may be neither text nor list. -/

namespace Traversal

inductive Call where
  | inward (predicate : Param)
  | inwardTagged (predicate tags : Param)
  | outward (predicate : Param)
  | outwardTagged (predicate tags : Param)
  | both (predicate : Param)
  | bothTagged (predicate tags : Param)
  | is (node : Param)
  | has (predicate object : String)
  | tag (labels : Param)
  | save (predicate tag : String)
  | back (tag : String)
  | follow (morphism : Chain)
  | followR (morphism : Chain)
  | intersect (other : Chain)
  | union (other : Chain)
  | all
  | getLimit (count : Int64)

namespace Call

def kind : Call → StepKind
  | inward _ | inwardTagged .. => .inward
  | outward _ | outwardTagged .. => .outward
  | both _ | bothTagged .. => .both
  | is _ => .is
  | has .. => .has
  | tag _ => .tag
  | save .. => .save
  | back _ => .back
  | follow _ => .follow
  | followR _ => .followR
  | intersect _ => .intersect
  | union _ => .union
  | all => .all
  | getLimit _ => .getLimit

def args : Call → List Param
  | inward predicate | outward predicate | both predicate => [predicate]
  | inwardTagged predicate tags | outwardTagged predicate tags | bothTagged predicate tags =>
    [predicate, tags]
  | is node => [node]
  | has predicate object => [.text predicate, .text object]
  | tag labels => [labels]
  | save predicate name => [.text predicate, .text name]
  | back name => [.text name]
  | follow morphism | followR morphism => [.query morphism]
  | intersect other | union other => [.query other]
  | all => []
  | getLimit count => [.int count]

end Call

def Chain.call (c : Chain) (call : Call) : Except UsageError Chain :=
  c.add call.kind call.args

end Traversal
