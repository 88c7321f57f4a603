import Traversal.Chain.Call
import Traversal.Reply

/-! # Queries with identity

Two links can be alike and still be two links, each executed on its own. A query is a chain in which
every link has a number. -/

namespace Traversal

abbrev LinkId := Nat

inductive Query where
  | vertex (id : LinkId) (graph : GraphId) (args : List Param)
  | morphism (id : LinkId) (graph : GraphId)
  | step (id : LinkId) (pred : Query) (kind : StepKind) (args : List Param)
  | client (id : LinkId) (pred : Query) (op : ClientOp)

namespace Query

/-- The number of the newest link. -/
def id : Query → LinkId
  | vertex id .. | morphism id _ | step id .. | client id .. => id

/-- The chain without its numbers. -/
def chain : Query → Chain
  | vertex _ graph args => .vertex graph args
  | morphism _ graph => .morphism graph
  | step _ pred kind args => .step pred.chain kind args
  | client _ pred op => .client pred.chain op

def pred? : Query → Option Query
  | vertex .. | morphism .. => none
  | step _ pred .. => some pred
  | client _ pred _ => some pred

/-- Both are handles on one link. -/
def sameLink (a b : Query) : Bool := a.id == b.id

end Query

/-- What is known about the execution of a link. -/
inductive Status where
  | unexecuted
  | executing
  | cached (set : ResultSet)
  | failed (error : QueryError)
deriving DecidableEq, Repr

/-- A status without what it holds. -/
inductive Phase where
  | unexecuted | executing | cached | failed
deriving DecidableEq, Repr

def Status.phase : Status → Phase
  | unexecuted => .unexecuted
  | executing => .executing
  | cached _ => .cached
  | failed _ => .failed

def Phase.name : Phase → String
  | unexecuted => "Unexecuted"
  | executing => "Executing"
  | cached => "Cached"
  | failed => "Failed"

/-- What reading a query gives. -/
abbrev Outcome := Except QueryError ResultSet

/-- The status that an outcome leaves behind. -/
def Status.ofOutcome : Outcome → Status
  | .ok set => cached set
  | .error error => failed error

end Traversal
