import Traversal.ClientOp
import Traversal.Step.Lookup

/-! # Queries as chains

A query is a chain of links: a root, then steps and client operators, the newest outermost. An
argument of a step may itself be a chain, so arguments and chains are defined together. -/

namespace Traversal

/-- Stands for the endpoint that a chain is sent to. -/
abbrev GraphId := Nat

mutual

/-- An argument of a step. -/
inductive Param where
  | null
  | text (value : String)
  | int (value : Int64)
  | float (value : Binary64)
  | list (items : List Param)
  | query (chain : Chain)

inductive Chain where
  | vertex (graph : GraphId) (args : List Param)
  | morphism (graph : GraphId)
  | step (pred : Chain) (kind : StepKind) (args : List Param)
  | client (pred : Chain) (op : ClientOp)

end

instance : Inhabited Param := ⟨.null⟩

namespace Param

def kind : Param → ParamKind
  | null => .null
  | text _ => .string
  | int _ => .integer
  | float _ => .float
  | list _ => .sequence
  | query _ => .query

def query? : Param → Option Chain
  | query chain => some chain
  | _ => none

end Param

namespace Chain

def pred? : Chain → Option Chain
  | vertex .. | morphism _ => none
  | step pred .. => some pred
  | client pred _ => some pred

/-- The kind of the newest link, unless it is a client operator. -/
def kind? : Chain → Option StepKind
  | vertex .. => some .vertex
  | morphism _ => some .morphism
  | step _ kind _ => some kind
  | client .. => none

def graph : Chain → GraphId
  | vertex g _ => g
  | morphism g => g
  | step pred .. => pred.graph
  | client pred _ => pred.graph

/-- The chain starts at a morphism and so can be followed. -/
def isMorphism : Chain → Bool
  | vertex .. => false
  | morphism _ => true
  | step pred .. => pred.isMorphism
  | client pred _ => pred.isMorphism

/-- The newest step, if it is a terminal one; client operators after it do not count. -/
def terminal? : Chain → Option StepKind
  | vertex .. | morphism _ => none
  | step _ kind _ => if kind.rule.terminal then some kind else none
  | client pred _ => pred.terminal?

/-- The chain can be executed. -/
def isTerminal (c : Chain) : Bool := c.terminal?.isSome

/-- The client operators, root first. -/
def clientOps : Chain → List ClientOp
  | vertex .. | morphism _ => []
  | step pred .. => pred.clientOps
  | client pred op => pred.clientOps ++ [op]

end Chain

end Traversal
