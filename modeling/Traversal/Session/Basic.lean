import Traversal.Session.Query

/-! # Sessions

A session holds the links made so far with their status, and what has been submitted. Links are
added and never change but in their status. -/

namespace Traversal

structure Entry where
  query : Query
  status : Status

/-- A query text that went out, and the phases of all links at that moment. -/
structure Submission where
  graph : GraphId
  text : String
  phases : List Phase
deriving DecidableEq, Repr

structure Session where
  /-- The entry at position `n` is that of the link with number `n`. -/
  entries : List Entry := []
  /-- In the order of time. -/
  log : List Submission := []

namespace Session

def status (s : Session) (id : LinkId) : Status :=
  match s.entries[id]? with
  | some entry => entry.status
  | none => .unexecuted

def phase (s : Session) (id : LinkId) : Phase := (s.status id).phase

def phases (s : Session) : List Phase := s.entries.map (·.status.phase)

def setStatus (s : Session) (id : LinkId) (status : Status) : Session :=
  { s with entries := s.entries.modify id fun entry => { entry with status } }

/-- Logs a text that is sent to a graph. -/
def submit (s : Session) (graph : GraphId) (text : String) : Session :=
  { s with log := s.log ++ [⟨graph, text, s.phases⟩] }

/-- The texts sent to a graph so far. -/
def textsTo (s : Session) (graph : GraphId) : List String :=
  (s.log.filter (·.graph == graph)).map (·.text)

/-! ## Building -/

/-- Adds the link that `make` gives the next free number. -/
def addLink (s : Session) (make : LinkId → Query) : Query × Session :=
  let query := make s.entries.length
  (query, { s with entries := s.entries ++ [⟨query, .unexecuted⟩] })

def vertex (s : Session) (graph : GraphId) (args : List Param) : Query × Session :=
  s.addLink fun id => .vertex id graph args

def morphism (s : Session) (graph : GraphId) : Query × Session :=
  s.addLink fun id => .morphism id graph

/-- Adds a step asked for by the given name, unless the chain refuses it. -/
def extend (s : Session) (q : Query) (kind : StepKind) (attempted : String) (args : List Param) :
    Except UsageError (Query × Session) :=
  match q.chain.refusal? kind attempted args with
  | some error => .error error
  | none => .ok (s.addLink fun id => .step id q kind args)

def addNamed (s : Session) (q : Query) (name : String) (args : List Param) :
    Except UsageError (Query × Session) :=
  match StepKind.ofName name with
  | .ok kind => s.extend q kind name args
  | .error error => .error error

def add (s : Session) (q : Query) (kind : StepKind) (args : List Param) :
    Except UsageError (Query × Session) :=
  s.extend q kind kind.name args

def call (s : Session) (q : Query) (call : Call) : Except UsageError (Query × Session) :=
  s.add q call.kind call.args

def client (s : Session) (q : Query) (op : ClientOp) : Query × Session :=
  s.addLink fun id => .client id q op

end Session

/-- The query for inspection. -/
def Query.shown (q : Query) (phase : Phase) : String :=
  "Query \x7b query: " ++ Text.shown q.chain.text
    ++ ", tags: " ++ Text.shownList q.chain.tags
    ++ ", morphism: " ++ (if q.chain.isMorphism then "true" else "false")
    ++ ", phase: " ++ phase.name ++ " \x7d"

end Traversal
