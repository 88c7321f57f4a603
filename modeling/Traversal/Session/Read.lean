import Traversal.Session.Basic

/-! # Reading queries

A query is executed when it is read first, and keeps its outcome. A client operator after a terminal
step reads the query before it and applies itself, so both share one submission. A link whose
execution has broken off is left executing, and reading it again says so. -/

namespace Traversal

/-- What the endpoint of a graph answers to a text, given the texts sent to it before. -/
abbrev Transport := List String → String → Reply

/-- Each graph with its transport. -/
abbrev Network := GraphId → Transport

/-- The outcome of a read, unless code given by the caller broke it off. -/
abbrev Attempt := Except Crash Outcome

/-- What a reply to a chain comes to: its records after the client operators written before and
after the terminal step. -/
def Reply.settle (c : Chain) : Reply → Attempt
  | .crash cause => .error cause
  | .failure cause => .ok (.error (.transport cause))
  | .answer response =>
    match response.interpret c.tags with
    | .error cause => .ok (.error cause)
    | .ok set =>
      match ClientOp.applyAll c.clientOps set with
      | .ok final => .ok (.ok final)
      | .error cause => .error cause

/-- What an operator makes of the outcome of the query before it. -/
def ClientOp.settle (op : ClientOp) : Attempt → Attempt
  | .ok (.ok base) =>
    match op.apply base with
    | .ok set => .ok (.ok set)
    | .error crash => .error crash
  | .ok (.error error) => .ok (.error error)
  | .error crash => .error crash

namespace Session

/-- Runs an execution of a link that has not been executed. While it runs the link is executing; a
link that has been executed keeps what it has. -/
def once (id : LinkId) (run : Session → Attempt × Session) (s : Session) : Attempt × Session :=
  match s.status id with
  | .cached set => (.ok (.ok set), s)
  | .failed error => (.ok (.error error), s)
  | .executing => (.ok (.error (.transport .interrupted)), s)
  | .unexecuted =>
    match run (s.setStatus id .executing) with
    | (.ok outcome, s) => (.ok outcome, s.setStatus id (.ofOutcome outcome))
    | (.error crash, s) => (.error crash, s)

/-- Sends a chain and settles the reply. -/
def send (net : Network) (c : Chain) (s : Session) : Attempt × Session :=
  ((net c.graph (s.textsTo c.graph) c.text).settle c, s.submit c.graph c.text)

/-- Reads a query that is terminal. -/
def fetch (net : Network) : Query → Session → Attempt × Session
  | .client id pred op, s =>
    once id (fun s => let (attempt, s) := fetch net pred s; (op.settle attempt, s)) s
  | .step id pred kind args, s => once id (send net (.step pred.chain kind args)) s
  | .vertex id graph args, s => once id (send net (.vertex graph args)) s
  | .morphism id graph, s => once id (send net (.morphism graph)) s

/-- Reads a query. -/
def read (net : Network) (q : Query) (s : Session) : Attempt × Session :=
  if q.chain.isTerminal then fetch net q s
  else (.ok (.error (.usage (.notExecutable q.chain.text q.chain.isMorphism))), s)

end Session

end Traversal
