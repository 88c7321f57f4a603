import Traversal.Session.Read

/-! # Taking a chain into a session

Every link of the chain gets a number of its own, the root first. -/

namespace Traversal.Session

def adopt (s : Session) : Chain → Query × Session
  | .vertex graph args => s.vertex graph args
  | .morphism graph => s.morphism graph
  | .step pred kind args =>
    let (q, s) := s.adopt pred
    s.addLink fun id => .step id q kind args
  | .client pred op =>
    let (q, s) := s.adopt pred
    s.client q op

end Traversal.Session
