import Traversal.Proofs.Session.Fetch

/-! # Runs

A caller builds links on any number of graphs, looks at them and reads them, in any order and any
number of times. Whatever the caller does next either changes nothing, adds one link or reads one,
and executes at most one terminal step. -/

namespace Traversal

/-- What a caller does next. Links are named by their numbers, so that a copy of a handle names the
same link; arguments may embed any chain, also one on another graph. -/
inductive Action where
  | vertex (graph : GraphId) (args : List Param)
  | morphism (graph : GraphId)
  | addNamed (link : LinkId) (name : String) (args : List Param)
  | add (link : LinkId) (kind : StepKind) (args : List Param)
  | call (link : LinkId) (call : Call)
  | client (link : LinkId) (op : ClientOp)
  | clone (link : LinkId)
  | pred (link : LinkId)
  | inspect (link : LinkId)
  | read (link : LinkId)

/-- What the caller gets. -/
inductive Answer where
  /-- There is no such link. -/
  | noLink
  | handle (query : Query)
  | refused (error : UsageError)
  | shown (text : String)
  | attempt (attempt : Attempt)

/-- A terminal step that has been executed, and the reply to its text. -/
structure Exchange where
  query : Query
  reply : Reply

/-- The replies to one link, in the order of time. -/
def repliesTo (sent : List Exchange) (link : LinkId) : List Reply :=
  (sent.filter (·.query.id == link)).map (·.reply)

namespace Session

/-- Does something with a link, if it is there. -/
def atLink (s : Session) (link : LinkId) (use : Query → Answer × Session) : Answer × Session :=
  match s.queries[link]? with
  | some q => use q
  | none => (.noLink, s)

/-- The answer to a builder; one that is refused leaves the session as it was. -/
def answerBuilt (s : Session) : Except UsageError (Query × Session) → Answer × Session
  | .ok (q, t) => (.handle q, t)
  | .error error => (.refused error, s)

def act (net : Network) (s : Session) : Action → Answer × Session
  | .vertex graph args => s.answerBuilt (.ok (s.vertex graph args))
  | .morphism graph => s.answerBuilt (.ok (s.morphism graph))
  | .addNamed link name args => s.atLink link fun q => s.answerBuilt (s.addNamed q name args)
  | .add link kind args => s.atLink link fun q => s.answerBuilt (s.add q kind args)
  | .call link call => s.atLink link fun q => s.answerBuilt (s.call q call)
  | .client link op => s.atLink link fun q => s.answerBuilt (.ok (s.client q op))
  | .clone link => s.atLink link fun q => (.handle q, s)
  | .pred link => s.atLink link fun q =>
    match q.pred? with
    | some p => (.handle p, s)
    | none => (.noLink, s)
  | .inspect link => s.atLink link fun q => (.shown (q.shown (s.phase q.id)), s)
  | .read link => s.atLink link fun q => (.attempt (s.read net q).1, (s.read net q).2)

/-- The terminal steps that are unexecuted in the one session and no longer in the other. -/
def executed (s t : Session) : List Query :=
  t.queries.filter fun q =>
    q.isTerminalStep && s.phase q.id == .unexecuted && t.phase q.id != .unexecuted

/-- The terminal steps that an action executes, each with what its graph replies at that point. -/
def exchanged (net : Network) (s : Session) (a : Action) : List Exchange :=
  (s.executed (s.act net a).2).map fun q => ⟨q, net.replyTo s q.chain⟩

/-! ## Several actions -/

/-- The session after some actions. -/
def run (net : Network) (s : Session) : List Action → Session
  | [] => s
  | a :: rest => run net (s.act net a).2 rest

/-- The answers to some actions. -/
def answers (net : Network) (s : Session) : List Action → List Answer
  | [] => []
  | a :: rest => (s.act net a).1 :: answers net (s.act net a).2 rest

/-- The terminal steps that some actions execute, in the order in which they do. -/
def exchanges (net : Network) (s : Session) : List Action → List Exchange
  | [] => []
  | a :: rest => s.exchanged net a ++ exchanges net (s.act net a).2 rest

/-! ## What one action does -/

/-- The links that can be added next: they have the next number and follow a link that is there, and
a step is one that the chain before it does not refuse. -/
inductive Admits (s : Session) : Query → Prop
  | vertex (graph : GraphId) (args : List Param) : Admits s (.vertex s.queries.length graph args)
  | morphism (graph : GraphId) : Admits s (.morphism s.queries.length graph)
  | step {pred : Query} {kind : StepKind} {attempted : String} {args : List Param}
      (hp : s.Has pred) (h : pred.chain.refusal? kind attempted args = none) :
      Admits s (.step s.queries.length pred kind args)
  | client {pred : Query} (op : ClientOp) (hp : s.Has pred) :
      Admits s (.client s.queries.length pred op)

/-- All that an action can do. -/
inductive Moves (net : Network) (s : Session) : Action → Answer → Session → Prop
  | stays {a : Action} {answer : Answer} (h : ∀ attempt, answer ≠ .attempt attempt) :
      Moves net s a answer s
  | builds {a : Action} {q : Query} (h : s.Admits q) : Moves net s a (.handle q) (s.push q)
  | reads {q : Query} (h : s.Has q) :
      Moves net s (.read q.id) (.attempt (s.read net q).1) (s.read net q).2

theorem addLink_eq (s : Session) (make : LinkId → Query) :
    s.addLink make = (make s.queries.length, s.push (make s.queries.length)) := by
  simp [addLink, push, queries]

section Act

variable {net : Network} {s : Session}

/-- Whatever is done at a link is one of these moves if it is at every link that is there. -/
theorem atLink_moves (wf : s.WellFormed) {a : Action} {link : LinkId}
    {use : Query → Answer × Session}
    (h : ∀ q, s.Has q → q.id = link → Moves net s a (use q).1 (use q).2) :
    Moves net s a (s.atLink link use).1 (s.atLink link use).2 := by
  unfold atLink
  cases hq : s.queries[link]? with
  | some q => exact h q (wf.has hq) (wf.id_eq link q hq)
  | none => exact .stays (by simp)

theorem extend_moves {a : Action} {q : Query} (hq : s.Has q) (kind : StepKind)
    (attempted : String) (args : List Param) :
    Moves net s a (s.answerBuilt (s.extend q kind attempted args)).1
      (s.answerBuilt (s.extend q kind attempted args)).2 := by
  unfold extend
  cases h : q.chain.refusal? kind attempted args with
  | some error => exact .stays (by simp [answerBuilt])
  | none =>
    rw [addLink_eq]
    exact .builds (.step hq h)

theorem act_moves (wf : s.WellFormed) (a : Action) :
    Moves net s a (s.act net a).1 (s.act net a).2 := by
  cases a with
  | vertex graph args =>
    simp only [act, answerBuilt, vertex, addLink_eq]
    exact .builds (.vertex graph args)
  | morphism graph =>
    simp only [act, answerBuilt, morphism, addLink_eq]
    exact .builds (.morphism graph)
  | addNamed link name args =>
    refine atLink_moves wf fun q hq _ => ?_
    unfold addNamed
    cases StepKind.ofName name with
    | ok kind => exact extend_moves hq kind name args
    | error error => exact .stays (by simp [answerBuilt])
  | add link kind args => exact atLink_moves wf fun q hq _ => extend_moves hq kind kind.name args
  | call link call =>
    exact atLink_moves wf fun q hq _ => extend_moves hq call.kind call.kind.name call.args
  | client link op =>
    refine atLink_moves wf fun q hq _ => ?_
    simp only [answerBuilt, client, addLink_eq]
    exact .builds (.client op hq)
  | clone link => exact atLink_moves wf fun q _ _ => .stays (by simp)
  | pred link =>
    refine atLink_moves wf fun q _ _ => ?_
    cases q.pred? with
    | some p => exact .stays (by simp)
    | none => exact .stays (by simp)
  | inspect link => exact atLink_moves wf fun q _ _ => .stays (by simp)
  | read link =>
    refine atLink_moves wf fun q hq he => ?_
    subst he
    exact .reads hq

theorem act_read {q : Query} (hq : s.Has q) :
    s.act net (.read q.id) = (.attempt (s.read net q).1, (s.read net q).2) := by
  unfold Has at hq
  simp only [act, atLink, hq]

/-! ## What an action keeps -/

theorem Admits.id_eq {q : Query} (h : s.Admits q) : q.id = s.queries.length := by
  cases h <;> rfl

theorem Admits.has_pred {q p : Query} (h : s.Admits q) (hp : q.pred? = some p) : s.Has p := by
  cases h with
  | vertex | morphism => cases hp
  | step h _ | client _ h =>
    obtain rfl := Option.some.inj hp
    exact h

theorem Has.push {q : Query} (h : s.Has q) (new : Query) : (s.push new).Has q := by
  unfold Has
  rw [queries_push, List.getElem?_append_left h.lt]
  exact h

theorem has_of_push {q new : Query} (h : (s.push new).Has q) : s.Has q ∨ q = new := by
  unfold Has at h
  rw [queries_push] at h
  rcases getElem?_concat_cases h with ⟨_, h⟩ | ⟨_, rfl⟩
  · exact .inl h
  · exact .inr rfl

theorem Admits.wellFormed_push {new : Query} (h : s.Admits new) (wf : s.WellFormed) :
    (s.push new).WellFormed where
  id_eq n q hq := by
    rw [queries_push] at hq
    rcases getElem?_concat_cases hq with ⟨_, hq⟩ | ⟨rfl, rfl⟩
    · exact wf.id_eq n q hq
    · exact h.id_eq
  pred q p hq hp := by
    rcases has_of_push hq with hq | rfl
    · exact ⟨(wf.pred q p hq hp).1.push new, (wf.pred q p hq hp).2⟩
    · have := h.has_pred hp
      exact ⟨this.push q, h.id_eq ▸ this.lt⟩

namespace Moves

variable {a : Action} {answer : Answer} {t : Session}

theorem wellFormed (h : Moves net s a answer t) (wf : s.WellFormed) : t.WellFormed := by
  cases h with
  | stays => exact wf
  | builds h => exact h.wellFormed_push wf
  | @reads q h =>
    rcases read_cases net q s with ⟨_, course⟩ | ⟨_, he⟩
    · exact wf.of_queries_eq course.queries_eq
    · rw [he]
      exact wf

theorem has (h : Moves net s a answer t) {q : Query} (hq : s.Has q) : t.Has q := by
  cases h with
  | stays => exact hq
  | builds h => exact hq.push _
  | @reads r h =>
    rcases read_cases net r s with ⟨_, course⟩ | ⟨_, he⟩
    · exact hq.of_queries_eq course.queries_eq
    · rw [he]
      exact hq

/-- A link that has been executed, or whose execution has broken off, keeps its status. -/
theorem status_of_executed (h : Moves net s a answer t) {id : LinkId}
    (hid : s.status id ≠ .unexecuted) : t.status id = s.status id := by
  cases h with
  | stays => rfl
  | builds => exact status_push s _ id
  | @reads q h =>
    rcases read_cases net q s with ⟨_, course⟩ | ⟨_, he⟩
    · exact course.status_of_executed hid
    · rw [he]

/-- A link that is not terminal keeps its status. -/
theorem status_of_not_terminal (h : Moves net s a answer t) (wf : s.WellFormed) {q : Query}
    (hq : t.Has q) (hn : q.chain.isTerminal = false) : t.status q.id = s.status q.id := by
  cases h with
  | stays => rfl
  | builds => exact status_push s _ q.id
  | @reads r h =>
    rcases read_cases net r s with ⟨hr, course⟩ | ⟨_, he⟩
    · refine course.status_of_not_layer fun c hc hid => ?_
      have heq : c = q :=
        (wf.layers h hc).1.eq_of_id_eq (hq.of_queries_eq course.queries_eq.symm) hid
      have := Query.isTerminal_of_mem_layers hc hr
      rw [heq, hn] at this
      cases this
    · rw [he]

end Moves

end Act

/-! ## What a run keeps -/

section Run

variable {net : Network} {s : Session}

theorem run_append (before after : List Action) :
    run net s (before ++ after) = run net (run net s before) after := by
  induction before generalizing s with
  | nil => rfl
  | cons a rest ih => exact ih

theorem exchanges_append (before after : List Action) :
    exchanges net s (before ++ after) =
      exchanges net s before ++ exchanges net (run net s before) after := by
  induction before generalizing s with
  | nil => rfl
  | cons a rest ih => simp only [List.cons_append, exchanges, run, ih, List.append_assoc]

theorem exchanges_concat (actions : List Action) (a : Action) :
    exchanges net s (actions ++ [a]) =
      exchanges net s actions ++ (run net s actions).exchanged net a := by
  simp [exchanges_append, exchanges]

/-- What holds of a session and a list of exchanges, and is kept by every action as it adds its own
exchanges, is kept by a run. -/
theorem run_induction {P : List Exchange → Session → Prop}
    (step : ∀ sent s a, s.WellFormed → P sent s → P (sent ++ s.exchanged net a) (s.act net a).2)
    (actions : List Action) (sent : List Exchange) (wf : s.WellFormed) (h : P sent s) :
    P (sent ++ exchanges net s actions) (run net s actions) := by
  induction actions generalizing s sent with
  | nil => simpa [exchanges, run] using h
  | cons a rest ih =>
    have move : Moves net s a _ _ := act_moves wf a
    simpa only [exchanges, run, List.append_assoc] using
      ih _ (move.wellFormed wf) (step sent s a wf h)

theorem run_wellFormed (wf : s.WellFormed) (actions : List Action) :
    (run net s actions).WellFormed :=
  run_induction (P := fun _ t => t.WellFormed)
    (fun _ _ a wf _ => (act_moves wf a).wellFormed wf) actions [] wf wf

theorem run_has (wf : s.WellFormed) {q : Query} (hq : s.Has q) (actions : List Action) :
    (run net s actions).Has q :=
  run_induction (P := fun _ t => t.Has q) (fun _ _ a wf h => (act_moves wf a).has h) actions [] wf hq

theorem run_status_of_executed (wf : s.WellFormed) {id : LinkId}
    (hid : s.status id ≠ .unexecuted) (actions : List Action) :
    (run net s actions).status id = s.status id :=
  run_induction (P := fun _ t => t.status id = s.status id)
    (fun _ _ a wf h => ((act_moves wf a).status_of_executed (by rwa [h])).trans h) actions [] wf rfl

theorem run_status_of_not_terminal (wf : s.WellFormed) {q : Query} (hq : s.Has q)
    (hn : q.chain.isTerminal = false) (actions : List Action) :
    (run net s actions).status q.id = s.status q.id :=
  (run_induction (P := fun _ t => t.Has q ∧ t.status q.id = s.status q.id)
    (fun _ _ a wf h => by
      have move : Moves net _ a _ _ := act_moves wf a
      have hq := move.has h.1
      exact ⟨hq, (move.status_of_not_terminal wf hq hn).trans h.2⟩) actions [] wf ⟨hq, rfl⟩).2

end Run

end Session

end Traversal
