import Traversal.Session.Read

/-! # The links of a session

What the operations of a session do to its links and to their statuses. Links are only added, each
has the number of its position, and a new link follows links that are there. -/

namespace Traversal

namespace Query

/-- The newest step, under the client operators after it. -/
def newestStep : Query → Query
  | client _ pred _ => pred.newestStep
  | q => q

/-- The query, and what is under its client operators one by one down to the newest step. -/
def layers : Query → List Query
  | client id pred op => client id pred op :: pred.layers
  | q => [q]

/-- The newest link is a terminal step. -/
def isTerminalStep (q : Query) : Bool := q.chain.kind?.any fun kind => kind.rule.terminal

theorem newestStep_of_kind {q : Query} {kind : StepKind} (h : q.chain.kind? = some kind) :
    q.newestStep = q := by
  cases q with
  | client => cases h
  | vertex | morphism | step => rfl

theorem layers_of_kind {q : Query} {kind : StepKind} (h : q.chain.kind? = some kind) :
    q.layers = [q] := by
  cases q with
  | client => cases h
  | vertex | morphism | step => rfl

theorem mem_layers_self (q : Query) : q ∈ q.layers := by
  cases q <;> simp [layers]

theorem newestStep_mem_layers (q : Query) : q.newestStep ∈ q.layers := by
  induction q with
  | client id pred op ih => exact List.mem_cons_of_mem _ ih
  | vertex | morphism | step => exact List.mem_cons_self

theorem isTerminal_eq (q : Query) : q.chain.isTerminal = q.newestStep.isTerminalStep := by
  induction q with
  | client id pred op ih => exact ih
  | vertex | morphism => rfl
  | step id pred kind args =>
    simp only [chain, Chain.isTerminal, Chain.terminal?, newestStep, isTerminalStep, Chain.kind?,
      Option.any_some]
    cases kind.rule.terminal <;> rfl

theorem newestStep_text (q : Query) : q.newestStep.chain.text = q.chain.text := by
  induction q with
  | client id pred op ih => simp [newestStep, chain, Chain.text, ih]
  | vertex | morphism | step => rfl

theorem newestStep_graph (q : Query) : q.newestStep.chain.graph = q.chain.graph := by
  induction q with
  | client id pred op ih => exact ih
  | vertex | morphism | step => rfl

/-- With an operator's link the one under it is a layer. -/
theorem base_mem_layers {q base : Query} {id : LinkId} {op : ClientOp}
    (hc : client id base op ∈ q.layers) : base ∈ q.layers := by
  induction q with
  | client own pred op' ih =>
    rcases List.mem_cons.mp hc with he | hc
    · cases he
      exact List.mem_cons_of_mem _ base.mem_layers_self
    · exact List.mem_cons_of_mem _ (ih hc)
  | vertex | morphism | step => cases List.mem_singleton.mp hc

/-- The layers of a terminal query are terminal. -/
theorem isTerminal_of_mem_layers {q c : Query} (hc : c ∈ q.layers)
    (h : q.chain.isTerminal = true) : c.chain.isTerminal = true := by
  induction q with
  | client id pred op ih =>
    rcases List.mem_cons.mp hc with rfl | hc
    · exact h
    · exact ih hc h
  | vertex | morphism | step =>
    obtain rfl := List.mem_singleton.mp hc
    exact h

theorem newestStep_of_mem_layers {q c : Query} (hc : c ∈ q.layers) :
    c.newestStep = q.newestStep := by
  induction q with
  | client id pred op ih =>
    rcases List.mem_cons.mp hc with rfl | hc
    · rfl
    · exact ih hc
  | vertex | morphism | step =>
    obtain rfl := List.mem_singleton.mp hc
    rfl

/-- The layers have no operators that the query has not. -/
theorem clientOps_of_mem_layers {q c : Query} (hc : c ∈ q.layers) :
    c.chain.clientOps ⊆ q.chain.clientOps := by
  induction q with
  | client id pred op ih =>
    rcases List.mem_cons.mp hc with rfl | hc
    · exact List.Subset.refl _
    · exact List.Subset.trans (ih hc) (List.subset_append_left _ _)
  | vertex | morphism | step =>
    obtain rfl := List.mem_singleton.mp hc
    exact List.Subset.refl _

/-- Among the layers only the newest step is a step. -/
theorem eq_newestStep_of_mem_layers {q c : Query} (hc : c ∈ q.layers)
    (h : c.isTerminalStep = true) : c = q.newestStep := by
  rw [← newestStep_of_mem_layers hc]
  cases c with
  | client => cases h
  | vertex | morphism | step => rfl

end Query

namespace Status

/-- The outcome that reading a link gives when it need not be executed any more. -/
def outcome? : Status → Option Outcome
  | unexecuted => none
  | executing => some (.error (.transport .interrupted))
  | cached set => some (.ok set)
  | failed error => some (.error error)

/-- The status that an execution leaves behind, also when it breaks off. -/
def left : Attempt → Status
  | .ok outcome => ofOutcome outcome
  | .error _ => executing

/-- A read that leaves the link in this status can have given this. -/
inductive Gives : Status → Attempt → Prop
  | outcome {status : Status} {outcome : Outcome} (h : status.outcome? = some outcome) :
      Gives status (.ok outcome)
  | crash (crash : Crash) : Gives executing (.error crash)

theorem outcome?_eq_none {status : Status} : status.outcome? = none ↔ status = unexecuted := by
  cases status <;> simp [outcome?]

theorem outcome?_ofOutcome (outcome : Outcome) : (ofOutcome outcome).outcome? = some outcome := by
  cases outcome <;> rfl

theorem gives_left (attempt : Attempt) : (left attempt).Gives attempt := by
  cases attempt with
  | ok outcome => exact .outcome (outcome?_ofOutcome outcome)
  | error crash => exact .crash crash

theorem left_ne_unexecuted (attempt : Attempt) : left attempt ≠ unexecuted := by
  rcases attempt with crash | _ | _ <;> simp [left, ofOutcome]

theorem ofOutcome_ne_executing (outcome : Outcome) : ofOutcome outcome ≠ executing := by
  cases outcome <;> simp [ofOutcome]

theorem Gives.ne_unexecuted {status : Status} {attempt : Attempt} (h : status.Gives attempt) :
    status ≠ unexecuted := by
  rintro rfl
  cases h with
  | outcome h => cases h

theorem left_eq_cached {attempt : Attempt} {set : ResultSet} :
    left attempt = cached set ↔ attempt = .ok (.ok set) := by
  rcases attempt with crash | _ | _ <;> simp [left, ofOutcome]

theorem left_eq_failed {attempt : Attempt} {error : QueryError} :
    left attempt = failed error ↔ attempt = .ok (.error error) := by
  rcases attempt with crash | _ | _ <;> simp [left, ofOutcome]

theorem left_eq_executing {attempt : Attempt} :
    left attempt = executing ↔ ∃ crash, attempt = .error crash := by
  rcases attempt with crash | _ | _ <;> simp [left, ofOutcome]

theorem gives_ok {status : Status} {outcome : Outcome} :
    status.Gives (.ok outcome) ↔ status.outcome? = some outcome := by
  constructor
  · rintro ⟨h⟩
    exact h
  · exact .outcome

theorem gives_set {status : Status} {set : ResultSet} :
    status.Gives (.ok (.ok set)) ↔ status = cached set := by
  rw [gives_ok]
  cases status <;> simp [outcome?]

theorem gives_error {status : Status} {error : QueryError} : status.Gives (.ok (.error error)) ↔
    status = failed error ∨ (status = executing ∧ error = .transport .interrupted) := by
  rw [gives_ok]
  cases status <;> simp [outcome?, eq_comm]

theorem gives_crash {status : Status} {crash : Crash} :
    status.Gives (.error crash) ↔ status = executing := by
  constructor
  · rintro ⟨⟩
    rfl
  · rintro rfl
    exact .crash crash

theorem phase_eq_unexecuted {status : Status} :
    status.phase = .unexecuted ↔ status = unexecuted := by
  cases status <;> simp [phase]

theorem phase_eq_executing {status : Status} : status.phase = .executing ↔ status = executing := by
  cases status <;> simp [phase]

end Status

namespace Session

/-- The links in the order of their numbers. -/
def queries (s : Session) : List Query := s.entries.map (·.query)

/-- The query is a link of the session. -/
def Has (s : Session) (q : Query) : Prop := s.queries[q.id]? = some q

/-- Every link has the number of its position, and its predecessor was there before it. -/
structure WellFormed (s : Session) : Prop where
  id_eq : ∀ (n : LinkId) (q : Query), s.queries[n]? = some q → q.id = n
  pred : ∀ q p : Query, s.Has q → q.pred? = some p → s.Has p ∧ p.id < q.id

/-- Adds a link. -/
def push (s : Session) (q : Query) : Session := { s with entries := s.entries ++ [⟨q, .unexecuted⟩] }

/-- Records how the execution of a link has ended; one that broke off leaves it executing. -/
def finish (s : Session) (id : LinkId) : Attempt → Session
  | .ok outcome => s.setStatus id (.ofOutcome outcome)
  | .error _ => s

/-- What stands in a list with one item more stood there before or is that item. -/
theorem getElem?_concat_cases {α : Type} {l : List α} {x y : α} {i : Nat}
    (h : (l ++ [x])[i]? = some y) : (i < l.length ∧ l[i]? = some y) ∨ (i = l.length ∧ x = y) := by
  have hi : i < (l ++ [x]).length := (List.getElem?_eq_some_iff.mp h).1
  rw [List.length_append, List.length_singleton] at hi
  rcases Nat.lt_or_ge i l.length with hlt | hge
  · rw [List.getElem?_append_left hlt] at h
    exact .inl ⟨hlt, h⟩
  · rw [List.getElem?_append_right hge] at h
    have hy := List.mem_singleton.mp (List.mem_of_getElem? h)
    exact .inr ⟨Nat.le_antisymm (Nat.le_of_lt_succ hi) hge, hy.symm⟩

/-! ## Links after an operation -/

@[simp] theorem queries_setStatus (s : Session) (id : LinkId) (status : Status) :
    (s.setStatus id status).queries = s.queries := by
  simp [queries, setStatus, List.ext_getElem?_iff, List.getElem?_modify]
  intro n
  cases s.entries[n]? with
  | none => rfl
  | some e => by_cases h : id = n <;> simp [h]

@[simp] theorem queries_submit (s : Session) (graph : GraphId) (text : String) :
    (s.submit graph text).queries = s.queries := rfl

@[simp] theorem queries_finish (s : Session) (id : LinkId) (attempt : Attempt) :
    (s.finish id attempt).queries = s.queries := by
  cases attempt <;> simp [finish]

@[simp] theorem queries_push (s : Session) (q : Query) :
    (s.push q).queries = s.queries ++ [q] := by
  simp [queries, push]

theorem Has.lt {s : Session} {q : Query} (h : s.Has q) : q.id < s.queries.length :=
  (List.getElem?_eq_some_iff.mp h).1

theorem Has.mem {s : Session} {q : Query} (h : s.Has q) : q ∈ s.queries := List.mem_of_getElem? h

theorem Has.of_queries_eq {s t : Session} {q : Query} (h : s.Has q) (he : t.queries = s.queries) :
    t.Has q := by
  unfold Has
  rw [he]
  exact h

theorem Has.eq_of_id_eq {s : Session} {p q : Query} (hp : s.Has p) (hq : s.Has q)
    (h : p.id = q.id) : p = q := by
  unfold Has at hp hq
  rw [h, hq] at hp
  exact (Option.some.inj hp).symm

/-! ## Statuses after an operation -/

theorem status_eq_unexecuted {s : Session} {id : LinkId} (h : s.queries.length ≤ id) :
    s.status id = .unexecuted := by
  have : s.entries[id]? = none := List.getElem?_eq_none (by simpa [queries] using h)
  simp [status, this]

theorem lt_of_status_ne {s : Session} {id : LinkId} (h : s.status id ≠ .unexecuted) :
    id < s.queries.length := by
  rcases Nat.lt_or_ge id s.queries.length with hlt | hge
  · exact hlt
  · exact absurd (status_eq_unexecuted hge) h

theorem status_setStatus_self {s : Session} {id : LinkId} (status : Status)
    (h : id < s.queries.length) : (s.setStatus id status).status id = status := by
  have hid : id < s.entries.length := by simpa [queries] using h
  simp [Session.status, setStatus, List.getElem?_eq_getElem hid]

theorem status_setStatus_ne {s : Session} {id other : LinkId} (status : Status)
    (h : other ≠ id) : (s.setStatus id status).status other = s.status other := by
  simp [Session.status, setStatus, Ne.symm h]

@[simp] theorem status_submit (s : Session) (graph : GraphId) (text : String) (id : LinkId) :
    (s.submit graph text).status id = s.status id := rfl

theorem status_finish_self {s : Session} {id : LinkId} (attempt : Attempt)
    (h : s.status id = .executing) : (s.finish id attempt).status id = .left attempt := by
  cases attempt with
  | ok outcome => exact status_setStatus_self _ (lt_of_status_ne (by simp [h]))
  | error crash => exact h

theorem status_finish_ne {s : Session} {id other : LinkId} (attempt : Attempt)
    (h : other ≠ id) : (s.finish id attempt).status other = s.status other := by
  cases attempt with
  | ok outcome => exact status_setStatus_ne _ h
  | error crash => rfl

/-- A new link has not been executed, and neither has a link that is not there. -/
@[simp] theorem status_push (s : Session) (q : Query) (id : LinkId) :
    (s.push q).status id = s.status id := by
  simp only [status, push, List.getElem?_append]
  by_cases h : id < s.entries.length
  · rw [if_pos h]
  · rw [if_neg h, List.getElem?_eq_none (Nat.le_of_not_lt h)]
    cases id - s.entries.length <;> rfl

/-! ## The phases of all links -/

theorem phases_getElem? (s : Session) {id : LinkId} (h : id < s.queries.length) :
    s.phases[id]? = some (s.phase id) := by
  have hid : id < s.entries.length := by simpa [queries] using h
  simp [phases, phase, status, List.getElem?_eq_getElem hid]

theorem phase_of_phases {s : Session} {id : LinkId} {p : Phase} (h : s.phases[id]? = some p) :
    s.phase id = p := by
  have hid : id < s.queries.length := by
    simpa [phases, queries] using (List.getElem?_eq_some_iff.mp h).1
  rw [s.phases_getElem? hid] at h
  exact Option.some.inj h

/-! ## The log after an operation -/

@[simp] theorem log_push (s : Session) (q : Query) : (s.push q).log = s.log := rfl

@[simp] theorem log_finish (s : Session) (id : LinkId) (attempt : Attempt) :
    (s.finish id attempt).log = s.log := by
  cases attempt <;> rfl

/-! ## Well-formed sessions -/

theorem wellFormed_empty : WellFormed {} where
  id_eq n q h := by simp [queries] at h
  pred q p h := by simp [Has, queries] at h

theorem WellFormed.of_queries_eq {s t : Session} (h : s.WellFormed) (he : t.queries = s.queries) :
    t.WellFormed where
  id_eq n q hq := h.id_eq n q (he ▸ hq)
  pred q p hq hp := by
    obtain ⟨hh, hlt⟩ := h.pred q p (hq.of_queries_eq he.symm) hp
    exact ⟨hh.of_queries_eq he, hlt⟩

theorem WellFormed.has {s : Session} (h : s.WellFormed) {n : LinkId} {q : Query}
    (hq : s.queries[n]? = some q) : s.Has q := by
  unfold Has
  rw [h.id_eq n q hq]
  exact hq

theorem WellFormed.has_of_mem {s : Session} (h : s.WellFormed) {q : Query} (hq : q ∈ s.queries) :
    s.Has q := by
  obtain ⟨n, hn⟩ := List.mem_iff_getElem?.mp hq
  exact h.has hn

/-- The layers of a link are links, with numbers up to its own. -/
theorem WellFormed.layers {s : Session} (h : s.WellFormed) {q c : Query} (hq : s.Has q)
    (hc : c ∈ q.layers) : s.Has c ∧ c.id ≤ q.id := by
  induction q with
  | client id pred op ih =>
    rcases List.mem_cons.mp hc with rfl | hc
    · exact ⟨hq, Nat.le_refl _⟩
    · obtain ⟨hp, hlt⟩ := h.pred _ pred hq rfl
      obtain ⟨hh, hle⟩ := ih hp hc
      exact ⟨hh, Nat.le_trans hle (Nat.le_of_lt hlt)⟩
  | vertex | morphism | step =>
    obtain rfl := List.mem_singleton.mp hc
    exact ⟨hq, Nat.le_refl _⟩

/-- The layers under an operator's link have other numbers. -/
theorem WellFormed.layers_ne {s : Session} (h : s.WellFormed) {own : LinkId} {pred c : Query}
    {op : ClientOp} (hq : s.Has (.client own pred op)) (hc : c ∈ pred.layers) : c.id ≠ own := by
  obtain ⟨hp, hlt⟩ := h.pred _ pred hq rfl
  exact Nat.ne_of_lt (Nat.lt_of_le_of_lt (h.layers hp hc).2 hlt)

/-- The session in which the query under an operator's link is read. -/
theorem WellFormed.begun {s : Session} (h : s.WellFormed) {own : LinkId} {pred : Query}
    {op : ClientOp} (hq : s.Has (.client own pred op)) :
    (s.setStatus own .executing).WellFormed ∧ (s.setStatus own .executing).Has pred := by
  have hs := queries_setStatus s own .executing
  obtain ⟨hp, _⟩ := h.pred _ pred hq rfl
  exact ⟨h.of_queries_eq hs, hp.of_queries_eq hs⟩

end Session

end Traversal
