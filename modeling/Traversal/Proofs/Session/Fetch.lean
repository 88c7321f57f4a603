import Traversal.Proofs.Session.Links

/-! # The course of a read

Reading a terminal query takes one of three courses: it gives what it has, it sends its text, or its
operator is applied to what reading the query under it gives. What a read can change follows by
induction on its course. -/

namespace Traversal

/-- What the endpoint answers when the chain is sent now. -/
def Network.replyTo (net : Network) (s : Session) (c : Chain) : Reply :=
  net c.graph (s.textsTo c.graph) c.text

/-- The status of an operator's link follows that of the link under it. -/
def Status.Follows (own : Status) (op : ClientOp) (base : Status) : Prop :=
  ∃ attempt, base.Gives attempt ∧ own = .left (op.settle attempt)

theorem Status.Follows.base_ne_unexecuted {own base : Status} {op : ClientOp}
    (h : own.Follows op base) : base ≠ .unexecuted := by
  obtain ⟨_, hg, _⟩ := h
  exact hg.ne_unexecuted

/-! ## What operators and replies come to -/

theorem ClientOp.settle_eq_ok {op : ClientOp} {attempt : Attempt} {set : ResultSet} :
    op.settle attempt = .ok (.ok set) ↔
      ∃ base, attempt = .ok (.ok base) ∧ op.apply base = .ok set := by
  rcases attempt with crash | error | base <;> simp only [settle]
  case ok.ok => cases h : op.apply base <;> simp [h]
  all_goals simp

theorem ClientOp.settle_eq_error {op : ClientOp} {attempt : Attempt} {error : QueryError} :
    op.settle attempt = .ok (.error error) ↔ attempt = .ok (.error error) := by
  rcases attempt with crash | cause | base <;> simp only [settle]
  case ok.ok => cases op.apply base <;> simp

theorem ClientOp.settle_eq_crash {op : ClientOp} {attempt : Attempt} {crash : Crash} :
    op.settle attempt = .error crash ↔ attempt = .error crash ∨
      ∃ base, attempt = .ok (.ok base) ∧ op.apply base = .error crash := by
  rcases attempt with cause | error | base <;> simp only [settle]
  case ok.ok => cases h : op.apply base <;> simp [h]
  all_goals simp

theorem Reply.settle_eq_ok {reply : Reply} {c : Chain} {set : ResultSet} :
    reply.settle c = .ok (.ok set) ↔ ∃ response parsed, reply = .answer response ∧
      response.interpret c.tags = .ok parsed ∧ ClientOp.applyAll c.clientOps parsed = .ok set := by
  cases reply with
  | crash | failure => simp [settle]
  | answer response =>
    simp only [settle]
    cases hi : response.interpret c.tags with
    | error error => simp [hi]
    | ok parsed => cases ha : ClientOp.applyAll c.clientOps parsed <;> simp [hi, ha]

theorem Reply.settle_eq_error {reply : Reply} {c : Chain} {error : QueryError} :
    reply.settle c = .ok (.error error) ↔
      (∃ cause, reply = .failure cause ∧ error = .transport cause) ∨
        ∃ response, reply = .answer response ∧ response.interpret c.tags = .error error := by
  cases reply with
  | crash => simp [settle]
  | failure cause => simp [settle, eq_comm]
  | answer response =>
    simp only [settle]
    cases hi : response.interpret c.tags with
    | error cause => simp [hi]
    | ok parsed => cases ha : ClientOp.applyAll c.clientOps parsed <;> simp [hi, ha]

/-- What a reply comes to, as one expression. -/
theorem Reply.settle_eq (reply : Reply) (c : Chain) : reply.settle c =
    match reply with
    | .crash cause => .error cause
    | .failure cause => .ok (.error (.transport cause))
    | .answer response =>
      match response.interpret c.tags with
      | .error error => .ok (.error error)
      | .ok parsed => (ClientOp.applyAll c.clientOps parsed).map .ok := by
  cases reply with
  | crash cause => rfl
  | failure cause => rfl
  | answer response =>
    simp only [settle]
    cases response.interpret c.tags with
    | error cause => rfl
    | ok parsed =>
      simp only
      cases ClientOp.applyAll c.clientOps parsed <;> rfl

/-- An operator gives an outcome only where it is given one. -/
theorem ClientOp.ok_of_settle {op : ClientOp} {attempt : Attempt} {outcome : Outcome}
    (h : op.settle attempt = .ok outcome) : ∃ base, attempt = .ok base := by
  cases attempt with
  | ok base => exact ⟨base, rfl⟩
  | error crash => cases h

theorem ClientOp.applyAll_append (ops : List ClientOp) (op : ClientOp) (set : ResultSet) :
    applyAll (ops ++ [op]) set =
      match applyAll ops set with
      | .ok next => op.apply next
      | .error crash => .error crash := by
  induction ops generalizing set with
  | nil =>
    simp only [List.nil_append, applyAll]
    cases op.apply set <;> rfl
  | cons first rest ih =>
    simp only [List.cons_append, applyAll]
    cases first.apply set with
    | ok next => exact ih next
    | error crash => rfl

/-- What a reply comes to with one operator more is what the operator makes of it without. -/
theorem Reply.settle_client (reply : Reply) (c : Chain) (op : ClientOp) :
    reply.settle (.client c op) = op.settle (reply.settle c) := by
  cases reply with
  | crash cause => rfl
  | failure cause => rfl
  | answer response =>
    simp only [settle, Chain.tags, Chain.clientOps]
    cases response.interpret c.tags with
    | error cause => rfl
    | ok set =>
      simp only [ClientOp.applyAll_append]
      cases ClientOp.applyAll c.clientOps set with
      | error crash => rfl
      | ok base => simp only [ClientOp.settle]

namespace Session

/-- The courses of reading a terminal query, with what the read gives and the session after it. -/
inductive Fetches (net : Network) : Query → Session → Attempt → Session → Prop
  | kept {q : Query} {s : Session} {outcome : Outcome}
      (h : (s.status q.id).outcome? = some outcome) : Fetches net q s (.ok outcome) s
  | sent {q : Query} {s : Session} {kind : StepKind} (hk : q.chain.kind? = some kind)
      (h : s.status q.id = .unexecuted) :
      Fetches net q s ((net.replyTo s q.chain).settle q.chain)
        (((s.setStatus q.id .executing).submit q.chain.graph q.chain.text).finish q.id
          ((net.replyTo s q.chain).settle q.chain))
  | layered {id : LinkId} {pred : Query} {op : ClientOp} {s t : Session} {attempt : Attempt}
      (h : s.status id = .unexecuted)
      (under : Fetches net pred (s.setStatus id .executing) attempt t) :
      Fetches net (.client id pred op) s (op.settle attempt) (t.finish id (op.settle attempt))

theorem once_of_outcome {id : LinkId} {run : Session → Attempt × Session} {s : Session}
    {outcome : Outcome} (h : (s.status id).outcome? = some outcome) :
    once id run s = (.ok outcome, s) := by
  unfold once
  cases hs : s.status id <;> rw [hs] at h <;> cases h <;> rfl

theorem once_of_unexecuted {id : LinkId} {run : Session → Attempt × Session} {s : Session}
    (h : s.status id = .unexecuted) :
    once id run s = ((run (s.setStatus id .executing)).1,
      (run (s.setStatus id .executing)).2.finish id (run (s.setStatus id .executing)).1) := by
  unfold once
  rw [h]
  rcases hr : run (s.setStatus id .executing) with ⟨crash | outcome, t⟩ <;> rfl

theorem once_send_course {net : Network} {q : Query} {kind : StepKind} (s : Session)
    (hk : q.chain.kind? = some kind) :
    Fetches net q s (once q.id (send net q.chain) s).1 (once q.id (send net q.chain) s).2 := by
  cases h : (s.status q.id).outcome? with
  | some outcome =>
    rw [once_of_outcome h]
    exact .kept h
  | none =>
    have hu := Status.outcome?_eq_none.mp h
    rw [once_of_unexecuted hu]
    exact .sent hk hu

theorem fetch_course (net : Network) (q : Query) (s : Session) :
    Fetches net q s (fetch net q s).1 (fetch net q s).2 := by
  induction q generalizing s with
  | vertex | morphism | step => exact once_send_course s rfl
  | client id pred op ih =>
    unfold fetch
    cases h : (s.status id).outcome? with
    | some outcome =>
      rw [once_of_outcome h]
      exact .kept h
    | none =>
      have hu := Status.outcome?_eq_none.mp h
      rw [once_of_unexecuted hu]
      exact .layered hu (ih _)

theorem read_course {net : Network} {q : Query} (s : Session) (h : q.chain.isTerminal = true) :
    Fetches net q s (s.read net q).1 (s.read net q).2 := by
  unfold read
  rw [if_pos h]
  exact fetch_course net q s

/-- Reading a query: a terminal one is fetched, any other is refused and nothing changes. -/
theorem read_cases (net : Network) (q : Query) (s : Session) :
    (q.chain.isTerminal = true ∧ Fetches net q s (s.read net q).1 (s.read net q).2) ∨
      (q.chain.isTerminal = false ∧ s.read net q =
        (.ok (.error (.usage (.notExecutable q.chain.text q.chain.isMorphism))), s)) := by
  cases h : q.chain.isTerminal with
  | true => exact .inl ⟨rfl, read_course s h⟩
  | false =>
    unfold read
    rw [h]
    exact .inr ⟨rfl, rfl⟩

/-- The session at the moment when a read sends: the layers of the query are executing, and all other
links have the status from before the read. -/
structure Sending (q : Query) (s mid : Session) : Prop where
  queries : mid.queries = s.queries
  layers : ∀ c ∈ q.layers, mid.status c.id = .executing
  others : ∀ id, (∀ c ∈ q.layers, c.id ≠ id) → mid.status id = s.status id

theorem Sending.of_kind {q : Query} {s : Session} {kind : StepKind}
    (hk : q.chain.kind? = some kind) (hq : s.Has q) :
    Sending q s (s.setStatus q.id .executing) := by
  constructor
  case queries => exact queries_setStatus s q.id .executing
  case layers =>
    intro c hc
    rw [Query.layers_of_kind hk] at hc
    obtain rfl := List.mem_singleton.mp hc
    exact status_setStatus_self _ hq.lt
  case others =>
    intro id hid
    exact status_setStatus_ne _ (Ne.symm (hid q q.mem_layers_self))

theorem Sending.client {own : LinkId} {pred : Query} {op : ClientOp} {s mid : Session}
    (h : Sending pred (s.setStatus own .executing) mid) (wf : s.WellFormed)
    (hq : s.Has (.client own pred op)) : Sending (.client own pred op) s mid := by
  constructor
  case queries => rw [h.queries, queries_setStatus]
  case layers =>
    intro c hc
    rcases List.mem_cons.mp hc with rfl | hc
    · have := h.others own fun c hc => wf.layers_ne hq hc
      exact this.trans (status_setStatus_self _ hq.lt)
    · exact h.layers c hc
  case others =>
    intro id hid
    rw [h.others id fun c hc => hid c (List.mem_cons_of_mem _ hc)]
    exact status_setStatus_ne _ (Ne.symm (hid _ List.mem_cons_self))

section Course

variable {net : Network} {q : Query} {s t : Session} {attempt : Attempt}

namespace Fetches

/-! ## What stays -/

theorem queries_eq (h : Fetches net q s attempt t) : t.queries = s.queries := by
  induction h with
  | kept => rfl
  | sent => simp
  | layered _ _ ih => simp [ih]

/-- A link that has been executed keeps its status. -/
theorem status_of_executed (h : Fetches net q s attempt t) {id : LinkId}
    (hid : s.status id ≠ .unexecuted) : t.status id = s.status id := by
  induction h with
  | kept => rfl
  | @sent q s _ _ hu =>
    have hne : id ≠ q.id := by rintro rfl; exact hid hu
    rw [status_finish_ne _ hne, status_submit, status_setStatus_ne _ hne]
  | @layered own _ _ s _ _ hu _ ih =>
    have hne : id ≠ own := by rintro rfl; exact hid hu
    have hs : (s.setStatus own .executing).status id = s.status id := status_setStatus_ne _ hne
    rw [status_finish_ne _ hne, ih (by rwa [hs]), hs]

/-- Only layers of the query change. -/
theorem status_of_not_layer (h : Fetches net q s attempt t) {id : LinkId}
    (hid : ∀ c ∈ q.layers, c.id ≠ id) : t.status id = s.status id := by
  induction h with
  | kept => rfl
  | @sent q s _ _ _ =>
    have hne : id ≠ q.id := Ne.symm (hid q (Query.mem_layers_self q))
    rw [status_finish_ne _ hne, status_submit, status_setStatus_ne _ hne]
  | @layered own pred op s _ _ _ _ ih =>
    have hne : id ≠ own := Ne.symm (hid (.client own pred op) (Query.mem_layers_self _))
    rw [status_finish_ne _ hne, ih (fun c hc => hid c (List.mem_cons_of_mem _ hc)),
      status_setStatus_ne _ hne]

theorem changed (h : Fetches net q s attempt t) {id : LinkId} (hid : t.status id ≠ s.status id) :
    s.status id = .unexecuted ∧ ∃ c ∈ q.layers, c.id = id := by
  constructor
  · apply Decidable.byContradiction
    intro hu
    exact hid (h.status_of_executed hu)
  · apply Decidable.byContradiction
    intro hn
    exact hid (h.status_of_not_layer fun c hc he => hn ⟨c, hc, he⟩)

/-! ## What the read leaves behind -/

/-- A link that is executed by the read gets the status that the attempt leaves. -/
theorem left_of_unexecuted (h : Fetches net q s attempt t) (hq : s.Has q)
    (hu : s.status q.id = .unexecuted) : t.status q.id = .left attempt := by
  cases h with
  | kept h =>
    rw [hu] at h
    cases h
  | sent _ _ =>
    have hx : ((s.setStatus q.id .executing).submit q.chain.graph q.chain.text).status q.id =
        .executing := status_setStatus_self _ hq.lt
    exact status_finish_self _ hx
  | @layered id pred op _ t attempt _ under =>
    have hx : (s.setStatus id .executing).status id = .executing := status_setStatus_self _ hq.lt
    have ht : t.status id = .executing := by
      rw [under.status_of_executed (by rw [hx]; simp), hx]
    exact status_finish_self _ ht

/-- The status of the query fits what the read gives. -/
theorem gives (h : Fetches net q s attempt t) (hq : s.Has q) : (t.status q.id).Gives attempt := by
  by_cases hu : s.status q.id = .unexecuted
  · rw [h.left_of_unexecuted hq hu]
    exact Status.gives_left attempt
  · cases h with
    | kept h => exact .outcome h
    | sent _ h => exact absurd h hu
    | layered h _ => exact absurd h hu

/-- An operator's link that changes follows the link under it. -/
theorem follows (h : Fetches net q s attempt t) (wf : s.WellFormed) (hq : s.Has q) {id : LinkId}
    {base : Query} {op : ClientOp} (hc : .client id base op ∈ q.layers)
    (hid : t.status id ≠ s.status id) : (t.status id).Follows op (t.status base.id) := by
  induction h with
  | kept => exact absurd rfl hid
  | sent hk _ =>
    rw [Query.layers_of_kind hk] at hc
    obtain rfl := List.mem_singleton.mp hc
    cases hk
  | @layered own pred op' s t attempt hu under ih =>
    obtain ⟨wfu, hp⟩ := wf.begun hq
    rcases List.mem_cons.mp hc with he | hc
    · cases he
      have hne : base.id ≠ id := wf.layers_ne hq base.mem_layers_self
      refine ⟨attempt, ?_, ?_⟩
      · rw [status_finish_ne _ hne]
        exact under.gives hp
      · exact (Fetches.layered hu under).left_of_unexecuted hq hu
    · have hown : id ≠ own := wf.layers_ne hq hc
      have hbelow : base.id ≠ own := wf.layers_ne hq (Query.base_mem_layers hc)
      rw [status_finish_ne _ hown] at hid ⊢
      rw [status_finish_ne _ hbelow]
      refine ih wfu hp hc ?_
      rwa [status_setStatus_ne _ hown]

/-- A read that gives an outcome leaves no link executing that was not executing before. -/
theorem status_ne_executing (h : Fetches net q s attempt t) (wf : s.WellFormed) (hq : s.Has q)
    {outcome : Outcome} (ho : attempt = .ok outcome) {id : LinkId}
    (hid : s.status id ≠ .executing) : t.status id ≠ .executing := by
  induction h generalizing outcome with
  | kept => exact hid
  | @sent q s _ hk hu =>
    by_cases he : id = q.id
    · subst he
      rw [(Fetches.sent hk hu).left_of_unexecuted hq hu, ho]
      exact Status.ofOutcome_ne_executing outcome
    · rwa [status_finish_ne _ he, status_submit, status_setStatus_ne _ he]
  | @layered own pred op s t attempt hu under ih =>
    obtain ⟨wfu, hp⟩ := wf.begun hq
    by_cases he : id = own
    · subst he
      have hl : (t.finish id (op.settle attempt)).status id = .left (op.settle attempt) :=
        (Fetches.layered hu under).left_of_unexecuted hq hu
      rw [hl, ho]
      exact Status.ofOutcome_ne_executing outcome
    · obtain ⟨base, hb⟩ := ClientOp.ok_of_settle ho
      rw [status_finish_ne _ he]
      refine ih wfu hp hb ?_
      rwa [status_setStatus_ne _ he]

/-! ## What the read sends -/

/-- Where a layer of the query has been executed, the read sends nothing. -/
theorem silent (h : Fetches net q s attempt t) (wf : s.WellFormed) (hq : s.Has q) {c : Query}
    (hc : c ∈ q.layers) (hs : s.status c.id ≠ .unexecuted) :
    t.log = s.log ∧ t.status q.newestStep.id = s.status q.newestStep.id := by
  induction h with
  | kept => exact ⟨rfl, rfl⟩
  | sent hk hu =>
    rw [Query.layers_of_kind hk] at hc
    obtain rfl := List.mem_singleton.mp hc
    exact absurd hu hs
  | @layered own pred op s t attempt hu under ih =>
    obtain ⟨wfu, hp⟩ := wf.begun hq
    rcases List.mem_cons.mp hc with rfl | hc
    · exact absurd hu hs
    · have hne := wf.layers_ne hq pred.newestStep_mem_layers
      have := ih wfu hp hc (by rwa [status_setStatus_ne _ (wf.layers_ne hq hc)])
      rw [status_setStatus_ne _ hne] at this
      simp only [Query.newestStep, log_finish, status_finish_ne _ hne]
      exact this

/-- Where no layer of the query has been executed, the read sends the text of the query, and its
newest step is left with what the reply comes to. -/
theorem sends (h : Fetches net q s attempt t) (wf : s.WellFormed) (hq : s.Has q)
    (hu : ∀ c ∈ q.layers, s.status c.id = .unexecuted) :
    (∃ mid, Sending q s mid ∧ t.log = s.log ++ [⟨q.chain.graph, q.chain.text, mid.phases⟩]) ∧
      t.status q.newestStep.id =
        .left ((net.replyTo s q.newestStep.chain).settle q.newestStep.chain) := by
  induction h with
  | @kept q s outcome h =>
    rw [hu q q.mem_layers_self] at h
    cases h
  | @sent q s _ hk hfresh =>
    have course : Fetches net q s _ _ := .sent hk hfresh
    rw [Query.newestStep_of_kind hk]
    refine ⟨⟨s.setStatus q.id .executing, ?_, by rw [log_finish]; rfl⟩,
      course.left_of_unexecuted hq hfresh⟩
    exact .of_kind hk hq
  | @layered own pred op s t attempt hfresh _ ih =>
    obtain ⟨wfu, hp⟩ := wf.begun hq
    have hne := wf.layers_ne hq pred.newestStep_mem_layers
    obtain ⟨⟨mid, hmid, hlog⟩, hleft⟩ := ih wfu hp fun c hc => by
      rw [status_setStatus_ne _ (wf.layers_ne hq hc)]
      exact hu c (List.mem_cons_of_mem _ hc)
    rw [log_finish, Query.newestStep, status_finish_ne _ hne]
    exact ⟨⟨mid, hmid.client wf hq, hlog⟩, hleft⟩

/-- Where no layer of the query has been executed, the read executes all of them. -/
theorem layers_executed (h : Fetches net q s attempt t) (wf : s.WellFormed) (hq : s.Has q)
    (hu : ∀ c ∈ q.layers, s.status c.id = .unexecuted) :
    ∀ c ∈ q.layers, t.status c.id ≠ .unexecuted := by
  intro c hc
  induction h with
  | @kept q s outcome h =>
    rw [hu q q.mem_layers_self] at h
    cases h
  | @sent q s _ hk hfresh =>
    have course : Fetches net q s _ _ := .sent hk hfresh
    rw [Query.layers_of_kind hk] at hc
    obtain rfl := List.mem_singleton.mp hc
    exact (course.gives hq).ne_unexecuted
  | @layered own pred op s t attempt hfresh under ih =>
    have course : Fetches net (.client own pred op) s _ _ := .layered hfresh under
    obtain ⟨wfu, hp⟩ := wf.begun hq
    rcases List.mem_cons.mp hc with rfl | hc
    · exact (course.gives hq).ne_unexecuted
    · rw [status_finish_ne _ (wf.layers_ne hq hc)]
      refine ih wfu hp (fun c hc => ?_) hc
      rw [status_setStatus_ne _ (wf.layers_ne hq hc)]
      exact hu c (List.mem_cons_of_mem _ hc)

/-! ## What the read gives -/

/-- Where every executed layer has what the reply comes to for it, so does the read. -/
theorem eq_settle (h : Fetches net q s attempt t) (wf : s.WellFormed) (hq : s.Has q) {reply : Reply}
    (hnew : s.status q.newestStep.id = .unexecuted → reply = net.replyTo s q.newestStep.chain)
    (hold : ∀ c ∈ q.layers, s.status c.id ≠ .unexecuted →
      ∃ outcome, reply.settle c.chain = .ok outcome ∧ s.status c.id = .ofOutcome outcome) :
    attempt = reply.settle q.chain := by
  induction h with
  | @kept q s outcome h =>
    have hne := (Status.Gives.outcome h).ne_unexecuted
    obtain ⟨other, hr, hs⟩ := hold q q.mem_layers_self hne
    rw [hs, Status.outcome?_ofOutcome] at h
    rw [hr, Option.some.inj h]
  | @sent q s _ hk hu =>
    rw [Query.newestStep_of_kind hk] at hnew
    rw [hnew hu]
  | @layered own pred op s t attempt _ _ ih =>
    obtain ⟨wfu, hp⟩ := wf.begun hq
    have hne : ∀ c ∈ pred.layers, c.id ≠ own := fun _ hc => wf.layers_ne hq hc
    rw [Query.chain, Reply.settle_client]
    refine congrArg op.settle (ih wfu hp ?_ ?_)
    · rw [status_setStatus_ne _ (hne _ pred.newestStep_mem_layers)]
      exact hnew
    · intro c hc
      rw [status_setStatus_ne _ (hne c hc)]
      exact hold c (List.mem_cons_of_mem _ hc)

end Fetches

end Course

end Session

end Traversal
