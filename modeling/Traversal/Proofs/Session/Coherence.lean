import Traversal.Proofs.Session.Exchange

/-! # The coherence of what links keep

Between actions, also after some that broke off, the status of a terminal step is what its one reply
comes to, the status of an operator's link follows that of the link under it, and other links have
not been executed. First the invariant that actions keep, then what it says status by status. -/

namespace Traversal

namespace Session

/-- The exchanges so far account for the log and for the statuses of all links. -/
structure Coherent (sent : List Exchange) (s : Session) : Prop where
  nodup : (sent.map (·.query.id)).Nodup
  executed : ∀ q, q ∈ sent.map (·.query) ↔
    s.Has q ∧ q.isTerminalStep = true ∧ s.status q.id ≠ .unexecuted
  settled : ∀ x ∈ sent, s.status x.query.id = .left (x.reply.settle x.query.chain)
  follows : ∀ id base op, s.Has (.client id base op) → s.status id ≠ .unexecuted →
    (s.status id).Follows op (s.status base.id)
  idle : ∀ q, s.Has q → q.chain.isTerminal = false → s.status q.id = .unexecuted
  logged : s.log.map (fun e => (e.graph, e.text)) =
    sent.map fun x => (x.query.chain.graph, x.query.chain.text)

theorem coherent_empty : Coherent [] {} where
  nodup := List.nodup_nil
  executed q := by simp [Has, queries]
  settled x hx := by cases hx
  follows id base op h := by simp [Has, queries] at h
  idle q h := by simp [Has, queries] at h
  logged := rfl

section Act

variable {net : Network} {s t : Session} {a : Action} {answer : Answer} {sent new : List Exchange}

/-- An operator's link that an action changes follows the link under it. -/
theorem Moves.follows (h : Moves net s a answer t) (wf : s.WellFormed) {id : LinkId}
    {base : Query} {op : ClientOp} (hc : t.Has (.client id base op))
    (hid : t.status id ≠ s.status id) : (t.status id).Follows op (t.status base.id) := by
  cases h with
  | stays => exact absurd rfl hid
  | builds => exact absurd (status_push s _ id) hid
  | @reads q hq =>
    rcases read_cases net q s with ⟨_, course⟩ | ⟨_, he⟩
    · obtain ⟨_, c, hl, rfl⟩ := course.changed hid
      have hs := hc.of_queries_eq course.queries_eq.symm
      have heq : c = .client c.id base op := (wf.layers hq hl).1.eq_of_id_eq hs rfl
      rw [heq] at hl
      exact course.follows wf hq hl hid
    · rw [he] at hid
      exact absurd rfl hid

namespace Coherent

theorem not_sent_of_unexecuted (h : Coherent sent s) {q : Query}
    (hq : s.status q.id = .unexecuted) : q.id ∉ sent.map (·.query.id) := by
  intro hm
  obtain ⟨x, hx, he⟩ := List.mem_map.mp hm
  have hs := ((h.executed x.query).mp (List.mem_map_of_mem hx)).2.2
  rw [he] at hs
  exact hs hq

/-- The exchanges of the terminal steps, after an action has added its own. -/
theorem executed_append (h : Coherent sent s) (move : Moves net s a answer t)
    (ex : Executes net s t new) (q : Query) : q ∈ (sent ++ new).map (·.query) ↔
      t.Has q ∧ q.isTerminalStep = true ∧ t.status q.id ≠ .unexecuted := by
  have kept : q ∈ sent.map (·.query) →
      t.Has q ∧ q.isTerminalStep = true ∧ t.status q.id ≠ .unexecuted := by
    intro hm
    obtain ⟨hq, hstep, hs⟩ := (h.executed q).mp hm
    exact ⟨move.has hq, hstep, by rwa [move.status_of_executed hs]⟩
  have back : t.Has q → q.isTerminalStep = true → t.status q.id ≠ .unexecuted →
      t.status q.id = s.status q.id → q ∈ sent.map (·.query) := by
    intro hq hstep ht he
    rw [he] at ht
    exact (h.executed q).mpr ⟨move.has_of_executed hq ht, hstep, ht⟩
  rw [List.map_append, List.mem_append]
  cases ex with
  | nothing _ same =>
    constructor
    · rintro (hm | hm)
      · exact kept hm
      · cases hm
    · rintro ⟨hq, hstep, ht⟩
      exact .inl (back hq hstep ht (same q hq hstep))
  | @one p hp step _ left _ same =>
    constructor
    · rintro (hm | hm)
      · exact kept hm
      · obtain rfl := List.mem_singleton.mp hm
        exact ⟨move.has hp, step, by rw [left]; exact Status.left_ne_unexecuted _⟩
    · rintro ⟨hq, hstep, ht⟩
      by_cases he : q = p
      · exact .inr (List.mem_singleton.mpr he)
      · exact .inl (back hq hstep ht (same q hq hstep he))

/-- What one action keeps. -/
theorem append (h : Coherent sent s) (wf : s.WellFormed) (move : Moves net s a answer t)
    (ex : Executes net s t new) : Coherent (sent ++ new) t where
  nodup := by
    cases ex with
    | nothing => simpa using h.nodup
    | @one q _ _ fresh _ _ _ =>
      rw [List.map_append]
      refine List.nodup_append.mpr ⟨h.nodup, List.nodup_cons.mpr ⟨by simp, List.nodup_nil⟩, ?_⟩
      rintro id hid _ hm rfl
      obtain rfl := List.mem_singleton.mp hm
      exact h.not_sent_of_unexecuted fresh hid
  executed := h.executed_append move ex
  settled x hx := by
    rcases List.mem_append.mp hx with hx | hx
    · have hs := ((h.executed x.query).mp (List.mem_map_of_mem hx)).2.2
      rw [move.status_of_executed hs]
      exact h.settled x hx
    · cases ex with
      | nothing => cases hx
      | one _ _ _ left _ _ =>
        obtain rfl := List.mem_singleton.mp hx
        exact left
  follows id base op hc ht := by
    by_cases hid : t.status id = s.status id
    · rw [hid] at ht ⊢
      have hf := h.follows id base op (move.has_of_executed hc ht) ht
      rwa [move.status_of_executed hf.base_ne_unexecuted]
    · exact move.follows wf hc hid
  idle q hq hn := by
    rw [move.status_of_not_terminal wf hq hn]
    apply Decidable.byContradiction
    intro hs
    exact hs (h.idle q (move.has_of_executed hq hs) hn)
  logged := by
    cases ex with
    | nothing log _ => rw [log, h.logged, List.append_nil]
    | one _ _ _ _ out _ =>
      obtain ⟨mid, out⟩ := out
      rw [out.log, List.map_append, List.map_append, h.logged]
      rfl

end Coherent

end Act

theorem run_coherent (net : Network) (actions : List Action) :
    Coherent (exchanges net {} actions) (run net {} actions) := by
  have h : Coherent ([] ++ exchanges net {} actions) (run net {} actions) :=
    run_induction (fun sent s a wf h => h.append wf (act_moves wf a) (act_executes wf a))
      actions [] wellFormed_empty coherent_empty
  rwa [List.nil_append] at h

theorem Coherent.reply_of_executed {sent : List Exchange} {s : Session} (h : Coherent sent s)
    {q : Query} (hq : s.Has q) (step : q.isTerminalStep = true)
    (hs : s.status q.id ≠ .unexecuted) : ∃ reply, repliesTo sent q.id = [reply] ∧
      s.status q.id = .left (reply.settle q.chain) := by
  obtain ⟨x, hx, rfl⟩ := List.mem_map.mp ((h.executed q).mpr ⟨hq, step, hs⟩)
  exact ⟨x.reply, repliesTo_eq_singleton h.nodup hx, h.settled x hx⟩

/-! ## Status by status -/

/-- What the statuses of neighbouring links say about each other, and the status of a terminal step
about its own reply. -/
structure CacheCoherent (sent : List Exchange) (s : Session) : Prop where
  idle : ∀ q, s.Has q → q.chain.isTerminal = false → s.status q.id = .unexecuted
  client_cached : ∀ id base op set, s.Has (.client id base op) → base.chain.isTerminal = true →
    s.status id = .cached set → ∃ under, s.status base.id = .cached under ∧ op.apply under = .ok set
  client_failed : ∀ id base op error, s.Has (.client id base op) → base.chain.isTerminal = true →
    s.status id = .failed error → s.status base.id = .failed error ∨
      (s.status base.id = .executing ∧ error = .transport .interrupted)
  client_executing : ∀ id base op, s.Has (.client id base op) → base.chain.isTerminal = true →
    s.status id = .executing → s.status base.id = .executing ∨
      ∃ under crash, s.status base.id = .cached under ∧ op.apply under = .error crash
  step_failed : ∀ q error, s.Has q → q.isTerminalStep = true → s.status q.id = .failed error →
    (∃ cause, repliesTo sent q.id = [.failure cause] ∧ error = .transport cause) ∨
      ∃ response, repliesTo sent q.id = [.answer response] ∧
        response.interpret q.chain.tags = .error error
  step_cached : ∀ q set, s.Has q → q.isTerminalStep = true → s.status q.id = .cached set →
    ∃ response parsed, repliesTo sent q.id = [.answer response] ∧
      response.interpret q.chain.tags = .ok parsed ∧
      ClientOp.applyAll q.chain.clientOps parsed = .ok set

/-- After any run, also one in which reads broke off, what the links keep is coherent. -/
theorem run_cacheCoherent (net : Network) (actions : List Action) :
    CacheCoherent (exchanges net {} actions) (run net {} actions) := by
  have h := run_coherent net actions
  constructor
  case idle => exact h.idle
  case client_cached =>
    intro id base op set hc _ hs
    obtain ⟨attempt, hg, hl⟩ := h.follows id base op hc (by simp [hs])
    obtain ⟨under, rfl, happly⟩ := ClientOp.settle_eq_ok.mp (Status.left_eq_cached.mp (hl.symm.trans hs))
    exact ⟨under, Status.gives_set.mp hg, happly⟩
  case client_failed =>
    intro id base op error hc _ hs
    obtain ⟨attempt, hg, hl⟩ := h.follows id base op hc (by simp [hs])
    obtain rfl := ClientOp.settle_eq_error.mp (Status.left_eq_failed.mp (hl.symm.trans hs))
    exact Status.gives_error.mp hg
  case client_executing =>
    intro id base op hc _ hs
    obtain ⟨attempt, hg, hl⟩ := h.follows id base op hc (by simp [hs])
    obtain ⟨crash, hcrash⟩ := Status.left_eq_executing.mp (hl.symm.trans hs)
    rcases ClientOp.settle_eq_crash.mp hcrash with rfl | ⟨under, rfl, happly⟩
    · exact .inl (Status.gives_crash.mp hg)
    · exact .inr ⟨under, crash, Status.gives_set.mp hg, happly⟩
  case step_failed =>
    intro q error hq step hs
    obtain ⟨reply, hr, hl⟩ := h.reply_of_executed hq step (by simp [hs])
    rcases Reply.settle_eq_error.mp (Status.left_eq_failed.mp (hl.symm.trans hs)) with
      ⟨cause, rfl, he⟩ | ⟨response, rfl, hi⟩
    · exact .inl ⟨cause, hr, he⟩
    · exact .inr ⟨response, hr, hi⟩
  case step_cached =>
    intro q set hq step hs
    obtain ⟨reply, hr, hl⟩ := h.reply_of_executed hq step (by simp [hs])
    obtain ⟨response, parsed, rfl, hi, happly⟩ :=
      Reply.settle_eq_ok.mp (Status.left_eq_cached.mp (hl.symm.trans hs))
    exact ⟨response, parsed, hr, hi, happly⟩

end Session

end Traversal
