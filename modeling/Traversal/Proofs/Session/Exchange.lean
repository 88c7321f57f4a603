import Traversal.Proofs.Session.Run

/-! # Exchanges

An action executes at most one terminal step. If it does, exactly one text goes out, that of the
step, and the step's status is what its reply comes to; if it does not, nothing goes out. -/

namespace Traversal

namespace Session

/-- A text goes out between two sessions: the step that it belongs to is executing at that moment,
and no link goes back to `unexecuted` before or after it. -/
structure GoesOut (q : Query) (s mid t : Session) : Prop where
  queries : mid.queries = s.queries
  own : mid.status q.id = .executing
  before : ∀ id, s.status id ≠ .unexecuted → mid.status id ≠ .unexecuted
  after : ∀ id, mid.status id ≠ .unexecuted → t.status id ≠ .unexecuted
  log : t.log = s.log ++ [⟨q.chain.graph, q.chain.text, mid.phases⟩]

/-- How the terminal steps in the list are executed between two sessions. -/
inductive Executes (net : Network) (s t : Session) : List Exchange → Prop
  | nothing (log : t.log = s.log)
      (same : ∀ q, t.Has q → q.isTerminalStep = true → t.status q.id = s.status q.id) :
      Executes net s t []
  | one {q : Query} (hq : s.Has q) (step : q.isTerminalStep = true)
      (fresh : s.status q.id = .unexecuted)
      (left : t.status q.id = .left ((net.replyTo s q.chain).settle q.chain))
      (out : ∃ mid, GoesOut q s mid t)
      (same : ∀ p, t.Has p → p.isTerminalStep = true → p ≠ q → t.status p.id = s.status p.id) :
      Executes net s t [⟨q, net.replyTo s q.chain⟩]

theorem WellFormed.nodup_queries {s : Session} (wf : s.WellFormed) : s.queries.Nodup := by
  refine List.pairwise_iff_getElem.mpr fun i j hi hj hlt he => ?_
  have hfirst := wf.id_eq i _ (List.getElem?_eq_getElem hi)
  have hsecond := wf.id_eq j _ (List.getElem?_eq_getElem hj)
  rw [he, hsecond] at hfirst
  exact Nat.ne_of_lt hlt hfirst.symm

/-! ## The terminal steps executed between two sessions -/

section Executed

variable {s t : Session}

theorem mem_executed {q : Query} : q ∈ s.executed t ↔ q ∈ t.queries ∧ q.isTerminalStep = true ∧
    s.status q.id = .unexecuted ∧ t.status q.id ≠ .unexecuted := by
  simp [executed, phase, Status.phase_eq_unexecuted, and_assoc]

theorem executed_eq_nil (wf : t.WellFormed)
    (same : ∀ q, t.Has q → q.isTerminalStep = true → t.status q.id = s.status q.id) :
    s.executed t = [] := by
  refine List.eq_nil_iff_forall_not_mem.mpr fun q hq => ?_
  obtain ⟨hm, step, hs, ht⟩ := mem_executed.mp hq
  rw [same q (wf.has_of_mem hm) step] at ht
  exact ht hs

theorem executed_eq_singleton (wf : t.WellFormed) {q : Query} (hq : t.Has q)
    (step : q.isTerminalStep = true) (fresh : s.status q.id = .unexecuted)
    (left : t.status q.id ≠ .unexecuted)
    (same : ∀ p, t.Has p → p.isTerminalStep = true → p ≠ q → t.status p.id = s.status p.id) :
    s.executed t = [q] := by
  classical
  have only : ∀ p, p ∈ s.executed t ↔ p = q := by
    intro p
    rw [mem_executed]
    constructor
    · rintro ⟨hm, hp, hs, ht⟩
      apply Decidable.byContradiction
      intro hne
      rw [same p (wf.has_of_mem hm) hp hne] at ht
      exact ht hs
    · rintro rfl
      exact ⟨hq.mem, step, fresh, left⟩
  have hnd : (s.executed t).Nodup := wf.nodup_queries.filter _
  have hall : (s.executed t).filter (· = q) = s.executed t :=
    List.filter_eq_self.mpr fun p hp => by simpa using (only p).mp hp
  rw [← hall, List.filter_eq, hnd.count, if_pos ((only q).mpr rfl), List.replicate_one]

end Executed

/-! ## What one action executes -/

section Act

variable {net : Network} {s t : Session} {a : Action} {answer : Answer}

/-- The link that a status belongs to was there before if the status was one of execution. -/
theorem Moves.has_of_executed (h : Moves net s a answer t) {q : Query} (hq : t.Has q)
    (hs : s.status q.id ≠ .unexecuted) : s.Has q := by
  cases h with
  | stays => exact hq
  | builds h =>
    rcases has_of_push hq with hq | rfl
    · exact hq
    · exact absurd (status_eq_unexecuted (Nat.le_of_eq h.id_eq.symm)) hs
  | @reads r h =>
    rcases read_cases net r s with ⟨_, course⟩ | ⟨_, he⟩
    · exact hq.of_queries_eq course.queries_eq.symm
    · rwa [he] at hq

/-- A fetch changes no terminal step but the newest step of its query: that is the only step among
the layers that it goes through. -/
theorem Fetches.status_of_ne_newestStep {q : Query} {attempt : Attempt}
    (h : Fetches net q s attempt t) (wf : s.WellFormed) (hq : s.Has q) {p : Query} (hp : t.Has p)
    (step : p.isTerminalStep = true) (ne : p ≠ q.newestStep) : t.status p.id = s.status p.id := by
  apply h.status_of_not_layer
  intro c hc hid
  have heq := (wf.layers hq hc).1.eq_of_id_eq (hp.of_queries_eq h.queries_eq.symm) hid
  subst heq
  exact ne (Query.eq_newestStep_of_mem_layers hc step)

/-- A fetch executes the newest step of its query or nothing. -/
theorem Fetches.executes {q : Query} {attempt : Attempt} (h : Fetches net q s attempt t)
    (wf : s.WellFormed) (hq : s.Has q) (hterm : q.chain.isTerminal = true) :
    Executes net s t ((s.executed t).map fun p => ⟨p, net.replyTo s p.chain⟩) := by
  have hnewest := (wf.layers hq q.newestStep_mem_layers).1
  have wft := wf.of_queries_eq h.queries_eq
  have step : q.newestStep.isTerminalStep = true := by rwa [← Query.isTerminal_eq]
  have same : ∀ p, t.Has p → p.isTerminalStep = true → p ≠ q.newestStep →
      t.status p.id = s.status p.id := fun p => h.status_of_ne_newestStep wf hq
  by_cases hu : ∀ c ∈ q.layers, s.status c.id = .unexecuted
  · obtain ⟨⟨mid, hmid, hlog⟩, left⟩ := h.sends wf hq hu
    have hleft : t.status q.newestStep.id ≠ .unexecuted := by
      rw [left]
      exact Status.left_ne_unexecuted _
    have hnew := q.newestStep_mem_layers
    rw [executed_eq_singleton wft (hnewest.of_queries_eq h.queries_eq) step (hu _ hnew) hleft same]
    rw [← q.newestStep_graph, ← q.newestStep_text] at hlog
    refine .one hnewest step (hu _ hnew) left ⟨mid, hmid.queries, hmid.layers _ hnew, ?_, ?_, hlog⟩
      same
    · intro id hs
      rwa [hmid.others id fun c hc he => hs (he ▸ hu c hc)]
    · intro id hs
      by_cases hl : ∃ c ∈ q.layers, c.id = id
      · obtain ⟨c, hc, rfl⟩ := hl
        exact h.layers_executed wf hq hu c hc
      · rw [hmid.others id fun c hc he => hl ⟨c, hc, he⟩] at hs
        rwa [h.status_of_executed hs]
  · obtain ⟨c, hc, hs⟩ : ∃ c ∈ q.layers, s.status c.id ≠ .unexecuted := by simpa using hu
    obtain ⟨hlog, hnewest⟩ := h.silent wf hq hc hs
    have all : ∀ p, t.Has p → p.isTerminalStep = true → t.status p.id = s.status p.id := by
      intro p hp hstep
      by_cases he : p = q.newestStep
      · rw [he, hnewest]
      · exact same p hp hstep he
    rw [executed_eq_nil wft all]
    exact .nothing hlog all

/-- Where the log and the statuses stay, no terminal step is executed. -/
theorem executes_nothing (wf : t.WellFormed) (hlog : t.log = s.log)
    (hs : ∀ id, t.status id = s.status id) :
    Executes net s t ((s.executed t).map fun p => ⟨p, net.replyTo s p.chain⟩) := by
  rw [executed_eq_nil wf fun q _ _ => hs q.id]
  exact .nothing hlog fun q _ _ => hs q.id

theorem Moves.executes (h : Moves net s a answer t) (wf : s.WellFormed) :
    Executes net s t ((s.executed t).map fun p => ⟨p, net.replyTo s p.chain⟩) := by
  have wft := h.wellFormed wf
  cases h with
  | stays => exact executes_nothing wft rfl fun _ => rfl
  | builds => exact executes_nothing wft (log_push s _) (status_push s _)
  | @reads q hq =>
    rcases read_cases net q s with ⟨hterm, course⟩ | ⟨_, he⟩
    · exact course.executes wf hq hterm
    · rw [he] at wft ⊢
      exact executes_nothing wft rfl fun _ => rfl

theorem act_executes (wf : s.WellFormed) (a : Action) :
    Executes net s (s.act net a).2 (s.exchanged net a) :=
  (act_moves wf a).executes wf

end Act

/-! ## The replies to a link -/

theorem repliesTo_eq_singleton {sent : List Exchange} {x : Exchange}
    (hnd : (sent.map (·.query.id)).Nodup) (hx : x ∈ sent) :
    repliesTo sent x.query.id = [x.reply] := by
  induction sent with
  | nil => cases hx
  | cons y rest ih =>
    rw [List.map_cons, List.nodup_cons] at hnd
    obtain ⟨hy, hrest⟩ := hnd
    rcases List.mem_cons.mp hx with rfl | hx
    · have hnone : rest.filter (·.query.id == x.query.id) = [] := by
        refine List.filter_eq_nil_iff.mpr fun z hz he => hy ?_
        exact List.mem_map.mpr ⟨z, hz, by simpa using he⟩
      simp [repliesTo, hnone]
    · have hne : (y.query.id == x.query.id) = false := by
        refine beq_eq_false_iff_ne.mpr fun he => hy ?_
        exact List.mem_map.mpr ⟨x, hx, he.symm⟩
      have := ih hrest hx
      unfold repliesTo at this ⊢
      rw [List.filter_cons_of_neg (by simp [hne]), this]

end Session

end Traversal
