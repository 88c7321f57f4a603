import Traversal.Proofs.Session.Coherence

/-! # Finality

The first read of a link that gives an outcome settles it: all later reads give this outcome again,
whatever happens in between and whatever the endpoints would answer by then. A link whose execution
has broken off is settled as well, as interrupted. -/

namespace Traversal

namespace Session

/-- From now on reading the link gives this outcome and changes nothing, and its phase stays. The
actions in between and the read may meet endpoints that answer differently from those so far. -/
def Settled (s : Session) (link : LinkId) (outcome : Outcome) : Prop :=
  ∀ (net last : Network) (later : List Action),
    (run net s later).act last (.read link) = (.attempt (.ok outcome), run net s later) ∧
      (run net s later).phase link = s.phase link

theorem fetch_of_outcome {net : Network} {q : Query} {s : Session} {outcome : Outcome}
    (h : (s.status q.id).outcome? = some outcome) : fetch net q s = (.ok outcome, s) := by
  cases q <;> exact once_of_outcome h

section Settling

variable {s : Session} {q : Query}

/-- A terminal link that has an outcome is settled. -/
theorem settled_of_outcome {outcome : Outcome} (wf : s.WellFormed) (hq : s.Has q)
    (hterm : q.chain.isTerminal = true) (h : (s.status q.id).outcome? = some outcome) :
    s.Settled q.id outcome := by
  intro net last later
  have hne := (Status.Gives.outcome h).ne_unexecuted
  have hs : (run net s later).status q.id = s.status q.id := run_status_of_executed wf hne later
  have hlater : (run net s later).Has q := run_has wf hq later
  constructor
  · rw [act_read hlater, read, if_pos hterm, fetch_of_outcome (by rwa [hs])]
  · rw [phase, phase, hs]

/-- A link that is not terminal is settled: reading it is refused. -/
theorem settled_of_not_terminal (wf : s.WellFormed) (hq : s.Has q)
    (hn : q.chain.isTerminal = false) : s.Settled q.id
      (.error (.usage (.notExecutable q.chain.text q.chain.isMorphism))) := by
  intro net last later
  have hs : (run net s later).status q.id = s.status q.id :=
    run_status_of_not_terminal wf hq hn later
  have hlater : (run net s later).Has q := run_has wf hq later
  constructor
  · rw [act_read hlater, read, if_neg (by simp [hn])]
  · rw [phase, phase, hs]

theorem WellFormed.exists_of_executed (wf : s.WellFormed) {link : LinkId}
    (h : s.status link ≠ .unexecuted) : ∃ q, s.Has q ∧ q.id = link := by
  have hget := List.getElem?_eq_getElem (lt_of_status_ne h)
  exact ⟨_, wf.has hget, wf.id_eq link _ hget⟩

theorem Coherent.isTerminal_of_executed {sent : List Exchange} (h : Coherent sent s)
    (hq : s.Has q) (hs : s.status q.id ≠ .unexecuted) : q.chain.isTerminal = true := by
  cases hterm : q.chain.isTerminal with
  | true => rfl
  | false => exact absurd (h.idle q hq hterm) hs

theorem read_of_attempt {net : Network} (wf : s.WellFormed) {link : LinkId} {attempt : Attempt}
    {t : Session} (h : s.act net (.read link) = (.attempt attempt, t)) :
    ∃ q, s.Has q ∧ q.id = link ∧ s.read net q = (attempt, t) := by
  simp only [act, atLink] at h
  cases hq : s.queries[link]? with
  | none =>
    rw [hq] at h
    cases h
  | some q =>
    rw [hq] at h
    obtain ⟨ha, ht⟩ := Prod.mk.inj h
    exact ⟨q, wf.has hq, wf.id_eq link q hq, Prod.ext (Answer.attempt.inj ha) ht⟩

end Settling

/-- What reading a link does to it for good. -/
structure Final (net : Network) (s : Session) (link : LinkId) : Prop where
  /-- A read that gives an outcome settles the link. -/
  settles : ∀ outcome t, s.act net (.read link) = (.attempt (.ok outcome), t) →
    t.Settled link outcome
  /-- A read that breaks off leaves the link executing. -/
  breaks : ∀ crash t, s.act net (.read link) = (.attempt (.error crash), t) →
    t.phase link = .executing
  /-- A link that is left executing, by a read of its own or one through another link, is settled
  as interrupted. -/
  interrupted : s.phase link = .executing → s.Settled link (.error (.transport .interrupted))
  /-- A link that has been executed, or is left executing, keeps its phase. -/
  keeps : s.phase link ≠ .unexecuted → ∀ (later : Network) (actions : List Action),
    (run later s actions).phase link = s.phase link

/-- In every run, what a read gives is final. -/
theorem run_final (net : Network) (actions : List Action) (link : LinkId) :
    Final net (run net {} actions) link := by
  have coherent := run_coherent net actions
  have wf : (run net {} actions).WellFormed := run_wellFormed wellFormed_empty actions
  constructor
  case settles =>
    intro outcome t h
    obtain ⟨q, hq, rfl, hr⟩ := read_of_attempt wf h
    rcases read_cases net q (run net {} actions) with ⟨hterm, course⟩ | ⟨hn, he⟩
    · rw [hr] at course
      exact settled_of_outcome (wf.of_queries_eq course.queries_eq)
        (hq.of_queries_eq course.queries_eq) hterm (Status.gives_ok.mp (course.gives hq))
    · rw [he] at hr
      obtain ⟨ho, rfl⟩ := Prod.mk.inj hr
      obtain rfl := Except.ok.inj ho
      exact settled_of_not_terminal wf hq hn
  case breaks =>
    intro crash t h
    obtain ⟨q, hq, rfl, hr⟩ := read_of_attempt wf h
    rcases read_cases net q (run net {} actions) with ⟨_, course⟩ | ⟨_, he⟩
    · rw [hr] at course
      exact Status.phase_eq_executing.mpr (Status.gives_crash.mp (course.gives hq))
    · rw [he] at hr
      cases hr
  case interrupted =>
    intro h
    have hs := Status.phase_eq_executing.mp h
    have hne : (run net {} actions).status link ≠ .unexecuted := by simp [hs]
    obtain ⟨q, hq, rfl⟩ := wf.exists_of_executed hne
    exact settled_of_outcome wf hq (coherent.isTerminal_of_executed hq hne) (by rw [hs]; rfl)
  case keeps =>
    intro h later after
    have hne : (run net {} actions).status link ≠ .unexecuted :=
      fun hu => h (Status.phase_eq_unexecuted.mpr hu)
    rw [phase, run_status_of_executed wf hne after, phase]

end Session

end Traversal
