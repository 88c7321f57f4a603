import Mathlib.Data.List.TakeWhile
import Traversal.Proofs.Session.Run

/-! # The frame of a read

What a read can touch is the query itself and the queries under it one by one, as long as they are
unexecuted and down to the terminal step at most. These links have changed when the read is over,
they are seen executing when it sends, and every other link stays as it was. -/

namespace Traversal

namespace Session

/-- The links that reading a terminal query executes. -/
def segment (s : Session) (q : Query) : List Query :=
  q.layers.takeWhile fun c => s.phase c.id == .unexecuted

/-! ## Segments -/

section Segment

variable {s t : Session} {q c : Query}

theorem segment_of_executed (h : s.status q.id ≠ .unexecuted) : s.segment q = [] := by
  have hp : (s.phase q.id == .unexecuted) = false := by
    simpa [phase, Status.phase_eq_unexecuted] using h
  cases q <;> simp [segment, Query.layers, hp]

theorem segment_of_kind {kind : StepKind} (hk : q.chain.kind? = some kind)
    (h : s.status q.id = .unexecuted) : s.segment q = [q] := by
  simp [segment, Query.layers_of_kind hk, phase, h, Status.phase]

theorem segment_client {id : LinkId} {pred : Query} {op : ClientOp}
    (h : s.status id = .unexecuted) :
    s.segment (.client id pred op) = .client id pred op :: s.segment pred := by
  simp [segment, Query.layers, Query.id, phase, h, Status.phase]

theorem mem_layers_of_mem_segment (h : c ∈ s.segment q) : c ∈ q.layers :=
  (List.takeWhile_sublist _).mem h

/-- Where no layer has been executed, all of them are in the segment. -/
theorem segment_eq_layers (h : ∀ c ∈ q.layers, s.status c.id = .unexecuted) :
    s.segment q = q.layers := by
  refine List.takeWhile_eq_self_iff.mpr fun c hc => ?_
  simp [phase, h c hc, Status.phase]

/-- The segment depends on the statuses of the layers only. -/
theorem segment_congr (h : ∀ c ∈ q.layers, t.status c.id = s.status c.id) :
    t.segment q = s.segment q := by
  unfold segment
  generalize q.layers = layers at h
  induction layers with
  | nil => rfl
  | cons c rest ih =>
    rw [List.forall_mem_cons] at h
    have hp : t.phase c.id = s.phase c.id := congrArg Status.phase h.1
    rw [List.takeWhile_cons, List.takeWhile_cons, hp, ih h.2]

/-- The segment under an operator's link while that link is executing. -/
theorem WellFormed.segment_begun (wf : s.WellFormed) {own : LinkId} {pred : Query} {op : ClientOp}
    (hq : s.Has (.client own pred op)) :
    (s.setStatus own .executing).segment pred = s.segment pred :=
  segment_congr fun _ hc => status_setStatus_ne _ (wf.layers_ne hq hc)

end Segment

section Course

variable {net : Network} {q : Query} {s t : Session} {attempt : Attempt}

namespace Fetches

/-- Reading a link that is not unexecuted leaves the session as it is. -/
theorem eq_of_executed (h : Fetches net q s attempt t) (hne : s.status q.id ≠ .unexecuted) :
    t = s := by
  cases h with
  | kept => rfl
  | sent _ hu => exact absurd hu hne
  | layered hu _ => exact absurd hu hne

/-- The links that a read changes are those of the segment. -/
theorem changed_iff (h : Fetches net q s attempt t) (wf : s.WellFormed) (hq : s.Has q)
    {id : LinkId} : t.status id ≠ s.status id ↔ ∃ c ∈ s.segment q, c.id = id := by
  induction h with
  | kept h =>
    have hne := (Status.Gives.outcome h).ne_unexecuted
    simp [segment_of_executed hne]
  | @sent q s _ hk hu =>
    have course : Fetches net q s _ _ := .sent hk hu
    rw [segment_of_kind hk hu]
    constructor
    · intro hid
      obtain ⟨_, c, hc, he⟩ := course.changed hid
      rw [Query.layers_of_kind hk] at hc
      exact ⟨c, hc, he⟩
    · rintro ⟨c, hc, rfl⟩
      obtain rfl := List.mem_singleton.mp hc
      rw [course.left_of_unexecuted hq hu, hu]
      exact Status.left_ne_unexecuted _
  | @layered own pred op s t attempt hu under ih =>
    have course : Fetches net (.client own pred op) s _ _ := .layered hu under
    obtain ⟨wfu, hp⟩ := wf.begun hq
    rw [segment_client hu]
    by_cases he : id = own
    · subst he
      refine iff_of_true ?_ ⟨_, List.mem_cons_self, rfl⟩
      have hl : (t.finish id (op.settle attempt)).status id = .left (op.settle attempt) :=
        course.left_of_unexecuted hq hu
      rw [hl, hu]
      exact Status.left_ne_unexecuted _
    · have inner := ih wfu hp
      rw [status_setStatus_ne _ he, wf.segment_begun hq] at inner
      rw [status_finish_ne _ he, inner]
      constructor
      · rintro ⟨c, hc, hid⟩
        exact ⟨c, List.mem_cons_of_mem _ hc, hid⟩
      · rintro ⟨c, hc, hid⟩
        rcases List.mem_cons.mp hc with rfl | hc
        · exact absurd hid.symm he
        · exact ⟨c, hc, hid⟩

/-- All links of the segment are left with attempts of the kind that the read gives, for kinds that
an operator's link has only from the link under it. -/
theorem segment_left {P : Attempt → Prop}
    (under : ∀ (op : ClientOp) attempt, P (op.settle attempt) → P attempt)
    (h : Fetches net q s attempt t) (wf : s.WellFormed) (hq : s.Has q) (hp : P attempt) {c : Query}
    (hc : c ∈ s.segment q) : ∃ own, P own ∧ t.status c.id = .left own := by
  induction h with
  | kept h =>
    have hne := (Status.Gives.outcome h).ne_unexecuted
    rw [segment_of_executed hne] at hc
    cases hc
  | @sent q s _ hk hu =>
    have course : Fetches net q s _ _ := .sent hk hu
    rw [segment_of_kind hk hu] at hc
    obtain rfl := List.mem_singleton.mp hc
    exact ⟨_, hp, course.left_of_unexecuted hq hu⟩
  | @layered own pred op s t attempt hu inner ih =>
    have course : Fetches net (.client own pred op) s _ _ := .layered hu inner
    obtain ⟨wfu, hpred⟩ := wf.begun hq
    rw [segment_client hu] at hc
    rcases List.mem_cons.mp hc with rfl | hc
    · exact ⟨_, hp, course.left_of_unexecuted hq hu⟩
    · rw [status_finish_ne _ (wf.layers_ne hq (mem_layers_of_mem_segment hc))]
      refine ih wfu hpred (under op attempt hp) ?_
      rwa [wf.segment_begun hq]

/-- A read that sends executes all layers of the query, and sends once. -/
theorem sending (h : Fetches net q s attempt t) (wf : s.WellFormed) (hq : s.Has q)
    (sent : t.log ≠ s.log) : s.segment q = q.layers ∧ ∃ mid, Sending q s mid ∧
      t.log = s.log ++ [⟨q.chain.graph, q.chain.text, mid.phases⟩] := by
  have fresh : ∀ c ∈ q.layers, s.status c.id = .unexecuted := by
    intro c hc
    apply Decidable.byContradiction
    intro hs
    exact sent (h.silent wf hq hc hs).1
  exact ⟨segment_eq_layers fresh, (h.sends wf hq fresh).1⟩

end Fetches

end Course

/-- What a read of a link does to the links of the session, during the read and after it. -/
structure Framed (net : Network) (s : Session) (q : Query) : Prop where
  /-- A query that is not terminal is refused, and nothing changes. -/
  refused : q.chain.isTerminal = false → s.read net q =
    (.ok (.error (.usage (.notExecutable q.chain.text q.chain.isMorphism))), s)
  /-- A link that is not unexecuted is only looked at. -/
  kept : s.phase q.id ≠ .unexecuted → (s.read net q).2 = s
  queries : (s.read net q).2.queries = s.queries
  changed_iff : q.chain.isTerminal = true → ∀ id,
    (s.read net q).2.status id ≠ s.status id ↔ ∃ c ∈ s.segment q, c.id = id
  /-- What is seen when the read sends. -/
  sending : (s.read net q).2.log ≠ s.log → ∃ phases,
    (s.read net q).2.log = s.log ++ [⟨q.chain.graph, q.chain.text, phases⟩] ∧
      phases.length = s.queries.length ∧ ∀ id phase, phases[id]? = some phase →
        ((∃ c ∈ s.segment q, c.id = id) → phase = .executing) ∧
        ((∀ c ∈ s.segment q, c.id ≠ id) → phase = s.phase id)
  cached : q.chain.isTerminal = true → ∀ set, (s.read net q).1 = .ok (.ok set) →
    ∀ c ∈ s.segment q, (s.read net q).2.phase c.id = .cached
  failed : q.chain.isTerminal = true → ∀ error, (s.read net q).1 = .ok (.error error) →
    ∀ c ∈ s.segment q, (s.read net q).2.status c.id = .failed error

theorem length_phases (s : Session) : s.phases.length = s.queries.length := by
  simp [phases, queries]

/-- After any run, a read keeps to its frame. -/
theorem run_framed (net later : Network) (actions : List Action) (q : Query)
    (hq : (run net {} actions).Has q) : Framed later (run net {} actions) q := by
  have wf : (run net {} actions).WellFormed := run_wellFormed wellFormed_empty actions
  generalize run net {} actions = s at hq wf
  have course : q.chain.isTerminal = true → Fetches later q s _ _ := read_course s
  constructor
  case refused =>
    intro hn
    rw [read, if_neg (by simp [hn])]
  case kept =>
    intro h
    have hne : s.status q.id ≠ .unexecuted := fun hu => h (Status.phase_eq_unexecuted.mpr hu)
    rcases read_cases later q s with ⟨_, course⟩ | ⟨_, he⟩
    · exact course.eq_of_executed hne
    · rw [he]
  case queries =>
    rcases read_cases later q s with ⟨_, course⟩ | ⟨_, he⟩
    · exact course.queries_eq
    · rw [he]
  case changed_iff =>
    intro hterm id
    exact (course hterm).changed_iff wf hq
  case sending =>
    intro hlog
    rcases read_cases later q s with ⟨_, course⟩ | ⟨_, he⟩
    · obtain ⟨hsegment, mid, moment, hlog⟩ := course.sending wf hq hlog
      refine ⟨mid.phases, hlog, by rw [length_phases, moment.queries], fun id seen hp => ?_⟩
      obtain rfl := phase_of_phases hp
      rw [hsegment]
      constructor
      · rintro ⟨c, hc, rfl⟩
        exact Status.phase_eq_executing.mpr (moment.layers c hc)
      · intro hid
        exact congrArg Status.phase (moment.others id hid)
    · rw [he] at hlog
      exact absurd rfl hlog
  case cached =>
    intro hterm set hset c hc
    have under : ∀ (op : ClientOp) attempt, (∃ set, op.settle attempt = .ok (.ok set)) →
        ∃ set, attempt = .ok (.ok set) := by
      rintro op attempt ⟨set, h⟩
      obtain ⟨base, hbase, _⟩ := ClientOp.settle_eq_ok.mp h
      exact ⟨base, hbase⟩
    obtain ⟨_, ⟨own, rfl⟩, hl⟩ := (course hterm).segment_left
      (P := fun attempt => ∃ set, attempt = .ok (.ok set)) under wf hq ⟨set, hset⟩ hc
    rw [phase, hl]
    rfl
  case failed =>
    intro hterm error herror c hc
    have under : ∀ (op : ClientOp) attempt, op.settle attempt = .ok (.error error) →
        attempt = .ok (.error error) := fun _ _ => ClientOp.settle_eq_error.mp
    obtain ⟨_, rfl, hl⟩ := (course hterm).segment_left (P := (· = .ok (.error error))) under wf hq
      herror hc
    exact hl

/-- Two operators over a step, read one after the other. -/
theorem run_framed_shared :
    let net : Network := fun _ _ _ => .failure (.unreachable "down")
    let actions : List Action :=
      [.vertex 0 [], .add 0 .all [], .client 1 .distinct, .client 2 .distinct, .read 2]
    let q : Query := .client 3 (.client 2 (.step 1 (.vertex 0 0 []) .all []) .distinct) .distinct
    (run net {} actions).Has q ∧ Framed net (run net {} actions) q := by
  intro net actions q
  have hq : (run net {} actions).Has q := rfl
  exact ⟨hq, run_framed net net actions q hq⟩

end Session

end Traversal
