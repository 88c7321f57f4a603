import Traversal.Proofs.Session.Coherence

/-! # Submissions

The log of a session against the phases of its links: one entry for every terminal step that has
been executed, in the order in which they were, and none for anything else. This holds between
actions and, by the phases that each entry notes, also at the moments when texts go out. -/

namespace Traversal

namespace Session

/-- What the entries of the log note about the phases at their moments. -/
structure Observed (sent : List Exchange) (s : Session) : Prop where
  untouched : ∀ e ∈ s.log, ∀ (id : LinkId) (phase : Phase), e.phases[id]? = some phase →
    phase ≠ .unexecuted → s.status id ≠ .unexecuted
  midway : ∀ (i j : Nat) (e : Submission) (x : Exchange), s.log[i]? = some e →
    sent[j]? = some x →
    ((∃ phase, e.phases[x.query.id]? = some phase ∧ phase ≠ .unexecuted) ↔ j ≤ i)

theorem observed_empty : Observed [] {} where
  untouched e he := by cases he
  midway i j e x he := by simp at he

theorem textsTo_eq (s : Session) (graph : GraphId) : s.textsTo graph =
    ((s.log.map fun e => (e.graph, e.text)).filter (·.1 == graph)).map (·.2) := by
  simp [textsTo, List.filter_map, Function.comp_def]

theorem Coherent.textsTo {sent : List Exchange} {s : Session} (h : Coherent sent s)
    (graph : GraphId) : s.textsTo graph =
      (sent.filter (·.query.chain.graph == graph)).map (·.query.chain.text) := by
  rw [textsTo_eq, h.logged]
  simp [List.filter_map, Function.comp_def]

theorem Coherent.length_log {sent : List Exchange} {s : Session} (h : Coherent sent s) :
    s.log.length = sent.length := by
  simpa using congrArg List.length h.logged

/-- The layers under an executed link have been executed. -/
theorem Coherent.layers_executed {sent : List Exchange} {s : Session} (h : Coherent sent s)
    (wf : s.WellFormed) {q : Query} (hq : s.Has q) (hs : s.status q.id ≠ .unexecuted) :
    ∀ c ∈ q.layers, s.status c.id ≠ .unexecuted := by
  induction q with
  | vertex | morphism | step =>
    intro c hc
    obtain rfl := List.mem_singleton.mp hc
    exact hs
  | client id pred op ih =>
    intro c hc
    rcases List.mem_cons.mp hc with rfl | hc
    · exact hs
    · have under := (h.follows id pred op hq hs).base_ne_unexecuted
      exact ih (wf.pred _ pred hq rfl).1 under c hc

/-- Where the newest step of a query has not been executed, none of its operators has. -/
theorem Coherent.layers_unexecuted {sent : List Exchange} {s : Session} (h : Coherent sent s)
    (wf : s.WellFormed) {q : Query} (hq : s.Has q)
    (hs : s.status q.newestStep.id = .unexecuted) :
    ∀ c ∈ q.layers, s.status c.id = .unexecuted := by
  intro c hc
  apply Decidable.byContradiction
  intro hne
  have newest := h.layers_executed wf (wf.layers hq hc).1 hne _ c.newestStep_mem_layers
  rw [Query.newestStep_of_mem_layers hc] at newest
  exact newest hs

section Act

variable {net : Network} {s t : Session} {a : Action} {answer : Answer} {sent new : List Exchange}

/-- The phases that go with a text show each link that has been begun by then. -/
theorem GoesOut.exists_phase {q p : Query} {mid : Session} (out : GoesOut q s mid t) (hp : s.Has p)
    (begun : mid.status p.id ≠ .unexecuted) :
    ∃ phase, mid.phases[p.id]? = some phase ∧ phase ≠ .unexecuted := by
  refine ⟨mid.phase p.id, mid.phases_getElem? ?_, ?_⟩
  · rw [out.queries]
    exact hp.lt
  · exact fun hu => begun (Status.phase_eq_unexecuted.mp hu)

/-- What they show as begun stays so. -/
theorem GoesOut.left_of_phase {q : Query} {mid : Session} (out : GoesOut q s mid t) {id : LinkId}
    {phase : Phase} (shown : mid.phases[id]? = some phase) (begun : phase ≠ .unexecuted) :
    t.status id ≠ .unexecuted := by
  refine out.after id fun hu => begun ?_
  rw [← phase_of_phases shown]
  exact Status.phase_eq_unexecuted.mpr hu

/-- What one action keeps. -/
theorem Observed.append (h : Observed sent s) (c : Coherent sent s)
    (move : Moves net s a answer t) (ex : Executes net s t new) : Observed (sent ++ new) t := by
  have old : ∀ e ∈ s.log, ∀ (id : LinkId) (phase : Phase), e.phases[id]? = some phase →
      phase ≠ .unexecuted → t.status id ≠ .unexecuted := by
    intro e he id phase hp hne
    have hs := h.untouched e he id phase hp hne
    rwa [move.status_of_executed hs]
  cases ex with
  | nothing log _ =>
    rw [List.append_nil]
    exact ⟨by rwa [log], by rw [log]; exact h.midway⟩
  | @one q hq _ fresh _ out _ =>
    obtain ⟨mid, out⟩ := out
    constructor
    case untouched =>
      intro e he id phase hp hne
      rw [out.log] at he
      rcases List.mem_append.mp he with he | he
      · exact old e he id phase hp hne
      · obtain rfl := List.mem_singleton.mp he
        exact out.left_of_phase hp hne
    case midway =>
      intro i j e x he hx
      rw [out.log] at he
      rcases getElem?_concat_cases he with ⟨hi, he⟩ | ⟨hi, rfl⟩ <;>
        rcases getElem?_concat_cases hx with ⟨hj, hx⟩ | ⟨hj, rfl⟩
      · exact h.midway i j e x he hx
      · -- a step that is executed now was untouched when the earlier texts went out
        have hlt : ¬ j ≤ i := by
          rw [hj, ← c.length_log]
          exact Nat.not_le_of_lt hi
        refine iff_of_false ?_ hlt
        rintro ⟨phase, hp, hne⟩
        exact h.untouched e (List.mem_of_getElem? he) q.id phase hp hne fresh
      · -- the steps executed before are still executed when this text goes out
        have hle : j ≤ i := by
          rw [hi, c.length_log]
          exact Nat.le_of_lt hj
        obtain ⟨hhas, _, hs⟩ :=
          (c.executed x.query).mp (List.mem_map_of_mem (List.mem_of_getElem? hx))
        exact iff_of_true (out.exists_phase hhas (out.before _ hs)) hle
      · have hle : j ≤ i := Nat.le_of_eq (by rw [hi, hj, c.length_log])
        have own : mid.status q.id ≠ .unexecuted := by simp [out.own]
        exact iff_of_true (out.exists_phase hq own) hle

/-- An action that does not read a query whose terminal step is unexecuted sends nothing. -/
theorem Moves.silent (h : Moves net s a answer t) (wf : s.WellFormed)
    (hs : ∀ q, a = .read q.id → s.Has q → q.chain.isTerminal = true →
      s.status q.newestStep.id ≠ .unexecuted) : t.log = s.log := by
  cases h with
  | stays => rfl
  | builds => rfl
  | @reads q hq =>
    rcases read_cases net q s with ⟨hterm, course⟩ | ⟨_, he⟩
    · exact (course.silent wf hq q.newestStep_mem_layers (hs q rfl hq hterm)).1
    · rw [he]

end Act

theorem run_observed (net : Network) (actions : List Action) :
    Observed (exchanges net {} actions) (run net {} actions) := by
  have h : Coherent ([] ++ exchanges net {} actions) (run net {} actions) ∧
      Observed ([] ++ exchanges net {} actions) (run net {} actions) :=
    run_induction (P := fun sent s => Coherent sent s ∧ Observed sent s)
      (fun sent s a wf h => ⟨h.1.append wf (act_moves wf a) (act_executes wf a),
        h.2.append h.1 (act_moves wf a) (act_executes wf a)⟩)
      actions [] wellFormed_empty ⟨coherent_empty, observed_empty⟩
  exact h.2

/-- The log, read against the phases of the links: `sent` lists the terminal steps in the order in
which they were executed. -/
structure Accounted (net : Network) (sent : List Exchange) (s : Session) : Prop where
  texts : ∀ graph, s.textsTo graph =
    (sent.filter (·.query.chain.graph == graph)).map (·.query.chain.text)
  once : (sent.map (·.query.id)).Nodup
  executed : ∀ q, q ∈ sent.map (·.query) ↔
    s.Has q ∧ q.isTerminalStep = true ∧ s.phase q.id ≠ .unexecuted
  /-- When the entry at position `i` went out, just the first `i + 1` of them were executed. -/
  midway : ∀ (i j : Nat) (e : Submission) (x : Exchange), s.log[i]? = some e →
    sent[j]? = some x →
    ((∃ phase, e.phases[x.query.id]? = some phase ∧ phase ≠ .unexecuted) ↔ j ≤ i)
  /-- Reading a query whose terminal step is unexecuted sends its text once. -/
  sends : ∀ q, s.Has q → q.chain.isTerminal = true → s.phase q.newestStep.id = .unexecuted →
    ∃ phases, (s.act net (.read q.id)).2.log = s.log ++ [⟨q.chain.graph, q.chain.text, phases⟩]
  /-- Nothing else sends anything. -/
  silent : ∀ a, (∀ q, a = .read q.id → s.Has q → q.chain.isTerminal = true →
    s.phase q.newestStep.id ≠ .unexecuted) → (s.act net a).2.log = s.log

/-- After any run the log has one entry for each executed terminal step, in order. -/
theorem run_accounted (net : Network) (actions : List Action) :
    Accounted net (exchanges net {} actions) (run net {} actions) := by
  have h := run_coherent net actions
  have wf : (run net {} actions).WellFormed := run_wellFormed wellFormed_empty actions
  constructor
  case texts => exact h.textsTo
  case once => exact h.nodup
  case executed =>
    intro q
    rw [h.executed q, phase, Ne, Ne, Status.phase_eq_unexecuted]
  case midway => exact (run_observed net actions).midway
  case sends =>
    intro q hq hterm hu
    have layers := h.layers_unexecuted wf hq (Status.phase_eq_unexecuted.mp hu)
    rw [act_read hq]
    obtain ⟨⟨mid, _, hlog⟩, _⟩ := (read_course _ hterm).sends wf hq layers
    exact ⟨mid.phases, hlog⟩
  case silent =>
    intro a ha
    refine (act_moves wf a).silent wf fun q he hq hterm hs => ?_
    exact ha q he hq hterm (Status.phase_eq_unexecuted.mpr hs)

end Session

end Traversal
