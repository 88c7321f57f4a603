import Traversal.Proofs.ClientOp.OnePass
import Traversal.Proofs.Reply.Interpretation
import Traversal.Proofs.Session.Submissions

/-! # The layered and the flat pipeline

A query is read link by link, each operator over what the link under it keeps. In a run in which no
read has broken off this gives what the flat pipeline gives: the operators of the whole chain, root
first, over the records of the one reply to its terminal step. Where the operators of the query
never break off, other reads may have done so. -/

namespace Traversal

/-- The answer is that a read broke off. -/
def Answer.brokeOff : Answer → Bool
  | attempt (.error _) => true
  | _ => false

namespace Status

/-- What a link keeps is all that reading it can give. -/
theorem Gives.eq_of_ofOutcome {outcome : Outcome} {attempt : Attempt}
    (h : (ofOutcome outcome).Gives attempt) : attempt = .ok outcome := by
  cases attempt with
  | ok other =>
    rw [gives_ok, outcome?_ofOutcome] at h
    rw [Option.some.inj h]
  | error crash => exact absurd (gives_crash.mp h) (ofOutcome_ne_executing outcome)

end Status

namespace Session

variable {net : Network} {s t : Session}

/-! ## Where nothing breaks off -/

theorem Moves.status_ne_executing {a : Action} {answer : Answer} (h : Moves net s a answer t)
    (wf : s.WellFormed) (calm : answer.brokeOff = false)
    (hs : ∀ id, s.status id ≠ .executing) : ∀ id, t.status id ≠ .executing := by
  intro id
  cases h with
  | stays => exact hs id
  | builds => rw [status_push]; exact hs id
  | @reads q hq =>
    rcases read_cases net q s with ⟨_, course⟩ | ⟨_, he⟩
    · cases hr : (s.read net q).1 with
      | error crash =>
        rw [hr] at calm
        cases calm
      | ok outcome => exact course.status_ne_executing wf hq hr (hs id)
    · rw [he]
      exact hs id

/-- Where no read has broken off, no link is left executing. -/
theorem run_status_ne_executing (wf : s.WellFormed) (hs : ∀ id, s.status id ≠ .executing)
    (actions : List Action) (calm : ∀ answer ∈ answers net s actions, answer.brokeOff = false) :
    ∀ id, (run net s actions).status id ≠ .executing := by
  induction actions generalizing s with
  | nil => exact hs
  | cons a rest ih =>
    rw [answers, List.forall_mem_cons] at calm
    have move : Moves net s a _ _ := act_moves wf a
    exact ih (move.wellFormed wf) (move.status_ne_executing wf calm.1 hs) calm.2

/-- The layers that have been executed keep what the reply to the newest step comes to for them, if
no layer for which it breaks off is left executing. -/
theorem Coherent.layers_settled {sent : List Exchange} (h : Coherent sent s) (wf : s.WellFormed)
    {q : Query} (hq : s.Has q) {reply : Reply}
    (hs : ∀ c ∈ q.layers, s.status c.id = .executing →
      ∃ outcome, reply.settle c.chain = .ok outcome)
    (hr : s.status q.newestStep.id ≠ .unexecuted →
      s.status q.newestStep.id = .left (reply.settle q.newestStep.chain)) :
    ∀ c ∈ q.layers, s.status c.id ≠ .unexecuted →
      ∃ outcome, reply.settle c.chain = .ok outcome ∧ s.status c.id = .ofOutcome outcome := by
  -- an attempt that is left at a layer is an outcome, or else the layer would be executing
  have keeps : ∀ {c : Query}, c ∈ q.layers → s.status c.id = .left (reply.settle c.chain) →
      ∃ outcome, reply.settle c.chain = .ok outcome ∧ s.status c.id = .ofOutcome outcome := by
    intro c hc hl
    cases ha : reply.settle c.chain with
    | ok outcome => exact ⟨outcome, rfl, by rw [hl, ha]; rfl⟩
    | error crash =>
      obtain ⟨outcome, ho⟩ := hs c hc (by rw [hl, ha]; rfl)
      rw [ha] at ho
      cases ho
  induction q with
  | vertex | morphism | step =>
    intro c hc hne
    obtain rfl := List.mem_singleton.mp hc
    exact keeps hc (hr hne)
  | client id pred op ih =>
    intro c hc hne
    have inner : ∀ {c : Query}, c ∈ pred.layers → c ∈ (Query.client id pred op).layers :=
      List.mem_cons_of_mem _
    have under := ih (wf.pred _ pred hq rfl).1 (fun c hc => hs c (inner hc)) hr
      fun hc => keeps (inner hc)
    rcases List.mem_cons.mp hc with rfl | hc
    · obtain ⟨attempt, hg, hl⟩ := h.follows id pred op hq hne
      obtain ⟨outcome, hpred, hkept⟩ := under pred pred.mem_layers_self hg.ne_unexecuted
      rw [hkept] at hg
      rw [hg.eq_of_ofOutcome, ← hpred, ← Reply.settle_client] at hl
      exact keeps List.mem_cons_self hl
    · exact under c hc hne

/-! ## What a read gives -/

/-- The exchange of the newest step is there after a read. -/
theorem Coherent.exchange_of_read {sent : List Exchange} (h : Coherent sent s) (net : Network)
    (wf : s.WellFormed) {q : Query} (hq : s.Has q) (hterm : q.chain.isTerminal = true) : ∃ reply,
      ⟨q.newestStep, reply⟩ ∈ sent ++ s.exchanged net (.read q.id) ∧
      (s.status q.newestStep.id = .unexecuted → reply = net.replyTo s q.newestStep.chain) ∧
      (s.status q.newestStep.id ≠ .unexecuted →
        s.status q.newestStep.id = .left (reply.settle q.newestStep.chain)) := by
  have hnew := (wf.layers hq q.newestStep_mem_layers).1
  have step : q.newestStep.isTerminalStep = true := by rwa [← Query.isTerminal_eq]
  by_cases hu : s.status q.newestStep.id = .unexecuted
  · have layers := h.layers_unexecuted wf hq hu
    refine ⟨net.replyTo s q.newestStep.chain, List.mem_append_right _ ?_, fun _ => rfl,
      fun hne => absurd hu hne⟩
    have course : Fetches net q s _ _ := read_course s hterm
    refine List.mem_map.mpr ⟨q.newestStep, mem_executed.mpr ?_, rfl⟩
    rw [act_read hq]
    exact ⟨(hnew.of_queries_eq course.queries_eq).mem, step, hu,
      course.layers_executed wf hq layers _ q.newestStep_mem_layers⟩
  · obtain ⟨⟨p, reply⟩, hx, rfl⟩ := List.mem_map.mp ((h.executed q.newestStep).mpr ⟨hnew, step, hu⟩)
    exact ⟨reply, List.mem_append_left _ hx, fun he => absurd he hu, fun _ => h.settled _ hx⟩

/-- The exchange of the newest step is there after a read, and fits what has been kept. -/
theorem Coherent.read_exchange {sent : List Exchange} (h : Coherent sent s) (net : Network)
    (wf : s.WellFormed)
    (hs : ∀ id, s.status id ≠ .executing) {q : Query}
    (hq : s.Has q) (hterm : q.chain.isTerminal = true) : ∃ reply,
      ⟨q.newestStep, reply⟩ ∈ sent ++ s.exchanged net (.read q.id) ∧
      (s.status q.newestStep.id = .unexecuted → reply = net.replyTo s q.newestStep.chain) ∧
      ∀ c ∈ q.layers, s.status c.id ≠ .unexecuted →
        ∃ outcome, reply.settle c.chain = .ok outcome ∧ s.status c.id = .ofOutcome outcome := by
  obtain ⟨reply, hx, hnew, hr⟩ := h.exchange_of_read net wf hq hterm
  exact ⟨reply, hx, hnew, h.layers_settled wf hq (fun c _ he => absurd he (hs c.id)) hr⟩

/-- The reply in the exchange of the newest step is the only one to it. -/
theorem repliesTo_read {actions : List Action} {q : Query} {reply : Reply}
    (hx : ⟨q.newestStep, reply⟩ ∈
      exchanges net {} actions ++ (run net {} actions).exchanged net (.read q.id)) :
    repliesTo (exchanges net {} (actions ++ [.read q.id])) q.newestStep.id = [reply] := by
  have hn := (run_coherent net (actions ++ [.read q.id])).nodup
  rw [exchanges_concat] at hn ⊢
  exact repliesTo_eq_singleton hn hx

/-- Where no read before has broken off, reading a terminal query gives what the flat pipeline makes
of the one reply to its terminal step: the error of the transport or of the reply, or what all
operators of the chain make of the records in it. -/
theorem read_eq_pipeline (net : Network) (actions : List Action) (q : Query)
    (calm : ∀ answer ∈ answers net {} actions, answer.brokeOff = false)
    (hq : (run net {} actions).Has q) (hterm : q.chain.isTerminal = true) :
    ∃ reply, repliesTo (exchanges net {} (actions ++ [.read q.id])) q.newestStep.id = [reply] ∧
      ((run net {} actions).act net (.read q.id)).1 = .attempt (
        match reply with
        | .crash cause => .error cause
        | .failure cause => .ok (.error (.transport cause))
        | .answer response =>
          match response.interpret q.chain.tags with
          | .error error => .ok (.error error)
          | .ok parsed => (ClientOp.applyAll q.chain.clientOps parsed).map .ok) := by
  have h := run_coherent net actions
  have wf : (run net {} actions).WellFormed := run_wellFormed wellFormed_empty actions
  have hs := run_status_ne_executing wellFormed_empty (fun id => by simp [status]) actions calm
  obtain ⟨reply, hx, hnew, hold⟩ := h.read_exchange net wf hs hq hterm
  refine ⟨reply, repliesTo_read hx, ?_⟩
  have flat := (read_course _ hterm).eq_settle wf hq hnew hold
  rw [Reply.settle_eq] at flat
  rw [act_read hq]
  exact congrArg Answer.attempt flat

/-- An operator over a step that has been read already. -/
theorem read_eq_pipeline_shared :
    let net : Network := fun _ _ _ =>
      .answer ⟨200, "\x7b\"result\":[\x7b\"id\":\"b\"\x7d,\x7b\"id\":\"b\"\x7d]\x7d"⟩
    let built : List Action := [.vertex 0 [], .add 0 .all [], .client 1 .distinct]
    let actions := built ++ [.read 1]
    let q : Query := .client 2 (.step 1 (.vertex 0 0 []) .all []) .distinct
    (∀ answer ∈ answers net {} actions, answer.brokeOff = false) ∧
      (run net {} actions).Has q ∧ q.chain.isTerminal = true ∧
      ∃ reply, repliesTo (exchanges net {} (actions ++ [.read q.id])) q.newestStep.id = [reply] ∧
        ((run net {} actions).act net (.read q.id)).1 = .attempt (
          match reply with
          | .crash cause => .error cause
          | .failure cause => .ok (.error (.transport cause))
          | .answer response =>
            match response.interpret q.chain.tags with
            | .error error => .ok (.error error)
            | .ok parsed => (ClientOp.applyAll q.chain.clientOps parsed).map .ok) := by
  intro net built actions q
  have calm : ∀ answer ∈ answers net {} actions, answer.brokeOff = false := by decide +kernel
  have hbuilt : (run net {} built).Has q := rfl
  have hq : (run net {} actions).Has q := by
    rw [run_append]
    exact run_has (run_wellFormed wellFormed_empty built) hbuilt [.read 1]
  exact ⟨calm, hq, rfl, read_eq_pipeline net actions q calm hq rfl⟩

/-! ## Operators that never break off -/

/-- Operators that never break off give an outcome, unless the transport broke off. -/
theorem ok_of_total {reply : Reply} {c : Chain} (calm : ∀ cause, reply ≠ .crash cause)
    (total : ∀ op ∈ c.clientOps, op.Total) : ∃ outcome, reply.settle c = .ok outcome := by
  rw [Reply.settle_eq]
  cases reply with
  | crash cause => exact absurd rfl (calm cause)
  | failure cause => exact ⟨_, rfl⟩
  | answer response =>
    simp only
    cases hi : response.interpret c.tags with
    | error error => exact ⟨_, rfl⟩
    | ok parsed =>
      obtain ⟨records, rfl, _⟩ := Response.records_of_interpret hi
      obtain ⟨f, _, gathers⟩ := ClientOp.applyAll_gathered c.clientOps total
      simp only [ClientOp.ofRecords_eq_gathered, gathers]
      exact ⟨_, rfl⟩

/-- A query whose operators never break off is not kept from its flat pipeline by reads of other
queries that broke off, only by a transport that did. -/
theorem read_eq_settle_of_total (net : Network) (actions : List Action) (q : Query)
    (total : ∀ op ∈ q.chain.clientOps, op.Total) (hq : (run net {} actions).Has q)
    (hterm : q.chain.isTerminal = true) :
    ∃ reply, repliesTo (exchanges net {} (actions ++ [.read q.id])) q.newestStep.id = [reply] ∧
      ((∀ cause, reply ≠ .crash cause) →
        ((run net {} actions).act net (.read q.id)).1 = .attempt (reply.settle q.chain)) := by
  have h := run_coherent net actions
  have wf : (run net {} actions).WellFormed := run_wellFormed wellFormed_empty actions
  obtain ⟨reply, hx, hnew, hr⟩ := h.exchange_of_read net wf hq hterm
  refine ⟨reply, repliesTo_read hx, fun calm => ?_⟩
  have settles : ∀ c ∈ q.layers, ∃ outcome, reply.settle c.chain = .ok outcome := fun c hc =>
    ok_of_total calm fun op hop => total op (Query.clientOps_of_mem_layers hc hop)
  have hold := h.layers_settled wf hq (fun c hc _ => settles c hc) hr
  rw [act_read hq]
  exact congrArg Answer.attempt ((read_course _ hterm).eq_settle wf hq hnew hold)

end Session

end Traversal
