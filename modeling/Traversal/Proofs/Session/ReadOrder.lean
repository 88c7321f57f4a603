import Mathlib.Data.List.Basic
import Traversal.Proofs.Session.Finality
import Traversal.Proofs.Session.Pipeline

/-! # The order of reads

Where endpoints reply by the text alone and no read breaks off, a link's outcome is a function of
its chain, and which links are executed in the end depends on which links have been read. So two
runs over the same links, which build and read them in different orders, cannot be told apart by
what reads give, and if they read the same links they leave all of them alike. -/

namespace Traversal

/-- What a graph replies depends on the text alone, and not on what has been sent before. -/
def Network.ByText (net : Network) : Prop :=
  ∀ graph history history' text, net graph history text = net graph history' text

/-- What reading a chain gives where replies depend on the text alone. -/
def Network.reading (net : Network) (c : Chain) : Attempt :=
  if c.isTerminal then (net.replyTo {} c).settle c
  else .ok (.error (.usage (.notExecutable c.text c.isMorphism)))

namespace Query

/-- The query with other numbers for its links. -/
def renumbered (place : LinkId → LinkId) : Query → Query
  | vertex id graph args => .vertex (place id) graph args
  | morphism id graph => .morphism (place id) graph
  | step id pred kind args => .step (place id) (pred.renumbered place) kind args
  | client id pred op => .client (place id) (pred.renumbered place) op

@[simp] theorem id_renumbered (place : LinkId → LinkId) (q : Query) :
    (q.renumbered place).id = place q.id := by
  cases q <;> rfl

@[simp] theorem chain_renumbered (place : LinkId → LinkId) (q : Query) :
    (q.renumbered place).chain = q.chain := by
  induction q with
  | vertex | morphism => rfl
  | step id pred kind args ih | client id pred op ih => simp [renumbered, chain, ih]

theorem layers_renumbered (place : LinkId → LinkId) (q : Query) :
    (q.renumbered place).layers = q.layers.map (renumbered place) := by
  induction q with
  | vertex | morphism | step => rfl
  | client id pred op ih => simp [renumbered, layers, ih]

end Query

theorem Status.Gives.eq_left {status : Status} {attempt : Attempt} (h : status.Gives attempt)
    (hne : status ≠ .executing) : status = .left attempt := by
  cases h with
  | crash => exact absurd rfl hne
  | outcome h =>
    cases status with
    | unexecuted => cases h
    | executing => exact absurd rfl hne
    | cached | failed =>
      obtain rfl := Option.some.inj h
      rfl

/-- A read of a link with what it gave. -/
def readOf? : Action × Answer → Option (LinkId × Attempt)
  | (.read link, .attempt attempt) => some (link, attempt)
  | _ => none

namespace Session

/-- The reads of links in a run, in the order of time. -/
def reads (net : Network) (s : Session) (actions : List Action) : List (LinkId × Attempt) :=
  (actions.zip (answers net s actions)).filterMap readOf?

variable {net : Network} {s t : Session}

/-! ## The reads of a run -/

theorem mem_reads_cons {a : Action} {rest : List Action} {read : LinkId × Attempt} :
    read ∈ reads net s (a :: rest) ↔
      readOf? (a, (s.act net a).1) = some read ∨ read ∈ reads net (s.act net a).2 rest := by
  cases h : readOf? (a, (s.act net a).1) with
  | none => simp [reads, answers, h]
  | some first => simp [reads, answers, h, eq_comm]

theorem readOf?_eq_some {a : Action} {answer : Answer} {link : LinkId} {attempt : Attempt}
    (h : readOf? (a, answer) = some (link, attempt)) :
    a = .read link ∧ answer = .attempt attempt := by
  cases a <;> cases answer <;> cases h
  exact ⟨rfl, rfl⟩

theorem answers_append (before after : List Action) :
    answers net s (before ++ after) =
      answers net s before ++ answers net (run net s before) after := by
  induction before generalizing s with
  | nil => rfl
  | cons a rest ih => simp only [List.cons_append, answers, run, ih]

/-- A read in a run happens in the session that the actions before it lead to. -/
theorem exists_of_mem_reads {actions : List Action} {link : LinkId} {attempt : Attempt}
    (wf : s.WellFormed) (h : (link, attempt) ∈ reads net s actions) :
    ∃ before after q, actions = before ++ .read link :: after ∧ (run net s before).Has q ∧
      q.id = link ∧ ((run net s before).read net q).1 = attempt := by
  induction actions generalizing s with
  | nil => cases h
  | cons a rest ih =>
    rcases mem_reads_cons.mp h with h | h
    · obtain ⟨rfl, ha⟩ := readOf?_eq_some h
      obtain ⟨q, hq, rfl, hr⟩ := read_of_attempt wf (Prod.ext ha rfl)
      exact ⟨[], rest, q, rfl, hq, rfl, congrArg Prod.fst hr⟩
    · have move : Moves net s a _ _ := act_moves wf a
      obtain ⟨before, after, q, rfl, hq⟩ := ih (move.wellFormed wf) h
      exact ⟨a :: before, after, q, rfl, hq⟩

/-! ## What reads give -/

section ByText

variable {actions : List Action}

theorem replyTo_eq (byText : net.ByText) (c : Chain) : net.replyTo s c = net.replyTo {} c :=
  byText ..

theorem reply_of_mem_exchanges (byText : net.ByText) {x : Exchange}
    (h : x ∈ exchanges net s actions) : x.reply = net.replyTo {} x.query.chain := by
  induction actions generalizing s with
  | nil => cases h
  | cons a rest ih =>
    rcases List.mem_append.mp h with h | h
    · obtain ⟨q, _, rfl⟩ := List.mem_map.mp h
      exact replyTo_eq byText q.chain
    · exact ih h

/-- In a run in which no read breaks off, a read gives what its chain alone determines. -/
theorem read_eq_reading (byText : net.ByText)
    (calm : ∀ answer ∈ answers net {} actions, answer.brokeOff = false) {q : Query}
    (hq : (run net {} actions).Has q) :
    ((run net {} actions).read net q).1 = net.reading q.chain := by
  rcases read_cases net q (run net {} actions) with ⟨hterm, course⟩ | ⟨hn, he⟩
  · have h := run_coherent net actions
    have wf : (run net {} actions).WellFormed := run_wellFormed wellFormed_empty actions
    have hs := run_status_ne_executing wellFormed_empty (fun id => by simp [status]) actions calm
    obtain ⟨reply, hx, hnew, hold⟩ := h.read_exchange net wf hs hq hterm
    rw [← exchanges_concat] at hx
    have hreply : reply = net.replyTo {} q.newestStep.chain := reply_of_mem_exchanges byText hx
    rw [Network.reading, if_pos hterm, course.eq_settle wf hq hnew hold, hreply, Network.replyTo,
      Network.replyTo, q.newestStep_graph, q.newestStep_text]
  · rw [Network.reading, if_neg (by simp [hn]), he]

/-- A link that has been executed keeps what its chain alone determines. -/
theorem status_eq_reading (byText : net.ByText)
    (calm : ∀ answer ∈ answers net {} actions, answer.brokeOff = false) {q : Query}
    (hq : (run net {} actions).Has q) (hs : (run net {} actions).status q.id ≠ .unexecuted) :
    (run net {} actions).status q.id = .left (net.reading q.chain) := by
  have hterm := (run_coherent net actions).isTerminal_of_executed hq hs
  have course : Fetches net q (run net {} actions) _ _ := read_course _ hterm
  have gives := course.gives hq
  rw [course.status_of_executed hs, read_eq_reading byText calm hq] at gives
  exact gives.eq_left (run_status_ne_executing wellFormed_empty (fun id => by simp [status]) actions
    calm q.id)

/-- What a read in a run gives is determined by the chain of its link. -/
theorem eq_reading_of_mem_reads (byText : net.ByText)
    (calm : ∀ answer ∈ answers net {} actions, answer.brokeOff = false) {q : Query}
    (hq : (run net {} actions).Has q) {attempt : Attempt}
    (h : (q.id, attempt) ∈ reads net {} actions) : attempt = net.reading q.chain := by
  obtain ⟨before, after, p, rfl, hp, hid, rfl⟩ := exists_of_mem_reads wellFormed_empty h
  have wf : (run net {} before).WellFormed := run_wellFormed wellFormed_empty before
  have hlater : (run net {} (before ++ .read q.id :: after)).Has p := by
    rw [run_append]
    exact run_has wf hp _
  obtain rfl := hlater.eq_of_id_eq hq hid
  refine read_eq_reading byText (fun answer ha => calm answer ?_) hp
  rw [answers_append]
  exact List.mem_append_left _ ha

end ByText

/-! ## Which links are executed -/

/-- An action that executes a link reads a terminal query of which the link is a layer. -/
theorem Moves.changed {a : Action} {answer : Answer} (h : Moves net s a answer t) {id : LinkId}
    (hid : t.status id ≠ s.status id) : ∃ q attempt, a = .read q.id ∧ answer = .attempt attempt ∧
      s.Has q ∧ q.chain.isTerminal = true ∧ ∃ c ∈ q.layers, c.id = id := by
  cases h with
  | stays => exact absurd rfl hid
  | builds => exact absurd (status_push s _ id) hid
  | @reads q hq =>
    rcases read_cases net q s with ⟨hterm, course⟩ | ⟨_, he⟩
    · exact ⟨q, _, rfl, rfl, hq, hterm, (course.changed hid).2⟩
    · rw [he] at hid
      exact absurd rfl hid

/-- A link that is executed in a run is a layer of a terminal query that the run reads. -/
theorem read_of_executed {actions : List Action} (wf : s.WellFormed) {id : LinkId}
    (hs : s.status id = .unexecuted) (h : (run net s actions).status id ≠ .unexecuted) :
    ∃ q attempt, (q.id, attempt) ∈ reads net s actions ∧ (run net s actions).Has q ∧
      q.chain.isTerminal = true ∧ ∃ c ∈ q.layers, c.id = id := by
  induction actions generalizing s with
  | nil => exact absurd hs h
  | cons a rest ih =>
    have move : Moves net s a _ _ := act_moves wf a
    by_cases ha : (s.act net a).2.status id = .unexecuted
    · obtain ⟨q, attempt, hr, hq⟩ := ih (move.wellFormed wf) ha h
      exact ⟨q, attempt, mem_reads_cons.mpr (.inr hr), hq⟩
    · obtain ⟨q, attempt, rfl, hanswer, hq, hterm, hc⟩ := move.changed (by rwa [hs])
      refine ⟨q, attempt, mem_reads_cons.mpr (.inl ?_), ?_, hterm, hc⟩
      · rw [hanswer]
        rfl
      · exact run_has (move.wellFormed wf) (move.has hq) rest

/-- Reading a terminal query executes all its layers, unless they have been executed before. -/
theorem executed_of_read {actions : List Action} {q : Query} (hq : (run net {} actions).Has q)
    (hterm : q.chain.isTerminal = true) {attempt : Attempt}
    (h : (q.id, attempt) ∈ reads net {} actions) :
    ∀ c ∈ q.layers, (run net {} actions).status c.id ≠ .unexecuted := by
  refine (run_coherent net actions).layers_executed (run_wellFormed wellFormed_empty actions) hq ?_
  obtain ⟨before, after, p, rfl, hp, hid, -⟩ := exists_of_mem_reads wellFormed_empty h
  have wf : (run net {} before).WellFormed := run_wellFormed wellFormed_empty before
  rw [run_append] at hq ⊢
  obtain rfl := (run_has wf hp _).eq_of_id_eq hq hid
  have move : Moves net (run net {} before) (.read p.id) _ _ := act_moves wf _
  have hs : ((run net {} before).act net (.read p.id)).2.status p.id ≠ .unexecuted := by
    rw [act_read hp]
    exact ((read_course _ hterm).gives hp).ne_unexecuted
  rw [run, run_status_of_executed (move.wellFormed wf) hs after]
  exact hs

/-! ## Two runs over one family of links -/

/-- The run builds all links of the family, with the numbers that `place` gives for those in the
family, and it reads no others. -/
structure Hosts (net : Network) (actions : List Action) (family : List Query)
    (place : LinkId → LinkId) : Prop where
  injective : place.Injective
  builds : ∀ q ∈ family, (run net {} actions).Has (q.renumbered place)
  reads : ∀ link attempt, (link, attempt) ∈ reads net {} actions → ∃ q ∈ family, place q.id = link

section Hosts

variable {actions actions' : List Action} {family : List Query} {place place' : LinkId → LinkId}

/-- What one run executes, another one executes that reads the same links. -/
theorem Hosts.executed (first : Hosts net actions family place)
    (second : Hosts net actions' family place')
    (same : ∀ q ∈ family, (∃ attempt, (place q.id, attempt) ∈ Session.reads net {} actions) →
      ∃ attempt, (place' q.id, attempt) ∈ Session.reads net {} actions')
    {q : Query} (hs : (run net {} actions).status (place q.id) ≠ .unexecuted) :
    (run net {} actions').status (place' q.id) ≠ .unexecuted := by
  obtain ⟨r, attempt, hread, hr, hterm, c, hc, hid⟩ :=
    read_of_executed wellFormed_empty (status_eq_unexecuted (Nat.zero_le _)) hs
  obtain ⟨m, hm, hmid⟩ := first.reads _ _ hread
  obtain rfl : m.renumbered place = r :=
    (first.builds m hm).eq_of_id_eq hr (by rw [m.id_renumbered, hmid])
  -- the link is a layer of the member that is read, and it is so by its number in the family
  rw [Query.layers_renumbered] at hc
  obtain ⟨l, hl, rfl⟩ := List.mem_map.mp hc
  rw [Query.id_renumbered] at hid hread
  have hl' : l.id = q.id := first.injective hid
  obtain ⟨attempt', hread'⟩ := same m hm ⟨attempt, hread⟩
  rw [Query.chain_renumbered] at hterm
  rw [← m.id_renumbered place'] at hread'
  rw [← hl', ← l.id_renumbered place']
  refine executed_of_read (second.builds m hm) (by rwa [m.chain_renumbered]) hread' _ ?_
  rw [Query.layers_renumbered]
  exact List.mem_map_of_mem hl

end Hosts

/-- Two runs over one family of links, with endpoints that reply by the text alone and without reads
that break off: a link gives the same whenever it is read, and if the runs read the same links of
the family, they leave every link of it in the same state. -/
theorem read_order_irrelevant {net : Network} (byText : net.ByText)
    {actions actions' : List Action} {family : List Query} {place place' : LinkId → LinkId}
    (first : Hosts net actions family place) (second : Hosts net actions' family place')
    (calm : ∀ answer ∈ answers net {} actions, answer.brokeOff = false)
    (calm' : ∀ answer ∈ answers net {} actions', answer.brokeOff = false) :
    (∀ q ∈ family, ∀ attempt attempt', (place q.id, attempt) ∈ reads net {} actions →
      (place' q.id, attempt') ∈ reads net {} actions' → attempt = attempt') ∧
    ((∀ q ∈ family, (∃ attempt, (place q.id, attempt) ∈ reads net {} actions) ↔
        ∃ attempt, (place' q.id, attempt) ∈ reads net {} actions') →
      ∀ q ∈ family,
        (run net {} actions).status (place q.id) = (run net {} actions').status (place' q.id)) := by
  constructor
  · intro q hq attempt attempt' h h'
    rw [← q.id_renumbered place] at h
    rw [← q.id_renumbered place'] at h'
    rw [eq_reading_of_mem_reads byText calm (first.builds q hq) h,
      eq_reading_of_mem_reads byText calm' (second.builds q hq) h', q.chain_renumbered,
      q.chain_renumbered]
  · intro same q hq
    by_cases hs : (run net {} actions).status (place q.id) = .unexecuted
    · have hs' : (run net {} actions').status (place' q.id) = .unexecuted := by
        apply Decidable.byContradiction
        intro hne
        exact second.executed first (fun m hm => (same m hm).mpr) hne hs
      rw [hs, hs']
    · have hs' := first.executed second (fun m hm => (same m hm).mp) hs
      rw [← q.id_renumbered place] at hs ⊢
      rw [← q.id_renumbered place'] at hs' ⊢
      rw [status_eq_reading byText calm (first.builds q hq) hs,
        status_eq_reading byText calm' (second.builds q hq) hs', q.chain_renumbered,
        q.chain_renumbered]

/-- A step and an operator over it. One run reads the operator first and twice, the other one reads
the step first and has links of its own before and in between. -/
theorem read_order_irrelevant_interleaved :
    let net : Network := fun _ _ _ =>
      .answer ⟨200, "\x7b\"result\":[\x7b\"id\":\"b\"\x7d,\x7b\"id\":\"b\"\x7d]\x7d"⟩
    let step : Query := .step 1 (.vertex 0 0 []) .all []
    let family : List Query := [step, .client 2 step .distinct]
    let built : List Action := [.vertex 0 [], .add 0 .all [], .client 1 .distinct]
    let built' : List Action := [.morphism 0, .vertex 0 [], .add 1 .all [], .client 2 .distinct]
    let actions := built ++ [.read 2, .read 1, .read 2]
    let actions' := built' ++ [.read 2, .vertex 0 [], .read 3]
    net.ByText ∧ Hosts net actions family id ∧ Hosts net actions' family (· + 1) ∧
      (∀ answer ∈ answers net {} actions, answer.brokeOff = false) ∧
      (∀ answer ∈ answers net {} actions', answer.brokeOff = false) ∧
      (∀ q ∈ family, (∃ attempt, (id q.id, attempt) ∈ reads net {} actions) ↔
        ∃ attempt, (q.id + 1, attempt) ∈ reads net {} actions') ∧
      ∀ q ∈ family,
        (run net {} actions).status (id q.id) = (run net {} actions').status (q.id + 1) := by
  intro net step family built built' actions actions'
  have byText : net.ByText := fun _ _ _ _ => rfl
  have links : (reads net {} actions).map (·.1) = [2, 1, 2] := by decide +kernel
  have links' : (reads net {} actions').map (·.1) = [2, 3] := by decide +kernel
  have isRead : ∀ {l : List (LinkId × Attempt)} {link},
      (∃ attempt, (link, attempt) ∈ l) ↔ link ∈ l.map (·.1) := by simp
  have calm : ∀ answer ∈ answers net {} actions, answer.brokeOff = false := by decide +kernel
  have calm' : ∀ answer ∈ answers net {} actions', answer.brokeOff = false := by decide +kernel
  have same : ∀ q ∈ family, (∃ attempt, (id q.id, attempt) ∈ reads net {} actions) ↔
      ∃ attempt, (q.id + 1, attempt) ∈ reads net {} actions' := by
    intro q hq
    rw [isRead, isRead, links, links']
    rcases List.mem_pair.mp hq with rfl | rfl <;> decide
  have has : ∀ q ∈ family, (run net {} built).Has (q.renumbered id) := by
    intro q hq
    rcases List.mem_pair.mp hq with rfl | rfl
    · exact rfl
    · exact rfl
  have has' : ∀ q ∈ family, (run net {} built').Has (q.renumbered (· + 1)) := by
    intro q hq
    rcases List.mem_pair.mp hq with rfl | rfl
    · exact rfl
    · exact rfl
  have first : Hosts net actions family id := by
    refine ⟨Function.injective_id, fun q hq => ?_, fun link attempt h => ?_⟩
    · rw [run_append]
      exact run_has (run_wellFormed wellFormed_empty built) (has q hq) _
    · have hlink := isRead.mp ⟨attempt, h⟩
      rw [links] at hlink
      simp only [List.mem_cons, List.not_mem_nil, or_false] at hlink
      rcases hlink with rfl | rfl | rfl <;> simp [family, step, Query.id]
  have second : Hosts net actions' family (· + 1) := by
    refine ⟨fun _ _ => Nat.succ.inj, fun q hq => ?_, fun link attempt h => ?_⟩
    · rw [run_append]
      exact run_has (run_wellFormed wellFormed_empty built') (has' q hq) _
    · have hlink := isRead.mp ⟨attempt, h⟩
      rw [links'] at hlink
      rcases List.mem_pair.mp hlink with rfl | rfl <;> simp [family, step, Query.id]
  exact ⟨byText, first, second, calm, calm', same,
    (read_order_irrelevant byText first second calm calm').2 same⟩

end Session

end Traversal
