import Traversal.Proofs.Chain.Tags
import Traversal.Proofs.ClientOp.Records
import Traversal.Proofs.Record.Fields
import Traversal.Proofs.Reply.Interpretation
import Traversal.Proofs.Session.Coherence

/-! # What is kept for a query

A set that a link keeps comes from a reply to its chain through all operators of the chain. So the
records of it are well formed, it says rightly whether repeated ones have been dropped, and while
values are only cleaned, every record has the tags of the chain. -/

namespace Traversal

/-- What holds of a set that is kept for a chain. -/
structure Represents (c : Chain) (set : ResultSet) : Prop where
  nodup_tags : ∀ r ∈ set.records, r.tags.Nodup
  /-- A tag gives the value of its one field. -/
  get?_eq_some_iff : ∀ r ∈ set.records, ∀ tag value,
    r.get? tag = some value ↔ (tag, value) ∈ r.fields
  field_eq_ok_iff : ∀ r ∈ set.records, ∀ tag value,
    r.field tag = .ok value ↔ (tag, value) ∈ r.fields
  ofFields_fields : ∀ r ∈ set.records, .ofFields r.fields = r
  nodup_records : set.distinct = true → set.records.Nodup
  distinct_iff : set.distinct = true ↔ .distinct ∈ c.clientOps
  /-- If no operator does more to records than clean their values, they have the tags of the
  chain, in its order. -/
  tags_eq : (∀ transform, .map transform ∈ c.clientOps →
    ∃ language, transform = .cleanRdf language) → ∀ r ∈ set.records, r.tags = c.tags

/-- The changes of records that the caller gives make records from fields or by changing values. -/
def ClientOp.MakesRecords (ops : List ClientOp) : Prop :=
  ∀ change, .map (.custom change) ∈ ops → ∀ r made, change r = .ok made → r.MadeFrom made

theorem ClientOp.MakesRecords.madeFrom {ops : List ClientOp} (h : MakesRecords ops)
    {transform : Transform} (hm : .map transform ∈ ops) {old r : Record}
    (hr : transform.apply old = .ok r) : old.MadeFrom r := by
  cases transform with
  | custom change => exact h change hm old r hr
  | cleanRdf language =>
    obtain rfl := Except.ok.inj hr
    exact .mapValues _ .given

/-- The records that a chain makes of a reply are well formed. -/
theorem represents_of_settle {reply : Reply} {c : Chain} {set : ResultSet}
    (makes : ClientOp.MakesRecords c.clientOps) (h : reply.settle c = .ok (.ok set)) :
    Represents c set := by
  obtain ⟨response, parsed, rfl, hi, happly⟩ := Reply.settle_eq_ok.mp h
  obtain ⟨records, rfl, htags⟩ := Response.records_of_interpret hi
  have nodup_tags : ∀ r ∈ set.records, r.tags.Nodup := by
    refine ClientOp.applyAll_records (P := fun r => r.tags.Nodup) ?_ happly fun r hr => ?_
    · intro transform hm old r hold hr
      exact (makes.madeFrom hm hr).nodup_tags hold
    · rw [htags r hr]
      exact c.nodup_tags
  constructor
  case nodup_tags => exact nodup_tags
  case get?_eq_some_iff => exact fun r hr _ _ => Record.get?_eq_some_iff (nodup_tags r hr)
  case field_eq_ok_iff => exact fun r hr _ _ => Record.field_eq_ok_iff (nodup_tags r hr)
  case ofFields_fields => exact fun r hr => Record.ofFields_fields (nodup_tags r hr)
  case nodup_records =>
    exact ClientOp.applyAll_induction (P := fun set => set.distinct = true → set.records.Nodup)
      (fun _ _ _ _ yields => yields.nodup) happly nofun
  case distinct_iff =>
    rw [ClientOp.distinct_of_applyAll happly, ← ClientOp.any_isDistinct]
    rfl
  case tags_eq =>
    intro cleans
    refine ClientOp.applyAll_records (P := fun r => r.tags = c.tags) ?_ happly htags
    intro transform hm old r hold hr
    obtain ⟨language, rfl⟩ := cleans transform hm
    obtain rfl := Except.ok.inj hr
    rw [Rdf.cleanRecord, Record.tags_mapValues, hold]

namespace Session

section Coherent

variable {sent : List Exchange} {s : Session} {q : Query} {set : ResultSet}

/-- A step that keeps a set has it from a reply. -/
theorem Coherent.reply_of_cached_step (h : Coherent sent s) (hq : s.Has q) {kind : StepKind}
    (hk : q.chain.kind? = some kind) (hs : s.status q.id = .cached set) :
    ∃ reply : Reply, reply.settle q.chain = .ok (.ok set) := by
  have hne : s.status q.id ≠ .unexecuted := by simp [hs]
  have step : q.isTerminalStep = true := by
    have hterm := q.isTerminal_eq
    rw [Query.newestStep_of_kind hk] at hterm
    rw [← hterm]
    apply Decidable.byContradiction
    intro hn
    exact hne (h.idle q hq (by simpa using hn))
  obtain ⟨reply, _, hl⟩ := h.reply_of_executed hq step hne
  exact ⟨reply, Status.left_eq_cached.mp (hl.symm.trans hs)⟩

/-- A kept set is what the chain makes of a reply. -/
theorem Coherent.reply_of_cached (h : Coherent sent s) (wf : s.WellFormed) (hq : s.Has q)
    (hs : s.status q.id = .cached set) :
    ∃ reply : Reply, reply.settle q.chain = .ok (.ok set) := by
  induction q generalizing set with
  | vertex | morphism | step => exact h.reply_of_cached_step hq rfl hs
  | client id base op ih =>
    have hne : s.status id ≠ .unexecuted := by
      rw [Query.id] at hs
      simp [hs]
    obtain ⟨attempt, hg, hl⟩ := h.follows id base op hq hne
    have hsettle := Status.left_eq_cached.mp (hl.symm.trans hs)
    obtain ⟨under, rfl, _⟩ := ClientOp.settle_eq_ok.mp hsettle
    obtain ⟨reply, hr⟩ := ih (wf.pred _ base hq rfl).1 (Status.gives_set.mp hg)
    refine ⟨reply, ?_⟩
    rw [Query.chain, Reply.settle_client, hr]
    exact hsettle

end Coherent

/-- In every run, a set that a link keeps represents the chain of the link. -/
theorem run_cached_represents (net : Network) (actions : List Action) (q : Query) (set : ResultSet)
    (hq : (run net {} actions).Has q) (hs : (run net {} actions).status q.id = .cached set)
    (makes : ClientOp.MakesRecords q.chain.clientOps) : Represents q.chain set := by
  have wf : (run net {} actions).WellFormed := run_wellFormed wellFormed_empty actions
  obtain ⟨reply, h⟩ := (run_coherent net actions).reply_of_cached wf hq hs
  exact represents_of_settle makes h

/-- Repeated records dropped, and then the order of their fields turned around. -/
theorem run_cached_represents_reversed :
    let net : Network := fun _ _ _ =>
      .answer ⟨200, "\x7b\"result\":[\x7b\"id\":\"b\",\"a\":\"c\"\x7d]\x7d"⟩
    let reverse : Transform := .custom fun r => .ok (.ofFields r.fields.reverse)
    let built : List Action := [.vertex 0 [], .add 0 .tag [.text "a"], .add 1 .all [],
      .client 2 .distinct, .client 3 (.map reverse)]
    let q : Query := .client 4 (.client 3
      (.step 2 (.step 1 (.vertex 0 0 []) .tag [.text "a"]) .all []) .distinct) (.map reverse)
    let set : ResultSet := ⟨[⟨[("a", "c"), ("id", "b")]⟩], true⟩
    let actions := built ++ [.read 4]
    (run net {} actions).Has q ∧ (run net {} actions).status q.id = .cached set ∧
      ClientOp.MakesRecords q.chain.clientOps ∧ Represents q.chain set := by
  intro net reverse built q set actions
  have hq : (run net {} actions).Has q := by
    have hbuilt : (run net {} built).Has q := rfl
    rw [run_append]
    exact run_has (run_wellFormed wellFormed_empty built) hbuilt _
  have hs : (run net {} actions).status q.id = .cached set := by decide +kernel
  have makes : ClientOp.MakesRecords q.chain.clientOps := by
    intro change hm r made hmade
    obtain rfl : change = fun r => .ok (.ofFields r.fields.reverse) := by
      simpa [q, Query.chain, Chain.clientOps, reverse] using hm
    obtain rfl := Except.ok.inj hmade
    exact .ofFields _
  exact ⟨hq, hs, makes, run_cached_represents net actions q set hq hs makes⟩

end Session

end Traversal

