import Traversal.Proofs.ClientOp.OnePass

/-! # What operators keep

Unlike the one pass, which is about operators that never break off, this holds of every operator
that gives a set: where its records come from, and when they are known to differ. -/

namespace Traversal

theorem keepRecords_sublist {test : Record → Except Crash Bool} {records kept : List Record}
    (h : keepRecords test records = .ok kept) : kept.Sublist records := by
  induction records generalizing kept with
  | nil =>
    obtain rfl := Except.ok.inj h
    exact .slnil
  | cons r rest ih =>
    rw [keepRecords] at h
    cases htest : test r with
    | error crash => simp [htest] at h
    | ok keep =>
      cases hrest : keepRecords test rest with
      | error crash => simp [htest, hrest] at h
      | ok others =>
        simp only [htest, hrest] at h
        obtain rfl := Except.ok.inj h
        cases keep with
        | true => exact (ih hrest).cons_cons r
        | false => exact (ih hrest).cons r

theorem exists_of_changeRecords {change : Record → Except Crash Record}
    {records changed : List Record} (h : changeRecords change records = .ok changed) :
    ∀ r ∈ changed, ∃ old ∈ records, change old = .ok r := by
  induction records generalizing changed with
  | nil =>
    obtain rfl := Except.ok.inj h
    exact nofun
  | cons old rest ih =>
    rw [changeRecords] at h
    cases hold : change old with
    | error crash => simp [hold] at h
    | ok first =>
      cases hrest : changeRecords change rest with
      | error crash => simp [hold, hrest] at h
      | ok others =>
        simp only [hold, hrest] at h
        obtain rfl := Except.ok.inj h
        refine List.forall_mem_cons.mpr ⟨⟨old, List.mem_cons_self, hold⟩, fun r hr => ?_⟩
        obtain ⟨source, hsource, hchange⟩ := ih hrest r hr
        exact ⟨source, List.mem_cons_of_mem _ hsource, hchange⟩

namespace ClientOp

/-- All that an operator can make of a set. -/
inductive Yields (set : ResultSet) : ClientOp → ResultSet → Prop
  | distinct : Yields set .distinct (gathered true set.records)
  | filter {predicate : Predicate} {kept : List Record} (h : kept.Sublist set.records) :
      Yields set (.filter predicate) ⟨kept, set.distinct⟩
  | map {transform : Transform} {changed : List Record}
      (h : ∀ r ∈ changed, ∃ old ∈ set.records, transform.apply old = .ok r) :
      Yields set (.map transform) (gathered set.distinct changed)

theorem yields_of_apply {op : ClientOp} {set next : ResultSet} (h : op.apply set = .ok next) :
    Yields set op next := by
  cases op with
  | distinct =>
    obtain rfl := Except.ok.inj h
    exact .distinct
  | filter predicate =>
    rw [apply] at h
    cases hkept : keepRecords predicate.test set.records with
    | error crash => simp [hkept] at h
    | ok kept =>
      rw [hkept] at h
      obtain rfl := Except.ok.inj h
      exact .filter (keepRecords_sublist hkept)
  | map transform =>
    rw [apply] at h
    cases hchanged : changeRecords transform.apply set.records with
    | error crash => simp [hchanged] at h
    | ok changed =>
      rw [hchanged] at h
      obtain rfl := Except.ok.inj h
      exact .map (exists_of_changeRecords hchanged)

theorem distinct_gathered (once : Bool) (records : List Record) :
    (gathered once records).distinct = once := by
  cases once <;> rfl

theorem mem_gathered {once : Bool} {records : List Record} {r : Record} :
    r ∈ (gathered once records).records ↔ r ∈ records := by
  cases once <;> simp [gathered_true, gathered_false]

namespace Yields

variable {op : ClientOp} {set next : ResultSet}

theorem distinct_eq (h : Yields set op next) : next.distinct = (set.distinct || op.isDistinct) := by
  cases h with
  | distinct => simp [distinct_gathered, isDistinct]
  | filter => simp [isDistinct]
  | map => simp [distinct_gathered, isDistinct]

/-- A set that counts as free of repeated records is so after an operator if it was so before. -/
theorem nodup (h : Yields set op next) (hset : set.distinct = true → set.records.Nodup) :
    next.distinct = true → next.records.Nodup := by
  intro hd
  cases h with
  | distinct =>
    rw [gathered_true]
    exact nodup_eraseDups set.records
  | filter h => exact (hset hd).sublist h
  | @map transform changed h =>
    rw [distinct_gathered] at hd
    rw [hd, gathered_true]
    exact nodup_eraseDups changed

/-- What the changes of records keep, all records keep. -/
theorem records {P : Record → Prop} (h : Yields set op next)
    (change : ∀ transform, op = .map transform →
      ∀ old r, P old → transform.apply old = .ok r → P r)
    (hset : ∀ r ∈ set.records, P r) : ∀ r ∈ next.records, P r := by
  intro r hr
  cases h with
  | distinct => exact hset r (mem_gathered.mp hr)
  | filter h => exact hset r (h.mem hr)
  | map h =>
    obtain ⟨old, hold, hchange⟩ := h r (mem_gathered.mp hr)
    exact change _ rfl old r (hset old hold) hchange

end Yields

/-- What each operator keeps, a pipeline keeps. -/
theorem applyAll_induction {P : ResultSet → Prop} {ops : List ClientOp}
    (step : ∀ op ∈ ops, ∀ set next, Yields set op next → P set → P next) {set final : ResultSet}
    (h : applyAll ops set = .ok final) (hset : P set) : P final := by
  induction ops generalizing set with
  | nil =>
    obtain rfl := Except.ok.inj h
    exact hset
  | cons op rest ih =>
    rw [List.forall_mem_cons] at step
    rw [applyAll] at h
    cases hop : op.apply set with
    | error crash => simp [hop] at h
    | ok next =>
      rw [hop] at h
      exact ih step.2 h (step.1 set next (yields_of_apply hop) hset)

/-- What the changes of records keep, a pipeline keeps of all records. -/
theorem applyAll_records {P : Record → Prop} {ops : List ClientOp}
    (change : ∀ transform, .map transform ∈ ops →
      ∀ old r, P old → transform.apply old = .ok r → P r) {set final : ResultSet}
    (h : applyAll ops set = .ok final) (hset : ∀ r ∈ set.records, P r) :
    ∀ r ∈ final.records, P r := by
  refine applyAll_induction (P := fun set => ∀ r ∈ set.records, P r) ?_ h hset
  intro op hop set next yields
  refine yields.records fun transform he => ?_
  subst he
  exact change transform hop

theorem distinct_of_applyAll {ops : List ClientOp} {set final : ResultSet}
    (h : applyAll ops set = .ok final) : final.distinct = (set.distinct || ops.any isDistinct) := by
  induction ops generalizing set with
  | nil =>
    obtain rfl := Except.ok.inj h
    simp
  | cons op rest ih =>
    rw [applyAll] at h
    cases hop : op.apply set with
    | error crash => simp [hop] at h
    | ok next =>
      rw [hop] at h
      rw [ih h, (yields_of_apply hop).distinct_eq, List.any_cons, Bool.or_assoc]

end ClientOp

end Traversal
