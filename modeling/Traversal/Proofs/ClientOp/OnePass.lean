import Mathlib.Data.List.Basic
import Traversal.ClientOp

/-! # One pass over the records

Whatever operators stand in a pipeline and in whatever order, it comes to one pass. Each record goes
alone through the filters and changes, and repeated records are dropped once, after the pass, if any
operator of the pipeline drops them. -/

namespace Traversal

/-! ## Lists without repetitions -/

section Lists

variable {α : Type} [BEq α] [LawfulBEq α]

theorem filter_eraseDups (keep : α → Bool) :
    ∀ l : List α, l.eraseDups.filter keep = (l.filter keep).eraseDups
  | [] => rfl
  | x :: l => by
    have : (l.filter fun y => !y == x).length < l.length + 1 :=
      Nat.lt_succ_of_le (List.length_filter_le _ _)
    have ih := filter_eraseDups keep (l.filter fun y => !y == x)
    rw [List.eraseDups_cons, List.filter_cons, ih, List.filter_filter, List.filter_cons]
    by_cases hx : keep x = true
    · rw [if_pos hx, if_pos hx, List.eraseDups_cons, List.filter_filter]
      simp only [Bool.and_comm]
    · -- what is kept differs from `x`, so nothing more is lost with it
      rw [if_neg hx, if_neg hx]
      congr 1
      refine List.filter_congr fun y _ => ?_
      by_cases hy : y = x
      · simp [hy, hx]
      · simp [hy]
termination_by l => l.length

/-- Repetitions need not be dropped before a change if they are dropped after it, together with those
that it brings in. -/
theorem eraseDups_map_eraseDups {β : Type} [BEq β] [LawfulBEq β] (change : α → β) :
    ∀ l : List α, (l.eraseDups.map change).eraseDups = (l.map change).eraseDups
  | [] => rfl
  | x :: l => by
    have : (l.filter fun y => !change y == change x).length < l.length + 1 :=
      Nat.lt_succ_of_le (List.length_filter_le _ _)
    have ih := eraseDups_map_eraseDups change (l.filter fun y => !change y == change x)
    -- what the change takes to another value than `x` is not `x`
    have hne : (l.filter fun y => !y == x).filter (fun y => !change y == change x) =
        l.filter fun y => !change y == change x := by
      rw [List.filter_filter]
      refine List.filter_congr fun y _ => ?_
      by_cases hy : y = x
      · simp [hy]
      · simp [hy]
    rw [List.eraseDups_cons, List.map_cons, List.map_cons, List.eraseDups_cons, List.eraseDups_cons,
      List.filter_map, List.filter_map]
    simp only [Function.comp_def]
    rw [filter_eraseDups, hne, ih]
termination_by l => l.length

theorem eraseDups_eraseDups (l : List α) : l.eraseDups.eraseDups = l.eraseDups := by
  simpa using eraseDups_map_eraseDups id l

theorem nodup_eraseDups : ∀ l : List α, l.eraseDups.Nodup
  | [] => List.nodup_nil
  | x :: l => by
    have : (l.filter fun y => !y == x).length < l.length + 1 :=
      Nat.lt_succ_of_le (List.length_filter_le _ _)
    rw [List.eraseDups_cons, List.nodup_cons]
    exact ⟨by simp, nodup_eraseDups _⟩
termination_by l => l.length

end Lists

theorem firstRecords_eq_eraseDups (seen records : List Record) :
    firstRecords seen records = (records.filter (· ∉ seen)).eraseDups := by
  induction records generalizing seen with
  | nil => rfl
  | cons r rest ih =>
    rw [firstRecords, List.filter_cons]
    by_cases hr : r ∈ seen
    · rw [if_pos hr, if_neg (by simpa using hr), ih]
    · rw [if_neg hr, if_pos (by simpa using hr), ih, List.eraseDups_cons, List.filter_filter]
      simp [not_or, beq_eq_decide]

theorem exists_of_map_eq_ok {α β : Type} {x : Except Crash α} {f : α → β} {b : β}
    (h : x.map f = .ok b) : ∃ a, x = .ok a ∧ b = f a := by
  cases x with
  | error => cases h
  | ok a => exact ⟨a, rfl, (Except.ok.inj h).symm⟩

theorem dropRepeated_eq (records : List Record) :
    dropRepeated records = ⟨records.eraseDups, true⟩ := by
  rw [dropRepeated, firstRecords_eq_eraseDups]
  simp

namespace ClientOp

/-! ## One record -/

/-- What the operator makes of one record alone: nothing, if it is a filter that rejects it. -/
def single : ClientOp → Record → Except Crash (Option Record)
  | distinct, r => .ok (some r)
  | filter predicate, r => (predicate.test r).map fun keep => if keep then some r else none
  | map transform, r => (transform.apply r).map some

/-- What the operators, one after the other, make of one record alone. -/
def pass : List ClientOp → Record → Except Crash (Option Record)
  | [], r => .ok (some r)
  | op :: rest, r =>
    match op.single r with
    | .error crash => .error crash
    | .ok none => .ok none
    | .ok (some next) => pass rest next

/-- The operator never breaks off. -/
def Total (op : ClientOp) : Prop :=
  ∀ r, ∃ result, op.single r = .ok result

def isDistinct : ClientOp → Bool
  | distinct => true
  | _ => false

theorem any_isDistinct {ops : List ClientOp} : ops.any isDistinct = true ↔ distinct ∈ ops := by
  rw [List.any_eq_true]
  constructor
  · rintro ⟨op, hop, hd⟩
    cases op with
    | distinct => exact hop
    | filter | map => cases hd
  · exact fun h => ⟨distinct, h, rfl⟩

/-! ## All records -/

/-- The set of the given records, freed of repetitions or not. -/
def gathered (once : Bool) (records : List Record) : ResultSet :=
  if once then dropRepeated records else .ofRecords records

theorem gathered_true (records : List Record) : gathered true records = ⟨records.eraseDups, true⟩ :=
  dropRepeated_eq records

theorem gathered_false (records : List Record) : gathered false records = ⟨records, false⟩ := rfl

theorem ofRecords_eq_gathered (records : List Record) :
    ResultSet.ofRecords records = gathered false records := rfl

theorem keepRecords_eq_filter {test : Record → Except Crash Bool} {keep : Record → Bool}
    (h : ∀ r, test r = .ok (keep r)) (records : List Record) :
    keepRecords test records = .ok (records.filter keep) := by
  induction records with
  | nil => rfl
  | cons r rest ih => simp only [keepRecords, h, ih, List.filter_cons]

theorem changeRecords_eq_map {change : Record → Except Crash Record} {changed : Record → Record}
    (h : ∀ r, change r = .ok (changed r)) (records : List Record) :
    changeRecords change records = .ok (records.map changed) := by
  induction records with
  | nil => rfl
  | cons r rest ih => simp only [changeRecords, h, ih, List.map_cons]

/-- One operator over gathered records gathers what it makes of each record alone. -/
theorem apply_gathered {op : ClientOp} {f : Record → Option Record}
    (h : ∀ r, op.single r = .ok (f r)) (once : Bool) (records : List Record) :
    op.apply (gathered once records) =
      .ok (gathered (once || op.isDistinct) (records.filterMap f)) := by
  cases op with
  | distinct =>
    obtain rfl : f = some := funext fun r => (Except.ok.inj (h r)).symm
    cases once <;>
      simp [apply, isDistinct, gathered_true, gathered_false, dropRepeated_eq, eraseDups_eraseDups]
  | filter predicate =>
    have hkeep : ∀ r, ∃ keep, predicate.test r = .ok keep ∧ f r = if keep then some r else none :=
      fun r => exists_of_map_eq_ok (h r)
    choose keep htest hf using hkeep
    have hmap : records.filterMap f = records.filter keep := by
      rw [← List.filterMap_eq_filter]
      congr 1
      funext r
      rw [hf, Option.guard]
    simp only [apply, keepRecords_eq_filter htest, hmap, isDistinct, Bool.or_false]
    cases once <;> simp [gathered_true, gathered_false, filter_eraseDups]
  | map transform =>
    have hchange : ∀ r, ∃ changed, transform.apply r = .ok changed ∧ f r = some changed :=
      fun r => exists_of_map_eq_ok (h r)
    choose changed hchange hf using hchange
    have hmap : records.filterMap f = records.map changed := by
      rw [← List.filterMap_eq_map]
      congr 1
      exact funext hf
    simp only [apply, changeRecords_eq_map hchange, hmap, isDistinct, Bool.or_false]
    cases once <;> simp [gathered_true, gathered_false, dropRepeated_eq, eraseDups_map_eraseDups,
      ResultSet.ofRecords]

/-- The pass of operators that never break off is a partial function of the record, and the
operators gather its values. -/
theorem applyAll_gathered (ops : List ClientOp) (total : ∀ op ∈ ops, op.Total) :
    ∃ f : Record → Option Record, (∀ r, pass ops r = .ok (f r)) ∧ ∀ once records,
      applyAll ops (gathered once records) =
        .ok (gathered (once || ops.any isDistinct) (records.filterMap f)) := by
  induction ops with
  | nil => exact ⟨some, fun r => rfl, fun once records => by simp [applyAll]⟩
  | cons op rest ih =>
    rw [List.forall_mem_cons] at total
    -- the rest starts from gathered records again, with repetitions dropped or not
    obtain ⟨g, hg, gathers⟩ := ih total.2
    choose f hf using total.1
    refine ⟨fun r => (f r).bind g, fun r => ?_, fun once records => ?_⟩
    · simp only [pass, hf]
      cases f r with
      | none => rfl
      | some next => exact hg next
    · rw [applyAll, apply_gathered hf]
      simp only [gathers, List.filterMap_filterMap, List.any_cons, Bool.or_assoc]

/-- A pipeline that never breaks off comes to one pass: it takes each record alone through its
filters and changes, and drops later equal records from what is left if it drops repeated ones at
any place. -/
theorem applyAll_eq_onePass (ops : List ClientOp) (total : ∀ op ∈ ops, op.Total) :
    ∃ f : Record → Option Record, (∀ r, pass ops r = .ok (f r)) ∧ ∀ records,
      (distinct ∉ ops →
        applyAll ops (.ofRecords records) = .ok ⟨records.filterMap f, false⟩) ∧
      (distinct ∈ ops →
        applyAll ops (.ofRecords records) = .ok ⟨(records.filterMap f).eraseDups, true⟩) := by
  obtain ⟨f, hf, gathers⟩ := applyAll_gathered ops total
  refine ⟨f, hf, fun records => ?_⟩
  have run := gathers false records
  rw [Bool.false_or] at run
  constructor
  · intro hd
    have never : ops.any isDistinct = false := by rwa [← Bool.not_eq_true, any_isDistinct]
    rwa [never] at run
  · intro hd
    rwa [any_isDistinct.mpr hd, gathered_true] at run

/-- Dropping repeated records first, then making all alike. -/
theorem applyAll_eq_onePass_alike :
    let alike : Transform := .custom fun r => .ok (r.mapValues fun _ => "same")
    let ops := [distinct, map alike, filter (.negation (.tagEquals "id" "other"))]
    (∀ op ∈ ops, op.Total) ∧
      ∃ f : Record → Option Record, (∀ r, pass ops r = .ok (f r)) ∧ ∀ records,
        (distinct ∉ ops →
          applyAll ops (.ofRecords records) = .ok ⟨records.filterMap f, false⟩) ∧
        (distinct ∈ ops →
          applyAll ops (.ofRecords records) = .ok ⟨(records.filterMap f).eraseDups, true⟩) := by
  intro alike ops
  have total : ∀ op ∈ ops, op.Total := by
    simp only [ops, List.forall_mem_cons]
    exact ⟨fun r => ⟨_, rfl⟩, fun r => ⟨_, rfl⟩, fun r => ⟨_, rfl⟩, fun _ h => nomatch h⟩
  exact ⟨total, applyAll_eq_onePass ops total⟩

end ClientOp

end Traversal
