import Mathlib.Data.List.Basic
import Traversal.Regex.Captures

/-! # Captures of the preferred match

What pieces match is a relation that knows of no order of trial. The matcher finds a match where there
is one, and of all matches from a place on it finds the one with the longest first capture, among those
the one with the longest second, and so on (`capturesAt_eq_some_iff`). -/

namespace Traversal.Regex

open Traversal.Text

/-- From the place on, the pieces match a beginning of the text and capture the given parts of it. -/
inductive Matches : List Piece → Option Char → List Char → List (List Char) → Prop
  | nothing {before : Option Char} {text : List Char} : Matches [] before text []
  | literal {pieces : List Piece} {c : Char} {before : Option Char} {rest : List Char}
      {captures : List (List Char)} (h : Matches pieces (some c) rest captures) :
      Matches (.literal c :: pieces) before (c :: rest) captures
  | look {pieces : List Piece} {l : Look} {before : Option Char} {text : List Char}
      {captures : List (List Char)} (holds : l.holds ⟨before, text.head?⟩ = true)
      (h : Matches pieces before text captures) : Matches (.look l :: pieces) before text captures
  | captured {pieces : List Piece} {chars : CharSet} {before : Option Char} {run rest : List Char}
      {captures : List (List Char)} (allowed : ∀ c ∈ run, chars.has c = true)
      (h : Matches pieces (run.getLast?.or before) rest captures) :
      Matches (.captured chars :: pieces) before (run ++ rest) (run :: captures)

/-- The first captures that differ in length, if any do, are shorter in the first row. -/
inductive NoLonger : List (List Char) → List (List Char) → Prop
  | nothing : NoLonger [] []
  | shorter {run run' : List Char} {later later' : List (List Char)} (h : run.length < run'.length) :
      NoLonger (run :: later) (run' :: later')
  | alike {run run' : List Char} {later later' : List (List Char)} (h : run.length = run'.length)
      (rest : NoLonger later later') : NoLonger (run :: later) (run' :: later')

variable {pieces : List Piece} {chars : CharSet} {before : Option Char} {text run rest : List Char}
  {captures : List (List Char)}

/-! ## Matches piece by piece -/

theorem matches_nil : Matches [] before text captures ↔ captures = [] := by
  constructor
  · rintro ⟨⟩
    rfl
  · rintro rfl
    exact .nothing

theorem matches_literal {c : Char} : Matches (.literal c :: pieces) before text captures ↔
    ∃ rest, text = c :: rest ∧ Matches pieces (some c) rest captures := by
  constructor
  · rintro ⟨⟩
    exact ⟨_, rfl, ‹_›⟩
  · rintro ⟨rest, rfl, h⟩
    exact .literal h

theorem matches_look {l : Look} : Matches (.look l :: pieces) before text captures ↔
    l.holds ⟨before, text.head?⟩ = true ∧ Matches pieces before text captures := by
  constructor
  · rintro ⟨⟩
    exact ⟨‹_›, ‹_›⟩
  · rintro ⟨holds, h⟩
    exact .look holds h

theorem matches_captured : Matches (.captured chars :: pieces) before text captures ↔
    ∃ run rest later, text = run ++ rest ∧ captures = run :: later ∧
      (∀ c ∈ run, chars.has c = true) ∧ Matches pieces (run.getLast?.or before) rest later := by
  constructor
  · rintro ⟨⟩
    exact ⟨_, _, _, rfl, rfl, ‹_›, ‹_›⟩
  · rintro ⟨run, rest, later, rfl, rfl, allowed, h⟩
    exact .captured allowed h

/-! ## Lengths of captures -/

theorem NoLonger.grow {run' : List Char} {later later' : List (List Char)}
    (h : NoLonger (run :: later) (run' :: later')) (c : Char) :
    NoLonger ((c :: run) :: later) ((c :: run') :: later') := by
  cases h with
  | shorter h => exact .shorter (Nat.succ_lt_succ h)
  | alike h rest => exact .alike (congrArg Nat.succ h) rest

theorem NoLonger.antisymm {other : List (List Char)} (h : NoLonger captures other)
    (h' : NoLonger other captures) : captures.map List.length = other.map List.length := by
  induction h with
  | nothing => rfl
  | shorter h =>
    cases h' with
    | shorter h' => exact absurd h' (Nat.lt_asymm h)
    | alike h' => exact absurd h'.symm (Nat.ne_of_lt h)
  | alike h _ ih =>
    cases h' with
    | shorter h' => exact absurd h.symm (Nat.ne_of_lt h')
    | alike _ h' => rw [List.map_cons, List.map_cons, h, ih h']

/-! ## Runs -/

theorem getLast?_cons_or (c : Char) (run : List Char) (before : Option Char) :
    (c :: run).getLast?.or before = run.getLast?.or (some c) := by
  cases h : run.getLast? <;> simp [List.getLast?_cons, h]

theorem Matches.stop (h : Matches pieces before text captures) :
    Matches (.captured chars :: pieces) before text ([] :: captures) :=
  .captured (List.forall_mem_nil _) h

theorem Matches.more {c : Char} (hc : chars.has c = true)
    (h : Matches (.captured chars :: pieces) (some c) text (run :: captures)) :
    Matches (.captured chars :: pieces) before (c :: text) ((c :: run) :: captures) := by
  cases h with
  | captured allowed h =>
    refine .captured (List.forall_mem_cons.mpr ⟨hc, allowed⟩) ?_
    rwa [getLast?_cons_or]

section Runs

variable {next : Option Char → List Char → Option (List (List Char))}

theorem Matches.of_greedyRun
    (sound : ∀ before text captures, next before text = some captures →
      Matches pieces before text captures)
    (h : greedyRun chars next before text = some (run, captures)) :
    Matches (.captured chars :: pieces) before text (run :: captures) := by
  induction text generalizing before run with
  | nil =>
    obtain ⟨_, found, he⟩ := Option.map_eq_some_iff.mp h
    obtain ⟨rfl, rfl⟩ := Prod.mk.inj he
    exact (sound _ _ _ found).stop
  | cons c text ih =>
    rcases Option.or_eq_some_iff.mp h with longer | ⟨_, here⟩
    · obtain ⟨⟨inner, _⟩, found, he⟩ := Option.map_eq_some_iff.mp longer
      obtain ⟨rfl, rfl⟩ := Prod.mk.inj he
      obtain ⟨hc, found⟩ := Option.ite_none_right_eq_some.mp found
      exact (ih found).more hc
    · obtain ⟨_, found, he⟩ := Option.map_eq_some_iff.mp here
      obtain ⟨rfl, rfl⟩ := Prod.mk.inj he
      exact (sound _ _ _ found).stop

/-- Where the next pieces match at once, some run is found, though it may be longer than empty. -/
theorem exists_greedyRun_of_next {best : List (List Char)} (found : next before text = some best)
    (le : NoLonger captures best) :
    ∃ longest later, greedyRun chars next before text = some (longest, later) ∧
      NoLonger ([] :: captures) (longest :: later) := by
  cases text with
  | nil => exact ⟨[], best, by simp [greedyRun, found], .alike rfl le⟩
  | cons c text =>
    cases longer : (if chars.has c then greedyRun chars next (some c) text else none) with
    | none => exact ⟨[], best, by simp [greedyRun, longer, found], .alike rfl le⟩
    | some taken =>
      exact ⟨c :: taken.1, taken.2, by simp [greedyRun, longer], .shorter (Nat.zero_lt_succ _)⟩

theorem exists_greedyRun
    (finds : ∀ before text captures, Matches pieces before text captures →
      ∃ best, next before text = some best ∧ NoLonger captures best)
    (allowed : ∀ c ∈ run, chars.has c = true)
    (h : Matches pieces (run.getLast?.or before) rest captures) :
    ∃ longest best, greedyRun chars next before (run ++ rest) = some (longest, best) ∧
      NoLonger (run :: captures) (longest :: best) := by
  -- along the run of the given match: the greedy one takes these characters too and stops no earlier
  induction run generalizing before with
  | nil =>
    rw [List.getLast?_nil, Option.none_or] at h
    obtain ⟨best, found, le⟩ := finds _ _ _ h
    exact exists_greedyRun_of_next found le
  | cons c run ih =>
    obtain ⟨hc, allowed⟩ := List.forall_mem_cons.mp allowed
    rw [getLast?_cons_or] at h
    obtain ⟨longest, best, found, le⟩ := ih allowed h
    exact ⟨c :: longest, best, by simp [greedyRun, hc, found], le.grow c⟩

end Runs

/-! ## Rows of pieces -/

/-- What the matcher captures is captured in a match. -/
theorem Matches.of_capturesAt (h : capturesAt pieces before text = some captures) :
    Matches pieces before text captures := by
  induction pieces generalizing before text captures with
  | nil =>
    obtain rfl := Option.some.inj h
    exact .nothing
  | cons piece pieces ih =>
    cases piece with
    | literal c =>
      cases text with
      | nil => cases h
      | cons d rest =>
        obtain ⟨rfl, found⟩ := Option.ite_none_right_eq_some.mp h
        exact .literal (ih found)
    | look l =>
      rw [capturesAt] at h
      obtain ⟨holds, found⟩ := Option.ite_none_right_eq_some.mp h
      exact .look holds (ih found)
    | captured chars =>
      rw [capturesAt] at h
      obtain ⟨⟨run, later⟩, found, rfl⟩ := Option.map_eq_some_iff.mp h
      exact .of_greedyRun (fun _ _ _ => ih) found

/-- Where there is a match the matcher finds one, and none has longer captures. -/
theorem Matches.exists_capturesAt (h : Matches pieces before text captures) :
    ∃ best, capturesAt pieces before text = some best ∧ NoLonger captures best := by
  induction pieces generalizing before text captures with
  | nil =>
    cases h
    exact ⟨[], by rw [capturesAt], .nothing⟩
  | cons piece pieces ih =>
    cases h with
    | literal h =>
      obtain ⟨best, found, le⟩ := ih h
      exact ⟨best, by rw [capturesAt, if_pos rfl, found], le⟩
    | look holds h =>
      obtain ⟨best, found, le⟩ := ih h
      exact ⟨best, by rw [capturesAt, if_pos holds, found], le⟩
    | captured allowed h =>
      obtain ⟨longest, best, found, le⟩ := exists_greedyRun (fun _ _ _ => ih) allowed h
      exact ⟨longest :: best, by rw [capturesAt, found]; rfl, le⟩

/-- The lengths of the captures say which match it is. -/
theorem Matches.eq_of_lengths {other : List (List Char)} (h : Matches pieces before text captures)
    (h' : Matches pieces before text other)
    (same : captures.map List.length = other.map List.length) : captures = other := by
  induction h generalizing other with
  | nothing =>
    cases h'
    rfl
  | literal _ ih =>
    cases h' with
    | literal h' => exact ih h' same
  | look _ _ ih =>
    cases h' with
    | look _ h' => exact ih h' same
  | captured _ _ ih =>
    obtain ⟨_, _, _, split, rfl, -, h'⟩ := matches_captured.mp h'
    obtain ⟨sameRun, sameLater⟩ := List.cons.inj same
    obtain ⟨rfl, rfl⟩ := List.append_inj split sameRun
    rw [ih h' sameLater]

/-- The matcher finds the match with the longest captures. -/
theorem capturesAt_eq_some_iff : capturesAt pieces before text = some captures ↔
    Matches pieces before text captures ∧
      ∀ other, Matches pieces before text other → NoLonger other captures := by
  constructor
  · intro found
    refine ⟨.of_capturesAt found, fun other h => ?_⟩
    obtain ⟨best, found', le⟩ := h.exists_capturesAt
    obtain rfl := Option.some.inj (found.symm.trans found')
    exact le
  · rintro ⟨h, most⟩
    obtain ⟨best, found, le⟩ := h.exists_capturesAt
    have matched : Matches pieces before text best := .of_capturesAt found
    rw [found, h.eq_of_lengths matched (le.antisymm (most best matched))]
/-! ## Anchored rows -/

/-- Pieces that begin at the start of the text match there or nowhere. -/
theorem capturesFrom_textStart (pieces : List Piece) (text : List Char) :
    capturesFrom (.look .textStart :: pieces) none text =
      capturesAt (.look .textStart :: pieces) none text := by
  have later : ∀ (text : List Char) (c : Char),
      capturesFrom (.look .textStart :: pieces) (some c) text = none := by
    intro text
    induction text with
    | nil => exact fun c => rfl
    | cons d text ih => exact fun c => ih d
  cases text with
  | nil => rfl
  | cons c text => rw [capturesFrom, later, Option.or_none]

end Traversal.Regex

/-! ## All characters but one -/

namespace Traversal.Text

variable {c d : Char}

theorem numberOfCode_lt (c : Char) : numberOfCode c.toNat < charCount := by
  have hc : c.toNat < 0xD800 ∨ 0xDFFF < c.toNat ∧ c.toNat < 0x110000 := c.valid
  unfold numberOfCode charCount surrogateCount
  split <;> omega

theorem numberOfCode_inj : numberOfCode c.toNat = numberOfCode d.toNat ↔ c = d := by
  have hc : c.toNat < 0xD800 ∨ 0xDFFF < c.toNat ∧ c.toNat < 0x110000 := c.valid
  have hd : d.toNat < 0xD800 ∨ 0xDFFF < d.toNat ∧ d.toNat < 0x110000 := d.valid
  rw [← Char.toNat_inj]
  unfold numberOfCode surrogateCount
  split <;> split <;> omega

theorem CharSet.has_complement_single : (single d).complement.has c = true ↔ c ≠ d := by
  have hc := numberOfCode_lt c
  have hd := numberOfCode_lt d
  rw [Ne, ← numberOfCode_inj]
  -- there is a span below the character unless it is the first, and one above unless it is the last
  by_cases below : 0 < numberOfCode d.toNat <;>
    by_cases above : numberOfCode d.toNat + 1 < charCount <;>
    simp [has, complement, single, range, Span.gaps, covers, below, above]
  · split <;> omega
  · omega
  · omega
  · omega

end Traversal.Text
