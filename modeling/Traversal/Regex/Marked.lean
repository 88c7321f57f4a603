import Traversal.Regex.Pattern

/-! # Matching

A pattern runs over a text by marks on it: a set of characters is marked when it has just read one.
All ways through the pattern are followed at once, so the time is bounded by the size of the pattern
times the length of the text. Which of several matches is preferred does not matter for whether
there is one. -/

namespace Traversal.Regex

open Traversal.Text

/-- A pattern with marks. Parts made of other parts know whether any set in them is marked, so that
parts without marks need not be visited. -/
inductive Marked where
  | empty
  | look (look : Look)
  | oneOf (chars : CharSet) (marked : Bool)
  | pair (live : Bool) (a b : Marked)
  | either (live : Bool) (a b : Marked)
  /-- One or more times. -/
  | plus (live : Bool) (a : Marked)
deriving Repr

namespace Marked

/-- Some set is marked. -/
def live : Marked → Bool
  | empty => false
  | look _ => false
  | oneOf _ marked => marked
  | pair live _ _ => live
  | either live _ _ => live
  | plus live _ => live

def andThen (a b : Marked) : Marked := pair (a.live || b.live) a b

def orElse (a b : Marked) : Marked := either (a.live || b.live) a b

def oneOrMore (a : Marked) : Marked := plus a.live a

/-- Whether the end of the pattern is reached at a place: from a mark, or, if the pattern may begin
at the place (`entered`), by reading nothing. -/
def ends (place : Place) : Marked → Bool → Bool
  | empty, entered => entered
  | look l, entered => entered && l.holds place
  | oneOf _ marked, _ => marked
  | pair live a b, entered => (entered || live) && b.ends place (a.ends place entered)
  | either live a b, entered => (entered || live) && (a.ends place entered || b.ends place entered)
  | plus live a, entered => (entered || live) && a.ends place entered

/-- The marks after reading the character `c`, which follows the place. A repeated part may begin
where it ends. -/
def read (place : Place) (c : Char) : Marked → Bool → Marked
  | empty, _ => empty
  | look l, _ => look l
  | oneOf chars _, entered => oneOf chars (entered && chars.has c)
  | pair live a b, entered =>
    if entered || live then (a.read place c entered).andThen (b.read place c (a.ends place entered))
    else pair live a b
  | either live a b, entered =>
    if entered || live then (a.read place c entered).orElse (b.read place c entered)
    else either live a b
  | plus live a, entered =>
    if entered || live then (a.read place c (entered || a.ends place false)).oneOrMore
    else plus live a

/-- The pattern ends somewhere in the text from the current place on. It may begin anywhere. -/
def found (before : Option Char) (p : Marked) : List Char → Bool
  | [] => p.ends ⟨before, none⟩ true
  | c :: rest =>
    let place : Place := ⟨before, some c⟩
    p.ends place true || found (some c) (p.read place c true) rest

/-! ## Marking patterns -/

/-- Joins neighbours. -/
def joinPairs (join : Marked → Marked → Marked) : List Marked → List Marked
  | a :: b :: rest => join a b :: joinPairs join rest
  | rest => rest

theorem joinPairs_length_le (join : Marked → Marked → Marked) (l : List Marked) :
    (joinPairs join l).length ≤ l.length := by
  fun_induction joinPairs join l with
  | case1 a b rest ih => simp only [List.length_cons]; omega
  | case2 rest => exact Nat.le_refl _

/-- Joins all items, so that no item is deep. -/
def joinAll (join : Marked → Marked → Marked) : List Marked → Marked
  | [] => empty
  | [a] => a
  | a :: b :: rest => joinAll join (join a b :: joinPairs join rest)
termination_by items => items.length
decreasing_by
  have := joinPairs_length_le join rest
  simp only [List.length_cons]
  omega

/-- So many copies, one after the other, so that no copy is deep. -/
def copies (a : Marked) (n : Nat) : Marked :=
  if n = 0 then empty
  else if n = 1 then a
  else
    let half := copies a (n / 2)
    let double := half.andThen half
    if n % 2 = 0 then double else double.andThen a
termination_by n

/-- The pattern matches empty text wherever it stands. -/
def skippable : Marked → Bool
  | empty => true
  | look _ => false
  | oneOf _ _ => false
  | pair _ a b => a.skippable && b.skippable
  | either _ a b => a.skippable || b.skippable
  | plus _ a => a.skippable

/-- Up to `n` times. Each time but the first is within the time before, so that it is only visited
when that one ends; what matches empty text anyway need not be optional. -/
def upTo (a : Marked) (n : Nat) : Marked :=
  if a.skippable then copies a n
  else Nat.repeat (fun inner => empty.orElse (a.andThen inner)) n empty

def times (a : Marked) (least : Nat) : Option Nat → Marked
  | none =>
    if least = 0 then empty.orElse a.oneOrMore else (copies a (least - 1)).andThen a.oneOrMore
  | some most => (copies a least).andThen (upTo a (most - least))

end Marked

mutual

/-- The pattern without any marks. -/
def Pattern.unmarked : Pattern → Marked
  | .empty => .empty
  | .literal chars => .joinAll .andThen (chars.map fun c => .oneOf (.single c) false)
  | .oneOf chars _ => .oneOf chars false
  | .look l => .look l
  | .times body least most _ => .times body.unmarked least most
  | .group body => body.unmarked
  | .sequence parts => .joinAll .andThen (unmarkedAll parts)
  | .choice arms => .joinAll .orElse (unmarkedAll arms)

def unmarkedAll : List Pattern → List Marked
  | [] => []
  | p :: rest => p.unmarked :: unmarkedAll rest

end

/-- The pattern matches somewhere in the text. -/
def Pattern.found (pattern : Pattern) (text : String) : Bool :=
  pattern.unmarked.found none text.toList

end Traversal.Regex
