import Std.Data.HashMap
import Traversal.Regex.Pattern
import Traversal.Text.ByteRange

/-! # Room for automata

A pattern runs as an automaton over the bytes of UTF-8, forward to find where a match ends and
backward to find where it starts. States are laid out one after the other and numbered from zero.
Room is counted in bytes: so many for each state, and more for each arm of a state that branches and
for each transition of a state that reads one of several byte ranges. A pattern may not take more
than `roomLimit` in either direction.

The states that read a set of characters are shared where two would do the same. States to share
are kept in a table of fixed size, at a slot that depends on what the state does and on the numbers
of the states that follow it; a state that comes to a taken slot drives the other one out, which is
then laid out again when it is needed again. So the room of a set depends on where it stands. -/

namespace Traversal.Regex

open Traversal.Text

inductive Direction where
  | forward | backward
deriving DecidableEq, Repr

def roomLimit : Nat := 10 * 1024 * 1024

/-- How many states there are, and the room they take. -/
structure Layout where
  states : Nat := 0
  room : Nat := 0
deriving DecidableEq, Repr

/-- Adds states, which have the given number of arms and of transitions among many. -/
def Layout.add (l : Layout) (states : Nat) (arms transitions : Nat := 0) : Layout :=
  ⟨l.states + states, l.room + 32 * states + 4 * arms + 8 * transitions⟩

/-- Adds what takes the same room wherever it stands. -/
def Layout.join (l more : Layout) : Layout :=
  ⟨l.states + more.states, l.room + more.room⟩

/-- A way to lay out more, unless there is no room. -/
abbrev Laying : Type := Layout → Option Layout

/-! ## Sets of characters -/

/-- One step of a hash: the exclusive or with a number, multiplied by a prime. -/
def hashStep (hash : UInt64) (n : Nat) : UInt64 := (hash ^^^ n.toUInt64) * 1099511628211

def hashStart : UInt64 := 14695981039346656037

/-- Reading a byte of the range leads to the state with the number `target`. -/
structure Transition where
  range : ByteRange
  target : Nat
deriving DecidableEq, Repr

/-- A layout with the states that may be shared, each by its slot. -/
structure SharedLayout (α : Type) where
  layout : Layout
  slots : Std.HashMap Nat (α × Nat) := {}

/-- The number of the state that does `what`, which is laid out unless it is found at its slot. -/
def SharedLayout.state {α : Type} [DecidableEq α] (l : SharedLayout α) (slot : Nat) (what : α)
    (transitions : Nat) : Nat × SharedLayout α :=
  match l.slots[slot]? with
  | some (known, number) => if known = what then (number, l) else added l
  | none => added l
where
  added (l : SharedLayout α) : Nat × SharedLayout α :=
    let number := l.layout.states
    (number,
      { layout := l.layout.add 1 0 transitions, slots := l.slots.insert slot (what, number) })

/-- The state that has the given transitions, in a table of ten thousand slots. -/
def SharedLayout.branch (l : SharedLayout (List Transition)) (transitions : List Transition) :
    Nat × SharedLayout (List Transition) :=
  let hash := transitions.foldl
    (fun hash t => hashStep (hashStep (hashStep hash t.range.first) t.range.last) t.target)
    hashStart
  l.state (hash % 10000).toNat transitions transitions.length

/-- The state that reads the range of the transition, in a table of a thousand slots. -/
def SharedLayout.reader (l : SharedLayout Transition) (t : Transition) :
    Nat × SharedLayout Transition :=
  let hash := hashStep (hashStep (hashStep hashStart t.target) t.range.first) t.range.last
  l.state (hash % 1000).toNat t 0

/-- First ranges, each with what follows it in the sequences that begin with it. -/
def groupByRange : List (List ByteRange) → List (ByteRange × List (List ByteRange))
  | [] => []
  | [] :: rest => groupByRange rest
  | (b :: tail) :: rest =>
    match groupByRange rest with
    | (c, tails) :: groups =>
      if b = c then (b, tail :: tails) :: groups else (b, [tail]) :: (c, tails) :: groups
    | [] => [(b, [tail])]

/-- A tree of ranges: what may be read first, each with what may be read after it, if anything. -/
inductive RangeTree where
  | node (branches : List (ByteRange × RangeTree))

/-- The tree of the sequences, which are not longer than `depth`. -/
def RangeTree.ofSequences : Nat → List (List ByteRange) → RangeTree
  | 0, _ => node []
  | depth + 1, sequences =>
    node ((groupByRange sequences).map fun (range, tails) => (range, ofSequences depth tails))

mutual

/-- Lays out a state that reads the tree and leads to `target`, after the states that follow it.
Sequences share the states that read their ends. -/
def RangeTree.layOut (target : Nat) :
    RangeTree → SharedLayout (List Transition) → Nat × SharedLayout (List Transition)
  | .node [], l => (target, l)
  | .node (first :: rest), l =>
    let (transitions, l) := layBranches target (first :: rest) l
    l.branch transitions

def layBranches (target : Nat) : List (ByteRange × RangeTree) → SharedLayout (List Transition) →
    List Transition × SharedLayout (List Transition)
  | [], l => ([], l)
  | (range, tree) :: rest, l =>
    let (state, l) := tree.layOut target l
    let (transitions, l) := layBranches target rest l
    (⟨range, state⟩ :: transitions, l)

end

/-- Lays out the states that read one sequence from its last range to its first. Sequences share the
states that read their beginnings. -/
def layReversed (target : Nat) (l : SharedLayout Transition) (sequence : List ByteRange) :
    SharedLayout Transition :=
  (sequence.foldl (fun (state, l) range => l.reader ⟨range, state⟩) (target, l)).2

/-- How to lay out the states that read one character of a set. -/
def setLaying (direction : Direction) (chars : CharSet) : Laying :=
  if chars.isAscii then fun l => some (l.add 2 0 chars.spans.size)
  else
    let sequences := chars.byteSequences
    match direction with
    | .forward =>
      let tree := RangeTree.ofSequences 4 sequences
      fun l => some (tree.layOut l.states { layout := l.add 1 }).2.layout
    | .backward =>
      let arms := sequences.length
      fun l => some (sequences.foldl (layReversed (l.states + 1)) { layout := l.add 2 arms }).layout

/-! ## Literals -/

def utf8Length (chars : List Char) : Nat :=
  chars.foldl (fun length c => length + c.utf8Size) 0

/-- The bytes of a literal in the order in which the automaton reads them. -/
def literalBytes (direction : Direction) (chars : List Char) : List UInt8 :=
  let bytes := chars.flatMap String.utf8EncodeChar
  match direction with
  | .forward => bytes
  | .backward => bytes.reverse

/-- Words with the same first byte, without it; groups come in the order of their first words. -/
def groupByByte : List (List UInt8) → List (UInt8 × List (List UInt8))
  | [] => []
  | [] :: rest => groupByByte rest
  | (b :: tail) :: rest =>
    let groups := groupByByte rest
    match groups.find? (·.1 = b) with
    | some (_, tails) => (b, tail :: tails) :: groups.filter (·.1 ≠ b)
    | none => (b, [tail]) :: groups

/-- The words between words that are empty. A word that ends before longer ones begin comes first,
so what stands before it and after it is not mixed. -/
def betweenEmpty : List (List UInt8) → List (List (List UInt8))
  | [] => [[]]
  | [] :: rest => [] :: betweenEmpty rest
  | word :: rest =>
    match betweenEmpty rest with
    | chunk :: chunks => (word :: chunk) :: chunks
    | [] => [[word]]

/-- Of the empty words before all others only one counts. -/
def dropRepeatedEmpty : List (List UInt8) → List (List UInt8)
  | [] :: rest => [] :: rest.dropWhile (·.isEmpty)
  | words => words

/-- Lays out a tree that reads any of the words, its last state apart. -/
def layTree : Nat → List (List UInt8) → Layout → Layout
  | 0, _, l => l
  | depth + 1, words, l =>
    if words.all (·.isEmpty) then l
    else
      let chunks := betweenEmpty (dropRepeatedEmpty words)
      let groups := (chunks.map groupByByte).filter (!·.isEmpty)
      let l := groups.foldl
        (fun l branches =>
          let l := branches.foldl (fun l (_, tails) => layTree depth tails l) l
          l.add 1 0 (if branches.length = 1 then 0 else branches.length))
        l
      l.add 1 (groups.length + (chunks.length - 1))

/-- The words of arms that are all literals. -/
def literals? (direction : Direction) (arms : List Pattern) : Option (List (List UInt8)) :=
  arms.mapM fun
    | .literal chars => some (literalBytes direction chars)
    | _ => none

/-! ## Patterns -/

/-- Lays out a part so many times, as long as there is room. -/
def layCopies (part : Laying) : Nat → Laying
  | 0, l => some l
  | n + 1, l =>
    match part l with
    | some l => if l.room ≤ roomLimit then layCopies part n l else none
    | none => none

def layExactly (part : Laying) (times : Nat) (l : Layout) : Option Layout :=
  if times = 0 then some (l.add 1) else layCopies part times l

/-- Lays out the repetition of a part; `wide` says that no match of the part is empty. -/
def layTimes (part : Laying) (wide : Bool) (least : Nat) (most : Option Nat) (l : Layout) :
    Option Layout :=
  match most with
  | none =>
    if 0 < least then (layCopies part least l).map (·.add 1 2)
    else if wide then part (l.add 1 2)
    else (part l).map (·.add 3 4)
  | some most =>
    if least = 0 ∧ most = 1 then (part (l.add 1 2)).map (·.add 1)
    else if least = most then layExactly part least l
    else do
      let l ← layExactly part least l
      layCopies (fun l => part (l.add 1 2)) (most - least) (l.add 1)

/-- Lays out the parts one after the other. -/
def layAll : List Laying → Laying
  | [], l => some l
  | part :: rest, l => do layAll rest (← part l)

/-- Lays out alternatives. The states where they part and meet come after the first two. -/
def layArms : List Laying → Laying
  | first :: second :: rest, l => do
    let l ← second (← first l)
    layAll rest (l.add 2 (rest.length + 2))
  | _, l => some l

mutual

/-- How to lay out a pattern. -/
def Pattern.laying (direction : Direction) : Pattern → Laying
  | .empty => fun l => some (l.add 1)
  | .literal chars =>
    let length := utf8Length chars
    fun l => some (l.add length)
  | .oneOf chars _ => setLaying direction chars
  | .look _ => fun l => some (l.add 1)
  | .times body least most _ =>
    let part := body.laying direction
    let wide := body.shortest.any (0 < ·)
    layTimes part wide least most
  | .group body =>
    let part := body.laying direction
    match direction with
    | .forward => fun l => (part (l.add 1)).map (·.add 1)
    | .backward => part
  | .sequence parts =>
    let parts := layings direction parts
    match direction with
    | .forward => layAll parts
    | .backward => layAll parts.reverse
  | .choice arms =>
    match literals? direction arms with
    | some words =>
      let tree := layTree ((words.map (·.length)).sum + 1) words (({} : Layout).add 1)
      fun l => some (l.join tree)
    | none =>
      let arms := layings direction arms
      layArms arms

def layings (direction : Direction) : List Pattern → List Laying
  | [] => []
  | p :: rest => p.laying direction :: layings direction rest

end

/-- The edge of the text at which matching begins. -/
def Direction.edge : Direction → Look
  | .forward => .textStart
  | .backward => .textEnd

/-- Whether one of the parts is tied to the edge, when all before it match only empty text. Each
part is given by whether it is tied itself and whether it matches only empty text. -/
def anyTied : List (Bool × Bool) → Bool
  | [] => false
  | (tied, thin) :: rest => tied || (thin && anyTied rest)

mutual

/-- Every match begins at the edge of the text. -/
def Pattern.isTied (direction : Direction) : Pattern → Bool
  | .look look => look = direction.edge
  | .times body least _ _ => 0 < least && body.isTied direction
  | .group body => body.isTied direction
  | .sequence parts =>
    match direction with
    | .forward => anyTied (tiesOf direction parts)
    | .backward => anyTied (tiesOf direction parts).reverse
  | .choice arms => (tiesOf direction arms).all (·.1)
  | _ => false

def tiesOf (direction : Direction) : List Pattern → List (Bool × Bool)
  | [] => []
  | p :: rest => (p.isTied direction, p.longest == some 0) :: tiesOf direction rest

end

/-- The whole automaton. Unless the pattern is tied to the edge of the text, a loop over all bytes
stands before it; forward, the whole match is reported like a group. -/
def Pattern.automaton (direction : Direction) (p : Pattern) : Option Layout :=
  let lead : Layout := if p.isTied direction then ({} : Layout).add 1 else ({} : Layout).add 3 2 1
  (p.group.laying direction lead).map (·.add 1)

/-- The pattern's automata take no more room than there is. -/
def Pattern.fits (p : Pattern) : Bool :=
  let fitsIn (direction : Direction) : Bool := (p.automaton direction).any (·.room ≤ roomLimit)
  fitsIn .forward && fitsIn .backward

end Traversal.Regex
