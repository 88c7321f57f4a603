import Traversal.Regex.CharClass

/-! # Patterns

A pattern is a tree in a simple form: neighbouring literals are one literal, a sequence holds no
sequence, a choice no choice, a choice among single characters is a set, and what all arms of a
choice begin with stands before the choice. What a pattern matches is in `Traversal.Regex.Marked`,
how much room its automaton takes in `Traversal.Regex.Room`. -/

namespace Traversal.Regex

open Traversal.Text

/-- Where words begin and end. -/
inductive WordEdge where
  | boundary | noBoundary
  | start | finish
  | startHalf | finishHalf
deriving DecidableEq, Repr

/-- What a place in the text has to look like. -/
inductive Look where
  | textStart | textEnd
  /-- With `crlf`, a line ends with a line feed, a carriage return, or both. -/
  | lineStart (crlf : Bool)
  | lineEnd (crlf : Bool)
  /-- With `asciiOnly`, words are made of ASCII characters. -/
  | word (edge : WordEdge) (asciiOnly : Bool)
deriving DecidableEq, Repr

/-- The characters before and after a place. -/
structure Place where
  before : Option Char
  after : Option Char
deriving DecidableEq, Repr

def WordEdge.holds (edge : WordEdge) (wordBefore wordAfter : Bool) : Bool :=
  match edge with
  | .boundary => wordBefore != wordAfter
  | .noBoundary => wordBefore == wordAfter
  | .start => !wordBefore && wordAfter
  | .finish => wordBefore && !wordAfter
  | .startHalf => !wordBefore
  | .finishHalf => !wordAfter

/-- The place looks as asked. -/
def Look.holds (look : Look) (place : Place) : Bool :=
  let before := place.before
  let after := place.after
  match look with
  | .textStart => before.isNone
  | .textEnd => after.isNone
  | .lineStart crlf =>
    before.isNone || before == some '\n' || (crlf && before == some '\r' && after != some '\n')
  | .lineEnd false => after.isNone || after == some '\n'
  | .lineEnd true =>
    after.isNone || after == some '\r' || (after == some '\n' && before != some '\r')
  | .word edge asciiOnly =>
    let isWord := if asciiOnly then isAsciiWordCharacter else isWordCharacter
    edge.holds (before.any isWord) (after.any isWord)

inductive Pattern where
  | empty
  | literal (chars : List Char)
  /-- One character of a set; `asciiOnly` says that no other characters could be meant. -/
  | oneOf (chars : CharSet) (asciiOnly : Bool)
  | look (look : Look)
  /-- From `least` to `most` times; without `most`, any number of times from `least` on. When there
  is a choice, a lazy repetition takes few. -/
  | times (body : Pattern) (least : Nat) (most : Option Nat) (isLazy : Bool)
  /-- A part whose match is reported. -/
  | group (body : Pattern)
  | sequence (parts : List Pattern)
  | choice (arms : List Pattern)

namespace Pattern

/-- The sum, if there are all summands. -/
def sum? (a b : Option Nat) : Option Nat := do return (← a) + (← b)

mutual

/-- How many characters a match has at least, if it is sure that there can be one. -/
def shortest : Pattern → Option Nat
  | empty => some 0
  | literal chars => some chars.length
  | oneOf chars _ => if chars.isEmpty then none else some 1
  | look _ => some 0
  | times body least _ _ => body.shortest.map (least * ·)
  | group body => body.shortest
  | sequence parts => (shortestOf parts).foldr sum? (some 0)
  | choice arms => (shortestOf arms).mapM id >>= List.min?

def shortestOf : List Pattern → List (Option Nat)
  | [] => []
  | p :: rest => p.shortest :: shortestOf rest

end

mutual

/-- How many characters a match has at most, if there is a bound. -/
def longest : Pattern → Option Nat
  | empty => some 0
  | literal chars => some chars.length
  | oneOf chars _ => if chars.isEmpty then none else some 1
  | look _ => some 0
  | times body _ most _ => do return (← most) * (← body.longest)
  | group body => body.longest
  | sequence parts => (longestOf parts).foldr sum? (some 0)
  | choice arms => (longestOf arms).mapM id >>= List.max?

def longestOf : List Pattern → List (Option Nat)
  | [] => []
  | p :: rest => p.longest :: longestOf rest

end

mutual

/-- The patterns are written alike. Two groups never are, since each is reported by itself. -/
def same : Pattern → Pattern → Bool
  | empty, empty => true
  | literal a, literal b => a == b
  | oneOf a asciiOnly, oneOf b asciiOnly' => a == b && asciiOnly == asciiOnly'
  | look a, look b => a == b
  | times a least most isLazy, times b least' most' isLazy' =>
    least == least' && most == most' && isLazy == isLazy' && a.same b
  | sequence a, sequence b => sameAll a b
  | choice a, choice b => sameAll a b
  | _, _ => false

def sameAll : List Pattern → List Pattern → Bool
  | [], [] => true
  | a :: as, b :: bs => a.same b && sameAll as bs
  | _, _ => false

end

/-! ## Building patterns -/

def ofSet (chars : CharSet) (asciiOnly : Bool) : Pattern :=
  match chars.single? with
  | some c => literal [c]
  | none => oneOf chars asciiOnly

/-- Puts a part before parts in simple form. -/
def before (part : Pattern) (parts : List Pattern) : List Pattern :=
  match part, parts with
  | empty, parts => parts
  | literal a, literal b :: rest => literal (a ++ b) :: rest
  | part, parts => part :: parts

/-- The parts of a sequence, or the pattern itself as the one part. -/
def parts : Pattern → List Pattern
  | sequence parts => parts
  | p => [p]

def sequenceOf (items : List Pattern) : Pattern :=
  match (items.flatMap parts).foldr before [] with
  | [] => empty
  | [p] => p
  | parts => sequence parts

/-- The arms of a choice, or the pattern itself as the one arm. -/
def arms : Pattern → List Pattern
  | choice arms => arms
  | p => [p]

def literalChar? : Pattern → Option Char
  | literal [c] => some c
  | _ => none

def set? : Pattern → Option CharSet
  | oneOf chars _ => some chars
  | _ => none

def sequence? : Pattern → Option (List Pattern)
  | sequence parts => some parts
  | _ => none

/-- Arms that are all single characters, or all sets, as one set. -/
def mergedArms? (arms : List Pattern) : Option Pattern :=
  match arms.mapM literalChar?, arms.mapM set? with
  | some chars, _ => some (ofSet (.unionAll (chars.map .single)) false)
  | none, some sets => some (ofSet (.unionAll sets) false)
  | none, none => none

/-- A choice whose arms begin differently. -/
def choiceOfDistinct (items : List Pattern) : Pattern :=
  match items.flatMap arms with
  | [p] => p
  | arms => (mergedArms? arms).getD (choice arms)

/-- The parts that two sequences begin with alike. -/
def commonStart : List Pattern → List Pattern → List Pattern
  | a :: as, b :: bs => if a.same b then a :: commonStart as bs else []
  | _, _ => []

/-- A choice. If all arms are sequences, what they begin with alike is put before it; what is left
of the arms then begins differently. -/
def choiceOf (items : List Pattern) : Pattern :=
  let plain := choiceOfDistinct items
  match plain.arms.mapM sequence? with
  | some (first :: second :: rest) =>
    let start := (second :: rest).foldl commonStart first
    if start.isEmpty then plain
    else
      let ends := (first :: second :: rest).map fun parts => sequenceOf (parts.drop start.length)
      sequenceOf (start ++ [choiceOfDistinct ends])
  | _ => plain

/-- Repeats a pattern. One that matches only empty text is not repeated more than once. -/
def repeated (body : Pattern) (least : Nat) (most : Option Nat) (isLazy : Bool) : Pattern :=
  let (least, most) :=
    if body.longest = some 0 then (min least 1, some (min (most.getD 1) 1)) else (least, most)
  if most = some 0 then empty
  else if least = 1 ∧ most = some 1 then body
  else times body least most isLazy

end Pattern

end Traversal.Regex
