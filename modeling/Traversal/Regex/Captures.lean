import Traversal.Regex.Pattern

/-! # What a pattern captures

Once parts of a match are reported it matters which of several matches counts. Here a pattern is a
row of pieces, and a match is found by trying: a captured run first takes as many characters as it
can and then gives back one after the other, until the pieces after it match. Of the places where a
match begins the leftmost counts. -/

namespace Traversal.Regex

open Traversal.Text

/-- A piece of a pattern. -/
inductive Piece where
  | literal (c : Char)
  | look (look : Look)
  /-- Any number of characters of a set, as many as possible. They are reported. -/
  | captured (chars : CharSet)
deriving DecidableEq, Repr

/-- The piece as a part of a pattern. -/
def Piece.pattern : Piece → Pattern
  | literal c => .literal [c]
  | look l => .look l
  | captured chars => .group (.times (.oneOf chars false) 0 none false)

/-- The longest run of characters of the set after which `next` succeeds, with what that gives. What
`next` is asked about is the character before the rest of the text, and the rest. -/
def greedyRun {α : Type} (chars : CharSet) (next : Option Char → List Char → Option α)
    (before : Option Char) : List Char → Option (List Char × α)
  | [] => (next before []).map fun found => ([], found)
  | c :: rest =>
    let longer := if chars.has c then greedyRun chars next (some c) rest else none
    (longer.map fun (run, found) => (c :: run, found)).or
      ((next before (c :: rest)).map fun found => ([], found))

/-- What the pieces capture if they match from the current place on. -/
def capturesAt : List Piece → Option Char → List Char → Option (List (List Char))
  | [], _, _ => some []
  | .literal _ :: _, _, [] => none
  | .literal c :: pieces, _, d :: rest => if d = c then capturesAt pieces (some d) rest else none
  | .look l :: pieces, before, text =>
    if l.holds ⟨before, text.head?⟩ then capturesAt pieces before text else none
  | .captured chars :: pieces, before, text =>
    (greedyRun chars (capturesAt pieces) before text).map fun (run, later) => run :: later

/-- What they capture in the leftmost match that begins at the current place or after it. -/
def capturesFrom (pieces : List Piece) (before : Option Char) :
    List Char → Option (List (List Char))
  | [] => capturesAt pieces before []
  | c :: rest => (capturesAt pieces before (c :: rest)).or (capturesFrom pieces (some c) rest)

/-- What the pieces capture in the text, piece by piece, if they match somewhere in it. -/
def captures? (pieces : List Piece) (text : String) : Option (List String) :=
  (capturesFrom pieces none text.toList).map fun found => found.map String.ofList

end Traversal.Regex
