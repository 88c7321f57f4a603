import Traversal.Regex.Bracketed
import Traversal.Text.Later

/-! # Reading patterns

The written form of patterns: alternatives with bars, sequences, repetitions, groups, classes,
escapes, and flags that hold from where they stand to the end of their group. Look-around and back
references are refused, as is a repetition of nothing. A pattern is read together with its depth:
how many classes, repetitions, groups, sequences and alternatives stand within each other in it. -/

namespace Traversal.Regex

open Traversal.Text

/-- What has been read so far besides the pattern, and what is left to read. -/
structure Cursor where
  flags : Flags := {}
  /-- Names of groups. -/
  names : List (List Char) := []
  rest : List Char

/-! ## Repetitions -/

/-- A number, with blanks around it. -/
def readCount (flags : Flags) (cs : List Char) : Option (Nat × List Char) :=
  let (digits, rest) := flags.takeWhile Char.isDigit (cs.dropWhile isBlank)
  let n := Nat.ofDigitChars 10 digits 0
  if digits = [] ∨ UInt32.size ≤ n then none else some (n, rest.dropWhile isBlank)

/-- The bounds of a repetition whose opening brace has been read. -/
def readBounds (flags : Flags) (cs : List Char) : Option ((Nat × Option Nat) × List Char) := do
  let (least, cs) ← readCount flags (flags.skip cs)
  match cs with
  | '\x7d' :: rest => return ((least, some least), rest)
  | ',' :: rest =>
    match flags.skip rest with
    | '\x7d' :: rest => return ((least, none), rest)
    | rest =>
      let (most, rest) ← readCount flags rest
      match rest with
      | '\x7d' :: rest => if least ≤ most then return ((least, some most), rest) else none
      | _ => none
  | _ => none

/-- Whether a repetition is lazy, which a question mark after it says, or the lack of one. -/
def Flags.readLazy (flags : Flags) : List Char → Bool × List Char
  | '?' :: rest => (!flags.swapped, rest)
  | cs => (flags.swapped, cs)

/-! ## Groups and flags -/

/-- Flags up to a colon or closing parenthesis, which is given too. A flag stands once, a minus once
and not last. -/
def readFlags (flags : Flags) (seen : List Char) (on : Bool) :
    List Char → Option (Flags × Bool × Char × List Char)
  | [] => none
  | c :: rest =>
    if c = ':' ∨ c = ')' then
      if seen.head? = some '-' then none else some (flags, seen.isEmpty, c, rest)
    else if seen.contains c then none
    else if c = '-' then readFlags flags ('-' :: seen) false rest
    else
      match flags.set? on c with
      | some flags => readFlags flags (c :: seen) on rest
      | none => none

/-- Letters that may begin a group's name. -/
def nameStarters : CharSet :=
  .unionAll [alphabetic.chars, .ofTable laterAlphabetic, .single '_']

/-- Characters that may follow in a group's name. -/
def nameFollowers : CharSet :=
  .unionAll [nameStarters, charsOf numbers, .ofTable laterNumbers, .ofTable "2E 5B 5D"]

/-- A group's name: a letter or underscore, then letters, digits, underscores, points, brackets. -/
def readName (cs : List Char) : Option (List Char × List Char) :=
  let name := cs.takeWhile (· ≠ '>')
  match name, cs.dropWhile (· ≠ '>') with
  | first :: others, _ :: rest =>
    if nameStarters.has first ∧ others.all nameFollowers.has = true then some (name, rest) else none
  | _, _ => none

/-! ## Sequences and alternatives -/

/-- A pattern with its depth. -/
structure Part where
  pattern : Pattern
  depth : Nat := 0

def Part.deepest (parts : List Part) : Nat := (parts.map (·.depth)).foldl max 0

/-- Parts one after the other, newest first. -/
def Part.sequence (items : List Part) : Part :=
  { pattern := .sequenceOf (items.reverse.map (·.pattern))
    depth := if items.length ≤ 1 then deepest items else deepest items + 1 }

/-- Alternatives, newest first. -/
def Part.choice (arms : List Part) : Part :=
  { pattern := .choiceOf (arms.reverse.map (·.pattern))
    depth := if arms.length ≤ 1 then deepest arms else deepest arms + 1 }

def Part.group (body : Part) (reported : Bool) : Part :=
  { pattern := if reported then .group body.pattern else body.pattern, depth := body.depth + 1 }

/-- An item of a sequence: a part, or a change of flags, which cannot be repeated. -/
inductive Item where
  | part (part : Part)
  | flags

def Item.toPart : Item → Part
  | part p => p
  | flags => ⟨.empty, 0⟩

/-- The alternatives and the sequence read so far, newest first. -/
structure Branch where
  arms : List Part := []
  items : List Item := []

def Branch.bar (b : Branch) : Branch :=
  { arms := .sequence (b.items.map Item.toPart) :: b.arms }

def Branch.close (b : Branch) : Part := .choice b.bar.arms

def Branch.add (b : Branch) (part : Part) : Branch := { b with items := .part part :: b.items }

def Branch.setFlags (b : Branch) : Branch := { b with items := .flags :: b.items }

/-- Repeats the newest item. -/
def Branch.repeated? (b : Branch) (least : Nat) (most : Option Nat) (isLazy : Bool) :
    Option Branch :=
  match b.items with
  | .part p :: earlier =>
    let part : Part := ⟨p.pattern.repeated least most isLazy, p.depth + 1⟩
    some { b with items := .part part :: earlier }
  | _ => none

/-! ## Patterns -/

/-- What an escape matches. -/
def Flags.escape (flags : Flags) : Escape → Pattern
  | .char c => flags.literal c
  | .shorthand chars => flags.oneOf chars
  | .property chars => flags.oneOf chars
  | .look l => .look l

/-- Reads up to the end of the group, or of the whole text outside of groups. -/
def readBranches (inGroup : Bool) : Nat → Branch → Cursor → Option (Part × Cursor)
  | 0, _, _ => none
  | fuel + 1, b, cursor =>
    let flags := cursor.flags
    let go (b : Branch) (rest : List Char) := readBranches inGroup fuel b { cursor with rest }
    let add (p : Pattern) (rest : List Char) := go (b.add ⟨p, 0⟩) rest
    let times (least : Nat) (most : Option Nat) (rest : List Char) : Option (Part × Cursor) := do
      let (isLazy, rest) := flags.readLazy rest
      go (← b.repeated? least most isLazy) rest
    let group (reported : Bool) (inner : Cursor) : Option (Part × Cursor) := do
      let (body, after) ← readBranches true fuel {} inner
      readBranches inGroup fuel (b.add (body.group reported)) { after with flags }
    let named (rest : List Char) : Option (Part × Cursor) := do
      let (name, rest) ← readName rest
      if cursor.names.contains name then none
      else group true { cursor with names := name :: cursor.names, rest }
    match flags.skip cursor.rest with
    | [] => if inGroup then none else some (b.close, { cursor with rest := [] })
    | '|' :: rest => go b.bar rest
    | ')' :: rest => if inGroup then some (b.close, { cursor with rest }) else none
    | '(' :: rest =>
      match flags.skip rest with
      | '?' :: 'P' :: '<' :: rest => named rest
      | '?' :: '<' :: rest => named rest
      | '?' :: rest => do
        let (inner, noFlags, close, rest) ← readFlags flags [] true rest
        let cursor := { cursor with flags := inner, rest }
        if close = ':' then group false cursor
        else if noFlags then none
        else readBranches inGroup fuel b.setFlags cursor
      | rest => group true { cursor with rest }
    | '*' :: rest => times 0 none rest
    | '+' :: rest => times 1 none rest
    | '?' :: rest => times 0 (some 1) rest
    | '\x7b' :: rest => do
      let ((least, most), rest) ← readBounds flags rest
      times least most (flags.skip rest)
    | '[' :: rest => do
      let (chars, rest) ← readClass flags (2 * rest.length + 2) rest
      go (b.add ⟨flags.oneOf chars.chars, chars.depth⟩) rest
    | '\\' :: rest => do
      let (escape, rest) ← readEscape flags rest
      add (flags.escape escape) rest
    | '.' :: rest => do add (← flags.dot?) rest
    | '^' :: rest => add flags.caret rest
    | '$' :: rest => add flags.dollar rest
    | c :: rest => add (flags.literal c) rest

/-- How many levels of a pattern may stand within each other. -/
def depthLimit : Nat := 250

/-- The pattern with the given written form. Every round of reading takes up a character or ends a
group. -/
def Pattern.read (text : String) : Option Pattern := do
  let cs := text.toList
  let (part, _) ← readBranches false (cs.length + 1) {} { rest := cs }
  if depthLimit < part.depth then none else return part.pattern

end Traversal.Regex
