import Traversal.Regex.Pattern
import Traversal.Text.Blank

/-! # Flags

What holds at a place of a pattern's written form, and what that makes of characters and sets. -/

namespace Traversal.Regex

open Traversal.Text

structure Flags where
  caseless : Bool := false
  multiline : Bool := false
  dotAll : Bool := false
  /-- Blanks and comments in the written form do not count. -/
  spaced : Bool := false
  /-- Short names mean sets of all characters and not of ASCII ones only. -/
  unicode : Bool := true
  /-- Lines end with a line feed, a carriage return, or both. -/
  crlf : Bool := false
  /-- Repetitions are lazy unless they are marked, and marked ones are not. -/
  swapped : Bool := false
deriving DecidableEq, Repr

/-- Sets or clears one flag. -/
def Flags.set? (flags : Flags) (on : Bool) : Char → Option Flags
  | 'i' => some { flags with caseless := on }
  | 'm' => some { flags with multiline := on }
  | 's' => some { flags with dotAll := on }
  | 'x' => some { flags with spaced := on }
  | 'u' => some { flags with unicode := on }
  | 'R' => some { flags with crlf := on }
  | 'U' => some { flags with swapped := on }
  | _ => none

/-! ## Blanks and comments -/

/-- Drops blanks and comments; `inComment` says that a comment has begun. -/
def skipSpaced (inComment : Bool) : List Char → List Char
  | [] => []
  | c :: rest =>
    if inComment then skipSpaced (c ≠ '\n') rest
    else if isBlank c then skipSpaced false rest
    else if c = '#' then skipSpaced true rest
    else c :: rest

def Flags.skip (flags : Flags) (cs : List Char) : List Char :=
  if flags.spaced then skipSpaced false cs else cs

/-- The characters up to the first one that fails the test, without blanks and comments, and what
follows them. -/
def takeSpaced (test : Char → Bool) (inComment : Bool) : List Char → List Char × List Char
  | [] => ([], [])
  | c :: rest =>
    if inComment then takeSpaced test (c ≠ '\n') rest
    else if isBlank c then takeSpaced test false rest
    else if c = '#' then takeSpaced test true rest
    else if test c then
      let (taken, after) := takeSpaced test false rest
      (c :: taken, after)
    else ([], c :: rest)

/-- Takes characters as long as they pass the test, over blanks and comments if these do not
count. -/
def Flags.takeWhile (flags : Flags) (test : Char → Bool) (cs : List Char) : List Char × List Char :=
  if flags.spaced then takeSpaced test false cs else (cs.takeWhile test, cs.dropWhile test)

/-- The character after blanks and at most one number sign, if blanks and comments do not count. The
text of a comment is not passed over here. -/
def Flags.peek (flags : Flags) (cs : List Char) : Option Char :=
  if !flags.spaced then cs.head?
  else
    match cs.dropWhile isBlank with
    | '#' :: rest => (rest.dropWhile isBlank).head?
    | rest => rest.head?

/-! ## Sets -/

/-- The characters equal to one of the set, up to case if the flags ask for it. -/
def Flags.fold (flags : Flags) (chars : CharSet) : CharSet :=
  if !flags.caseless then chars
  else if flags.unicode then chars.caseless
  else chars.caseless.intersection ascii

/-- The complement of a set, unless only ASCII characters may be meant. -/
def Flags.complement? (flags : Flags) (chars : CharSet) : Option CharSet :=
  if flags.unicode then some chars.complement else none

/-- A set up to case, or its complement. -/
def Flags.closed? (flags : Flags) (chars : CharSet) (negated : Bool) : Option CharSet :=
  if negated then flags.complement? (flags.fold chars) else some (flags.fold chars)

def Flags.shorthand? (flags : Flags) (name : Shorthand) (negated : Bool) : Option CharSet :=
  let chars := if flags.unicode then name.chars else name.asciiChars
  if negated then flags.complement? chars else some chars

/-! ## Patterns -/

/-- One of the characters of a set. -/
def Flags.oneOf (flags : Flags) (chars : CharSet) : Pattern :=
  .ofSet chars !flags.unicode

/-- A character; up to case, it is a set. -/
def Flags.literal (flags : Flags) (c : Char) : Pattern :=
  if flags.caseless ∧ (flags.unicode ∨ c.toNat < 0x80) then flags.oneOf (flags.fold (.single c))
  else .literal [c]

/-- Any character that does not end a line. -/
def Flags.dot? (flags : Flags) : Option Pattern :=
  if !flags.unicode then none
  else if flags.dotAll then some (flags.oneOf .all)
  else if flags.crlf then some (flags.oneOf (CharSet.ofTable "A D").complement)
  else some (flags.oneOf (CharSet.single '\n').complement)

def Flags.caret (flags : Flags) : Pattern :=
  .look (if flags.multiline then .lineStart flags.crlf else .textStart)

def Flags.dollar (flags : Flags) : Pattern :=
  .look (if flags.multiline then .lineEnd flags.crlf else .textEnd)

def Flags.wordEdge (flags : Flags) (edge : WordEdge) : Look :=
  .word edge !flags.unicode

end Traversal.Regex
