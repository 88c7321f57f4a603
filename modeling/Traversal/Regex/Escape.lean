import Traversal.Regex.Flags
import Traversal.Regex.Property
import Traversal.Text.Hexadecimal

/-! # Escapes

What a backslash and the characters after it stand for. -/

namespace Traversal.Regex

open Traversal.Text

inductive Escape where
  | char (c : Char)
  /-- A class whose members do not depend on case. -/
  | shorthand (chars : CharSet)
  /-- A class by property, up to case if the flags ask for it. -/
  | property (chars : CharSet)
  | look (look : Look)
deriving Repr

/-- The character with the given hexadecimal number, if there is one. -/
def hexChar? (digits : List Char) : Option Char :=
  match hexNumber? digits with
  | some code =>
    if h : code.isValidChar then if digits = [] then none else some (Char.ofNatAux code h) else none
  | none => none

/-- The given number of hexadecimal digits. -/
def readHexDigits (flags : Flags) : Nat → List Char → Option (List Char × List Char)
  | 0, cs => some ([], cs)
  | n + 1, cs => do
    match flags.skip cs with
    | c :: rest =>
      if (hexDigit? c).isNone then none
      let (digits, rest) ← readHexDigits flags n rest
      return (c :: digits, rest)
    | [] => none

/-- A character by number: in braces, or with as many digits as the letter asks for. A number of two
digits is a byte, and if only ASCII may be meant it has to be ASCII. -/
def readHex (flags : Flags) (length : Nat) (cs : List Char) : Option (Escape × List Char) :=
  match flags.skip cs with
  | '\x7b' :: rest =>
    match flags.takeWhile (fun c => (hexDigit? c).isSome) rest with
    | (digits, '\x7d' :: rest) => (hexChar? digits).map fun c => (.char c, rest)
    | _ => none
  | cs => do
    let (digits, rest) ← readHexDigits flags length cs
    let c ← hexChar? digits
    if length = 2 ∧ !flags.unicode ∧ 0x80 ≤ c.toNat then none
    else return (.char c, rest)

/-- A property by one letter or by its text in braces. -/
def readProperty (flags : Flags) (negated : Bool) (cs : List Char) :
    Option (Escape × List Char) := do
  if !flags.unicode then none
  match flags.skip cs with
  | '\x7b' :: rest =>
    match flags.takeWhile (· ≠ '\x7d') rest with
    | (text, _ :: rest) =>
      let (chars, flipped) ← propertyText? text
      return (.property (← flags.closed? chars (negated != flipped)), rest)
    | _ => none
  | c :: rest =>
    let chars ← property? (plainName [c])
    return (.property (← flags.closed? chars negated), rest)
  | [] => none

/-- A boundary of words, plain or by its name in braces. Braces that begin with anything but a
letter or hyphen are left to be a repetition. -/
def readBoundary (flags : Flags) (cs : List Char) : Option (Escape × List Char) :=
  let isNameChar (c : Char) : Bool := c.isAlpha || c == '-'
  let plain := some (.look (flags.wordEdge .boundary), cs)
  match cs with
  | '\x7b' :: rest =>
    match flags.skip rest with
    | [] => none
    | c :: after =>
      if !isNameChar c then plain
      else
        match flags.takeWhile isNameChar (c :: after) with
        | (name, '\x7d' :: rest) =>
          let edge? : Option WordEdge := match String.ofList name with
            | "start" => some .start
            | "end" => some .finish
            | "start-half" => some .startHalf
            | "end-half" => some .finishHalf
            | _ => none
          edge?.map fun edge => (.look (flags.wordEdge edge), rest)
        | _ => none
  | _ => plain

/-- What follows a backslash. -/
def readEscape (flags : Flags) : List Char → Option (Escape × List Char)
  | [] => none
  | c :: rest =>
    let shorthand (name : Shorthand) (negated : Bool) : Option (Escape × List Char) :=
      (flags.shorthand? name negated).map fun chars => (.shorthand chars, rest)
    match c with
    | 'x' => readHex flags 2 rest
    | 'u' => readHex flags 4 rest
    | 'U' => readHex flags 8 rest
    | 'p' => readProperty flags false rest
    | 'P' => readProperty flags true rest
    | 'd' => shorthand .digit false
    | 'D' => shorthand .digit true
    | 's' => shorthand .blank false
    | 'S' => shorthand .blank true
    | 'w' => shorthand .word false
    | 'W' => shorthand .word true
    | 'a' => some (.char '\x07', rest)
    | 'f' => some (.char '\x0c', rest)
    | 't' => some (.char '\t', rest)
    | 'n' => some (.char '\n', rest)
    | 'r' => some (.char '\r', rest)
    | 'v' => some (.char '\x0b', rest)
    | 'A' => some (.look .textStart, rest)
    | 'z' => some (.look .textEnd, rest)
    | 'b' => readBoundary flags rest
    | 'B' => some (.look (flags.wordEdge .noBoundary), rest)
    | '<' => some (.look (flags.wordEdge .start), rest)
    | '>' => some (.look (flags.wordEdge .finish), rest)
    | c => if c.toNat < 0x80 ∧ !c.isAlphanum then some (.char c, rest) else none

end Traversal.Regex
