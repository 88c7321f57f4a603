import Traversal.Text.Hexadecimal

/-! # Strings of JSON

Between the quotes stand characters and escapes. An escape of the form backslash, u and four
hexadecimal digits gives a unit of UTF-16; a high unit and the low one after it make one character,
and a unit without its partner makes none. -/

namespace Traversal.Json

/-- A character, or a unit of UTF-16 given by its number. -/
inductive Piece where
  | char (c : Char)
  | unit (code : Nat)
deriving DecidableEq, Repr

/-- What a backslash before the character stands for. -/
def simpleEscape? : Char → Option Char
  | '"' => some '"'
  | '\\' => some '\\'
  | '/' => some '/'
  | 'b' => some '\x08'
  | 'f' => some '\x0c'
  | 'n' => some '\n'
  | 'r' => some '\r'
  | 't' => some '\t'
  | _ => none

/-- Adds a piece in front of what was read. -/
def addPiece (piece : Piece) : Option (List Piece × List Char) → Option (List Piece × List Char)
  | some (pieces, rest) => some (piece :: pieces, rest)
  | none => none

/-- The pieces up to the closing quote, and what follows it. -/
def readPieces : List Char → Option (List Piece × List Char)
  | [] => none
  | '"' :: rest => some ([], rest)
  | '\\' :: 'u' :: a :: b :: c :: d :: rest =>
    match Text.hexNumber? [a, b, c, d] with
    | some code => addPiece (.unit code) (readPieces rest)
    | none => none
  | '\\' :: e :: rest =>
    match simpleEscape? e with
    | some c => addPiece (.char c) (readPieces rest)
    | none => none
  | c :: rest =>
    if c.toNat < 0x20 ∨ c = '\\' then none else addPiece (.char c) (readPieces rest)

def isHighUnit (code : Nat) : Bool := 0xD800 ≤ code && code < 0xDC00

def isLowUnit (code : Nat) : Bool := 0xDC00 ≤ code && code < 0xE000

/-- The characters that pieces make, if every unit has its partner. -/
def joinPieces : List Piece → Option (List Char)
  | [] => some []
  | .char c :: rest => (joinPieces rest).map (c :: ·)
  | .unit high :: .unit low :: rest =>
    if isHighUnit high then
      if isLowUnit low then
        (joinPieces rest).map (Char.ofNat (0x10000 + (high - 0xD800) * 0x400 + (low - 0xDC00)) :: ·)
      else none
    else if isLowUnit high then none
    else (joinPieces (.unit low :: rest)).map (Char.ofNat high :: ·)
  | .unit code :: rest =>
    if isHighUnit code ∨ isLowUnit code then none else (joinPieces rest).map (Char.ofNat code :: ·)

/-- The string whose opening quote has been read, and what follows it. -/
def readString (cs : List Char) : Option (String × List Char) :=
  match readPieces cs with
  | some (pieces, rest) => (joinPieces pieces).map fun s => (String.ofList s, rest)
  | none => none

/-- The written form of a character: only quotes, backslashes and controls are escaped. -/
def writeChar (c : Char) : List Char :=
  if c = '"' then ['\\', '"']
  else if c = '\\' then ['\\', '\\']
  else if c = '\x08' then ['\\', 'b']
  else if c = '\x0c' then ['\\', 'f']
  else if c = '\n' then ['\\', 'n']
  else if c = '\r' then ['\\', 'r']
  else if c = '\t' then ['\\', 't']
  else if c.toNat < 0x20 then
    ['\\', 'u', '0', '0', Nat.digitChar (c.toNat / 16), Nat.digitChar (c.toNat % 16)]
  else [c]

def writeString (s : String) : String :=
  "\"" ++ String.ofList (s.toList.flatMap writeChar) ++ "\""

end Traversal.Json
