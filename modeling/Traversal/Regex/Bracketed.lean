import Traversal.Regex.Escape

/-! # Classes between brackets

Members, ranges, nested classes and operations on sets. A class is read together with its depth:
how many classes, unions and operations stand within each other in it. -/

namespace Traversal.Regex

open Traversal.Text

structure DeepSet where
  chars : CharSet
  depth : Nat := 0

/-- One member of a class: a character, or a class by its escape. -/
def readMember (flags : Flags) : List Char → Option (Sum Char CharSet × List Char)
  | [] => none
  | '\\' :: rest =>
    match readEscape flags rest with
    | some (.char c, rest) => some (.inl c, rest)
    | some (.shorthand chars, rest) => some (.inr chars, rest)
    | some (.property chars, rest) => some (.inr chars, rest)
    | _ => none
  | c :: rest => some (.inl c, rest)

/-- The characters from `first` to `last`, unless only ASCII characters may be meant and these are
others. -/
def Flags.range? (flags : Flags) (first last : Char) : Option CharSet :=
  if first ≤ last ∧ (flags.unicode ∨ last.toNat < 0x80) then some (.range first last) else none

/-- A member or a range. A hyphen makes no range if a closing bracket or another hyphen is seen
after it. -/
def readRange (flags : Flags) (cs : List Char) : Option (CharSet × List Char) := do
  let (first, cs) ← readMember flags cs
  let alone? : Option CharSet := match first with
    | .inl c => flags.range? c c
    | .inr chars => some chars
  match flags.skip cs with
  | '-' :: rest =>
    let next := flags.peek rest
    if next = some ']' ∨ next = some '-' then return (← alone?, '-' :: rest)
    else
      let (last, rest) ← readMember flags (flags.skip rest)
      match first, last with
      | .inl a, .inl b => return (← flags.range? a b, rest)
      | _, _ => none
  | cs => return (← alone?, cs)

/-- What a class named between `[:` and `:]` is, its opening bracket being read; nothing if it is
not such a class. -/
def readNamed (cs : List Char) : Option ((CharSet × Bool) × List Char) :=
  match cs with
  | ':' :: rest =>
    let (negated, rest) := match rest with
      | '^' :: rest => (true, rest)
      | rest => (false, rest)
    match rest.dropWhile (· ≠ ':') with
    | ':' :: ']' :: after =>
      (asciiClass? (String.ofList (rest.takeWhile (· ≠ ':')))).map fun chars =>
        ((chars, negated), after)
    | _ => none
  | _ => none

/-- Operations on sets of characters; they are read from the left and bind alike. -/
inductive SetOperation where
  | intersection | difference | symmetricDifference
deriving DecidableEq, Repr

def SetOperation.apply : SetOperation → CharSet → CharSet → CharSet
  | .intersection, a, b => a.intersection b
  | .difference, a, b => a.difference b
  | .symmetricDifference, a, b => a.symmetricDifference b

/-- The operands read so far: one with its operation, and the members of the next. -/
structure ClassState where
  pending : Option (DeepSet × SetOperation) := none
  members : List DeepSet := []

def ClassState.add (state : ClassState) (chars : CharSet) (depth : Nat) : ClassState :=
  { state with members := ⟨chars, depth⟩ :: state.members }

/-- The members read so far as one set. -/
def ClassState.union (state : ClassState) : DeepSet :=
  let inner := (state.members.map (·.depth)).foldl max 0
  { chars := .unionAll (state.members.map (·.chars))
    depth := if state.members.length ≤ 1 then inner else inner + 1 }

/-- The set read so far. Operands are taken up to case, if the flags ask for it, before they are
combined. -/
def ClassState.operand (flags : Flags) (state : ClassState) : DeepSet :=
  let right := state.union
  match state.pending with
  | some (left, op) =>
    { chars := op.apply (flags.fold left.chars) (flags.fold right.chars)
      depth := max left.depth right.depth + 1 }
  | none => right

def ClassState.operator (flags : Flags) (state : ClassState) (op : SetOperation) : ClassState :=
  { pending := some (state.operand flags, op) }

/-- Leading hyphens, and a closing bracket that comes first, are members. Blanks and comments are
dropped between them, if they do not count. -/
def readLeading (spaced inComment empty : Bool) (state : ClassState) :
    List Char → ClassState × List Char
  | [] => (state, [])
  | c :: rest =>
    if inComment then readLeading spaced (c ≠ '\n') empty state rest
    else if spaced ∧ isBlank c = true then readLeading spaced false empty state rest
    else if spaced ∧ c = '#' then readLeading spaced true empty state rest
    else if c = '-' then readLeading spaced false false (state.add (.single '-') 0) rest
    else if c = ']' ∧ empty = true then (state.add (.single ']') 0, rest)
    else (state, c :: rest)

mutual

/-- A class whose opening bracket has been read. -/
def readClass (flags : Flags) : Nat → List Char → Option (DeepSet × List Char)
  | 0, _ => none
  | fuel + 1, cs => do
    let (negated, cs) := match flags.skip cs with
      | '^' :: rest => (true, rest)
      | rest => (false, rest)
    let (state, cs) := readLeading flags.spaced false true {} cs
    let (inner, cs) ← readMembers flags fuel state cs
    return ({ chars := ← flags.closed? inner.chars negated, depth := inner.depth + 1 }, cs)

/-- The members of a class up to its closing bracket. -/
def readMembers (flags : Flags) : Nat → ClassState → List Char → Option (DeepSet × List Char)
  | 0, _, _ => none
  | fuel + 1, state, cs =>
    match flags.skip cs with
    | [] => none
    | ']' :: rest => some (state.operand flags, rest)
    | '[' :: rest =>
      match readNamed rest with
      | some ((chars, negated), rest) => do
        readMembers flags fuel (state.add (← flags.closed? chars negated) 0) rest
      | none => do
        let (inner, rest) ← readClass flags fuel rest
        readMembers flags fuel (state.add inner.chars inner.depth) rest
    | '&' :: '&' :: rest => readMembers flags fuel (state.operator flags .intersection) rest
    | '-' :: '-' :: rest => readMembers flags fuel (state.operator flags .difference) rest
    | '~' :: '~' :: rest => readMembers flags fuel (state.operator flags .symmetricDifference) rest
    | cs => do
      let (chars, rest) ← readRange flags cs
      readMembers flags fuel (state.add chars 0) rest

end

end Traversal.Regex
