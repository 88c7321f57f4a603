import Traversal.Proofs.Json.Reader

/-! # Integers in arrays

An integer stands in a text as the argument at some position, or in a list that does. What is read at
that place is the number that the integer makes: itself, if it is one of 64 bits and not minus zero,
and else a floating-point number, if there is one. -/

namespace Traversal.Json

/-! ## Places -/

/-- Where the item with the given position begins, after an opening bracket. -/
inductive ItemAt (depth : Nat) : List Char → Nat → List Char → Prop
  | first (cs : List Char) : ItemAt depth cs 0 cs
  | next {cs rest following found : List Char} {value : Json} {i : Nat}
      (read : readValue depth cs = some (value, rest)) (comma : skipBlanks rest = ',' :: following)
      (later : ItemAt depth following i found) : ItemAt depth cs (i + 1) found

/-- Where the value begins to which the positions lead, one for each list around it, the outermost
first. -/
inductive ValueAt : Nat → List Char → List Nat → List Char → Prop
  | here (depth : Nat) (cs : List Char) : ValueAt depth cs [] cs
  | inside {depth : Nat} {cs rest inner found : List Char} {i : Nat} {path : List Nat}
      (opens : skipBlanks cs = '[' :: rest) (some : (skipBlanks rest).head? ≠ some ']')
      (item : ItemAt depth rest i inner) (deeper : ValueAt depth inner path found) :
      ValueAt (depth + 1) cs (i :: path) found

/-- The value to which the positions lead. -/
def at? : Json → List Nat → Option Json
  | value, [] => some value
  | .array items, i :: path => items[i]?.bind fun item => item.at? path
  | _, _ :: _ => none

/-- Items are read one first, and then more of them after a comma or none before the bracket. -/
theorem exists_first_of_readItems {α : Type} {close : Char} {item : List Char → Option (α × List Char)}
    {fuel : Nat} {cs rest : List Char} {values : List α}
    (h : readItems close item fuel cs = some (values, rest)) :
    ∃ value more after, values = value :: more ∧ item cs = some (value, after) ∧
      ∀ following, skipBlanks after = ',' :: following →
        ∃ fuel, readItems close item fuel following = some (more, rest) := by
  cases fuel with
  | zero => cases h
  | succ fuel =>
    rw [readItems] at h
    split at h
    next => cases h
    next value after read =>
      split at h
      next => cases h
      next c tail begins =>
        split_ifs at h with comma
        · obtain ⟨⟨more, rest⟩, others, he⟩ := Option.map_eq_some_iff.mp h
          obtain ⟨rfl, rfl⟩ := Prod.mk.inj he
          refine ⟨value, more, after, rfl, read, fun following continues => ⟨fuel, ?_⟩⟩
          obtain rfl : tail = following := (List.cons.inj (begins.symm.trans continues)).2
          exact others
        · obtain ⟨rfl, rfl⟩ := Prod.mk.inj (Option.some.inj h)
          refine ⟨value, [], after, rfl, read, fun following continues => absurd ?_ comma⟩
          exact (List.cons.inj (begins.symm.trans continues)).1

/-- The item at a position of a list that is read is the value read at its place. -/
theorem ItemAt.read {depth fuel i : Nat} {cs found rest : List Char} {values : List Json}
    (place : ItemAt depth cs i found)
    (h : readItems ']' (readValue depth) fuel cs = some (values, rest)) :
    ∃ value after, values[i]? = some value ∧ readValue depth found = some (value, after) := by
  induction place generalizing fuel values with
  | first cs =>
    obtain ⟨value, more, after, rfl, read, -⟩ := exists_first_of_readItems h
    exact ⟨value, after, rfl, read⟩
  | next read comma _ ih =>
    obtain ⟨value, more, after, rfl, read', others⟩ := exists_first_of_readItems h
    obtain ⟨-, rfl⟩ := Prod.mk.inj (Option.some.inj (read'.symm.trans read))
    obtain ⟨fuel, tail⟩ := others _ comma
    exact ih tail

theorem exists_items_of_readValue {depth : Nat} {cs inside rest : List Char} {value : Json}
    (h : readValue (depth + 1) cs = some (value, rest)) (opens : skipBlanks cs = '[' :: inside)
    (some : (skipBlanks inside).head? ≠ some ']') :
    ∃ items fuel, value = .array items ∧
      readItems ']' (readValue depth) fuel inside = .some (items, rest) := by
  rw [readValue, opens] at h
  simp only [if_neg (by decide : ¬ '[' = '"'), if_pos] at h
  obtain ⟨⟨items, rest⟩, read, he⟩ := Option.map_eq_some_iff.mp h
  obtain ⟨rfl, rfl⟩ := Prod.mk.inj he
  unfold readBracketed at read
  split at read
  next => cases read
  next c tail begins =>
    rw [begins] at some
    rw [if_neg fun he => some (congrArg Option.some he)] at read
    exact ⟨items, _, rfl, read⟩

/-- The value to which positions lead in what is read is the value read at their place. -/
theorem ValueAt.read {depth : Nat} {cs found rest : List Char} {path : List Nat} {value : Json}
    (place : ValueAt depth cs path found) (h : readValue depth cs = some (value, rest)) :
    ∃ depth' inner after, value.at? path = some inner ∧
      readValue depth' found = some (inner, after) := by
  induction place generalizing value rest with
  | here depth cs => exact ⟨depth, value, rest, by rw [at?], h⟩
  | inside opens some item _ ih =>
    obtain ⟨items, fuel, rfl, read⟩ := exists_items_of_readValue h opens some
    obtain ⟨outer, after, present, there⟩ := item.read read
    obtain ⟨depth', inner, after, leads, read⟩ := ih there
    exact ⟨depth', inner, after, by rw [at?, present, Option.bind_some, leads], read⟩

/-! ## Integers -/

theorem skipBlanks_skipBlanks (cs : List Char) : skipBlanks (skipBlanks cs) = skipBlanks cs := by
  fun_induction skipBlanks cs with
  | case1 => rfl
  | case2 c rest blank ih => exact ih
  | case3 c rest blank => rw [skipBlanks, if_neg blank]

theorem readValue_skipBlanks (depth : Nat) (cs : List Char) :
    readValue depth (skipBlanks cs) = readValue depth cs := by
  rw [readValue, readValue, skipBlanks_skipBlanks]

/-- What is read where an integer stands is a number that the integer makes. -/
theorem IntegerLiteral.read (literal : IntegerLiteral) {depth : Nat}
    {found following rest : List Char} {value : Json}
    (written : skipBlanks found = literal.chars ++ following) (ends : Stops following)
    (h : readValue depth found = some (value, rest)) :
    ∃ n, literal.numeral.value? = some n ∧ value = .number n := by
  have numeral : readNumeral (literal.chars ++ following) = some (literal.numeral, following) :=
    readNumeral_append literal.isWhole ends literal.negative
  obtain ⟨c, tail, begins, isNumber⟩ := literal.exists_first
  rw [← readValue_skipBlanks, written] at h
  rw [begins, List.cons_append] at h numeral
  rw [readValue_number isNumber, readNumber, numeral] at h
  obtain ⟨n, made, he⟩ := Option.map_eq_some_iff.mp h
  exact ⟨n, made, (Prod.mk.inj he).1.symm⟩

end Traversal.Json
