import Mathlib.Data.List.Forall2
import Traversal.Json.Reader
import Traversal.Proofs.Json.Integer

/-! # What the reader of JSON accepts

A text is read as a value if the reader takes it for that value whatever follows it, as long as that
cannot be taken for more of it. Strings, integers of 64 bits, and arrays of what is read so are read
so. -/

namespace Traversal.Json

/-- A numeral does not go on here. -/
def Stops (rest : List Char) : Prop :=
  ∀ c ∈ rest.head?, c.isDigit = false ∧ c ≠ '.' ∧ c ≠ 'e' ∧ c ≠ 'E'

/-- The text is read as the value, and what follows it is left. -/
def ReadsAs {α : Type} (read : List Char → Option (α × List Char)) (text : List Char) (value : α) :
    Prop :=
  ∀ rest, Stops rest → read (text ++ rest) = some (value, rest)

theorem stops_nil : Stops [] := by simp [Stops]

theorem stops_cons {c : Char} (h : c = ',' ∨ c = ']' ∨ c = '}') (rest : List Char) :
    Stops (c :: rest) := by
  rcases h with rfl | rfl | rfl <;> simp [Stops]

/-! ## Numerals -/

theorem spanDigits_append {digits rest : List Char} (hd : ∀ d ∈ digits, d.isDigit = true)
    (hrest : Stops rest) : spanDigits (digits ++ rest) = (digits, rest) := by
  rw [spanDigits, List.takeWhile_append_of_pos hd, List.dropWhile_append_of_pos hd]
  cases rest with
  | nil => simp
  | cons c rest => simp [(hrest c rfl).1]

theorem readWhole_append {digits rest : List Char} (h : IsWhole digits) (hrest : Stops rest) :
    readWhole (digits ++ rest) = some (digits, rest) := by
  have span := spanDigits_append h.isDigit hrest
  by_cases zero : digits.head? = some '0'
  · rw [h.first zero]
    cases rest with
    | nil => rfl
    | cons c rest => simp [readWhole, (hrest c rfl).1]
  · rw [readWhole.eq_def]
    split
    next tail he =>
      obtain ⟨d, ds, rfl⟩ := List.exists_cons_of_ne_nil h.ne_nil
      obtain rfl : d = '0' := (List.cons.inj he).1
      exact absurd rfl zero
    next => rw [span, if_neg h.ne_nil]

theorem readFraction_of_stops {rest : List Char} (h : Stops rest) :
    readFraction rest = some (none, rest) := by
  rw [readFraction.eq_2]
  rintro tail rfl
  exact (h '.' rfl).2.1 rfl

theorem readExponent_of_stops {rest : List Char} (h : Stops rest) :
    readExponent rest = some (none, rest) := by
  cases rest with
  | nil => rfl
  | cons c rest =>
    obtain ⟨-, -, he, hE⟩ := h c rfl
    simp [readExponent, he, hE]

/-- A whole number is read as it is written. -/
theorem readNumeral_append {digits rest : List Char} (h : IsWhole digits) (hrest : Stops rest)
    (negative : Bool) :
    readNumeral ((if negative then ['-'] else []) ++ digits ++ rest) =
      some (⟨negative, digits, none, none⟩, rest) := by
  have minus : digits.head? ≠ some '-' := by
    intro he
    have digit := h.isDigit '-' (List.mem_of_head? he)
    cases digit
  cases negative with
  | true =>
    simp [readNumeral, readWhole_append h hrest, readFraction_of_stops hrest,
      readExponent_of_stops hrest]
  | false =>
    simp [readNumeral, readWhole_append h hrest, readFraction_of_stops hrest,
      readExponent_of_stops hrest, List.head?_append, minus, h.ne_nil]

/-! ## Strings -/

theorem readPieces_char {c : Char} (hq : c ≠ '"') (hb : c ≠ '\\') (hc : 0x20 ≤ c.toNat)
    (rest : List Char) : readPieces (c :: rest) = addPiece (.char c) (readPieces rest) := by
  rw [readPieces.eq_5 c rest hq (fun _ _ _ _ _ h _ => hb h) fun _ _ h _ => hb h,
    if_neg (not_or.mpr ⟨Nat.not_lt.mpr hc, hb⟩)]

theorem readPieces_escape {e c : Char} (he : simpleEscape? e = some c) (rest : List Char) :
    readPieces ('\\' :: e :: rest) = addPiece (.char c) (readPieces rest) := by
  rw [readPieces.eq_4, he]
  rintro _ _ _ _ _ rfl _
  cases he

theorem joinPieces_chars (s : List Char) : joinPieces (s.map .char) = some s := by
  induction s with
  | nil => rfl
  | cons c rest ih => rw [List.map_cons, joinPieces, ih, Option.map_some]

/-! ## Values -/

theorem readValue_blank (depth : Nat) (cs : List Char) :
    readValue depth (' ' :: cs) = readValue depth cs := by
  rw [readValue, readValue]
  rfl

/-- A value begins with something, which is no closing bracket. -/
theorem exists_first_of_readValue {depth : Nat} {cs : List Char} {read : Json × List Char}
    (h : readValue depth cs = some read) : ∃ c rest, skipBlanks cs = c :: rest ∧ c ≠ ']' := by
  rw [readValue] at h
  cases hs : skipBlanks cs with
  | nil => simp [hs] at h
  | cons c rest =>
    refine ⟨c, rest, rfl, ?_⟩
    rintro rfl
    simp [hs, readNumber, readNumeral, readWhole, spanDigits] at h

theorem readValue_string {s : String} {text : List Char}
    (h : ∀ rest, readString (text ++ '"' :: rest) = some (s, rest)) (depth : Nat) :
    ReadsAs (readValue depth) ('"' :: (text ++ ['"'])) (.string s) := by
  intro rest _
  rw [readValue]
  simp [skipBlanks, h]

theorem readValue_number {c : Char} (h : c.isDigit = true ∨ c = '-') (depth : Nat)
    (rest : List Char) : readValue depth (c :: rest) = readNumber (c :: rest) := by
  have ne : ∀ d : Char, d.isDigit = false → d ≠ '-' → c ≠ d := by
    rintro d digit minus rfl
    rcases h with h | h
    · rw [digit] at h
      cases h
    · exact minus h
  rw [readValue]
  simp [skipBlanks, ne ' ' rfl, ne '\t' rfl, ne '\n' rfl, ne '\r' rfl, ne '"' rfl, ne '[' rfl,
    ne '\x7b' rfl, ne 'n' rfl, ne 't' rfl, ne 'f' rfl]

theorem exists_first_of_int (n : Int) :
    ∃ c tail, (toString n).toList = c :: tail ∧ (c.isDigit = true ∨ c = '-') := by
  rw [toList_toString_int]
  exact (IntegerLiteral.ofInt n).exists_first

/-- An integer of 64 bits, with a sign or without, is read as it is written. -/
theorem readsAs_int {n : Int} (least : -(Nat.pow 2 63 : Nat) ≤ n) (most : n < UInt64.size)
    (depth : Nat) : ReadsAs (readValue depth) (toString n).toList (.number (.int n)) := by
  intro rest hrest
  have numeral : readNumeral ((toString n).toList ++ rest) = some (.ofInt n, rest) := by
    rw [toList_toString_int, readNumeral_append (isWhole_toDigits n.natAbs) hrest, Numeral.ofInt]
  obtain ⟨c, tail, he, hc⟩ := exists_first_of_int n
  rw [he, List.cons_append] at numeral ⊢
  rw [readValue_number hc, readNumber, numeral]
  simp [Numeral.value?_ofInt least most]

/-! ## Lists in brackets -/

section Items

variable {α : Type} {close : Char} {item : List Char → Option (α × List Char)} {sep : List Char}

theorem readItems_blank (blank : ∀ cs, item (sep ++ cs) = item cs) (fuel : Nat) (cs : List Char) :
    readItems close item fuel (sep ++ cs) = readItems close item fuel cs := by
  cases fuel with
  | zero => rfl
  | succ fuel => rw [readItems, readItems, blank]

theorem readItems_comma {cs after : List Char} {value : α} (h : item cs = some (value, ',' :: after))
    (fuel : Nat) : readItems close item (fuel + 1) cs =
      (readItems close item fuel after).map fun (values, rest) => (value :: values, rest) := by
  rw [readItems, h]
  rfl

theorem readItems_close (hclose : close = ']' ∨ close = '}') {cs rest : List Char} {value : α}
    (h : item cs = some (value, close :: rest)) (fuel : Nat) :
    readItems close item (fuel + 1) cs = some ([value], rest) := by
  rw [readItems, h]
  rcases hclose with rfl | rfl <;> rfl

/-- The texts with a comma before each of them, and with what may stand after a comma. -/
def continued (sep : List Char) (texts : List (List Char)) : List Char :=
  texts.flatMap fun text => ',' :: (sep ++ text)

theorem length_le_length_continued (sep : List Char) (texts : List (List Char)) :
    texts.length ≤ (continued sep texts).length := by
  induction texts with
  | nil => exact Nat.zero_le _
  | cons text rest ih =>
    simp only [continued, List.flatMap_cons, List.length_append, List.length_cons] at ih ⊢
    omega

/-- Items with commas between them are read up to the closing bracket. -/
theorem readItems_append (blank : ∀ cs, item (sep ++ cs) = item cs)
    (hclose : close = ']' ∨ close = '}') {first : List Char} {value : α} {texts : List (List Char)}
    {values : List α} (h : ReadsAs item first value) (hs : List.Forall₂ (ReadsAs item) texts values)
    {fuel : Nat} (enough : texts.length < fuel) (rest : List Char) :
    readItems close item fuel (first ++ (continued sep texts ++ close :: rest)) =
      some (value :: values, rest) := by
  -- every item takes one unit of fuel, and ends at a comma or at the closing bracket
  induction hs generalizing first value fuel with
  | nil =>
    obtain ⟨fuel, rfl⟩ := Nat.exists_eq_succ_of_ne_zero (Nat.ne_of_gt enough)
    exact readItems_close hclose (h _ (stops_cons (Or.inr hclose) rest)) fuel
  | @cons next nextValue texts values hnext _ ih =>
    obtain ⟨fuel, rfl⟩ := Nat.exists_eq_succ_of_ne_zero (Nat.ne_zero_of_lt enough)
    have others := ih hnext (Nat.lt_of_succ_lt_succ enough)
    have split : continued sep (next :: texts) ++ close :: rest =
        ',' :: (sep ++ (next ++ (continued sep texts ++ close :: rest))) := by
      simp [continued]
    rw [split, readItems_comma (h _ (stops_cons (Or.inl rfl) _)), readItems_blank blank, others,
      Option.map_some]

/-- A list in brackets is read as the list of its items. -/
theorem readBracketed_append (blank : ∀ cs, item (sep ++ cs) = item cs)
    (hclose : close = ']' ∨ close = '}')
    (opens : ∀ {cs read}, item cs = some read → ∃ c rest, skipBlanks cs = c :: rest ∧ c ≠ close)
    {first : List Char} {value : α} {texts : List (List Char)} {values : List α}
    (h : ReadsAs item first value) (hs : List.Forall₂ (ReadsAs item) texts values)
    (rest : List Char) :
    readBracketed close item (first ++ (continued sep texts ++ close :: rest)) =
      some (value :: values, rest) := by
  have enough : texts.length < (first ++ (continued sep texts ++ close :: rest)).length := by
    have := length_le_length_continued sep texts
    simp only [List.length_append, List.length_cons]
    omega
  have stops : Stops (continued sep texts ++ close :: rest) := by
    cases texts with
    | nil => exact stops_cons (Or.inr hclose) rest
    | cons next texts => exact stops_cons (Or.inl rfl) _
  obtain ⟨c, tail, begins, other⟩ := opens (h _ stops)
  rw [readBracketed, begins]
  simp only [if_neg other]
  exact readItems_append blank hclose h hs enough rest

end Items

/-- An array of texts that are read as values is read as the array of the values. -/
theorem readsAs_array {depth : Nat} {sep : List Char}
    (blank : ∀ cs, readValue depth (sep ++ cs) = readValue depth cs) {first : List Char}
    {value : Json} {texts : List (List Char)} {values : List Json}
    (h : ReadsAs (readValue depth) first value)
    (hs : List.Forall₂ (ReadsAs (readValue depth)) texts values) :
    ReadsAs (readValue (depth + 1)) ('[' :: (first ++ (continued sep texts ++ [']'])))
      (.array (value :: values)) := by
  intro rest _
  have items := readBracketed_append blank (.inl rfl) exists_first_of_readValue h hs rest
  rw [readValue]
  simp [skipBlanks, items]

theorem readsAs_array_nil (depth : Nat) :
    ReadsAs (readValue (depth + 1)) ['[', ']'] (.array []) := by
  intro rest _
  rw [readValue]
  rfl

end Traversal.Json
