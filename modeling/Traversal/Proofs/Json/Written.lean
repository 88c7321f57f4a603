import Traversal.Json.Writer
import Traversal.Proofs.Json.Reader
import Traversal.Proofs.Text.Separated

/-! # What is written is read back

Any string is read back from its written form, whatever characters it has, and so are objects and
arrays of what is read back. An object that is read has its members in the order of their names, and
of members with one name the last counts. -/

namespace Traversal.Json

/-! ## Strings -/

theorem readPieces_unit {a b c d : Char} {code : Nat} (h : Text.hexNumber? [a, b, c, d] = some code)
    (rest : List Char) :
    readPieces ('\\' :: 'u' :: a :: b :: c :: d :: rest) = addPiece (.unit code) (readPieces rest) := by
  rw [readPieces, h]

theorem joinPieces_unit {code : Nat} (h : code < 0xD800) (pieces : List Piece) :
    joinPieces (.unit code :: pieces) = (joinPieces pieces).map (Char.ofNat code :: ·) := by
  have high : isHighUnit code = false := by
    rw [isHighUnit, Bool.and_eq_false_iff]
    exact .inl (by simpa using h)
  have low : isLowUnit code = false := by
    rw [isLowUnit, Bool.and_eq_false_iff]
    exact .inl (by simp only [decide_eq_false_iff_not]; omega)
  cases pieces with
  | nil => simp [joinPieces, high, low]
  | cons piece rest => cases piece <;> simp [joinPieces, high, low]

theorem hexNumber?_control {n : Nat} (h : n < 0x20) :
    Text.hexNumber? ['0', '0', Nat.digitChar (n / 16), Nat.digitChar (n % 16)] = some n := by
  have all : ∀ m < 0x20,
      Text.hexNumber? ['0', '0', Nat.digitChar (m / 16), Nat.digitChar (m % 16)] = some m := by decide
  exact all n h

/-- A character is written as a short escape, as a unit, or as it is. -/
theorem writeChar_cases (c : Char) :
    (∃ e, writeChar c = ['\\', e] ∧ simpleEscape? e = some c) ∨
      (c.toNat < 0x20 ∧ writeChar c =
        ['\\', 'u', '0', '0', Nat.digitChar (c.toNat / 16), Nat.digitChar (c.toNat % 16)]) ∨
      (c ≠ '"' ∧ c ≠ '\\' ∧ 0x20 ≤ c.toNat ∧ writeChar c = [c]) := by
  unfold writeChar
  split_ifs with quote slash backspace feed line carriage tab control
  iterate 7
    · subst c
      exact .inl ⟨_, rfl, rfl⟩
  · exact .inr (.inl ⟨control, rfl⟩)
  · exact .inr (.inr ⟨quote, slash, Nat.le_of_not_lt control, rfl⟩)

/-- What is written for a character is read as one piece, which makes the character. -/
theorem exists_piece (c : Char) : ∃ piece,
    (∀ rest, readPieces (writeChar c ++ rest) = addPiece piece (readPieces rest)) ∧
      ∀ pieces, joinPieces (piece :: pieces) = (joinPieces pieces).map (c :: ·) := by
  rcases writeChar_cases c with ⟨e, written, escape⟩ | ⟨control, written⟩ | ⟨quote, slash, shown, written⟩
  · refine ⟨.char c, fun rest => ?_, fun _ => rfl⟩
    rw [written]
    exact readPieces_escape escape rest
  · refine ⟨.unit c.toNat, fun rest => ?_, fun pieces => ?_⟩
    · rw [written]
      exact readPieces_unit (hexNumber?_control control) rest
    · rw [joinPieces_unit (Nat.lt_trans control (by decide)), Char.ofNat_toNat]
  · refine ⟨.char c, fun rest => ?_, fun _ => rfl⟩
    rw [written]
    exact readPieces_char quote slash shown rest

theorem exists_pieces (cs rest : List Char) : ∃ pieces,
    readPieces (cs.flatMap writeChar ++ '"' :: rest) = some (pieces, rest) ∧
      joinPieces pieces = some cs := by
  induction cs with
  | nil => exact ⟨[], rfl, rfl⟩
  | cons c cs ih =>
    obtain ⟨pieces, read, join⟩ := ih
    obtain ⟨piece, readPiece, joinPiece⟩ := exists_piece c
    refine ⟨piece :: pieces, ?_, ?_⟩
    · rw [List.flatMap_cons, List.append_assoc, readPiece, read]
      rfl
    · rw [joinPiece, join, Option.map_some]

theorem readString_written (s : String) (rest : List Char) :
    readString (s.toList.flatMap writeChar ++ '"' :: rest) = some (s, rest) := by
  obtain ⟨pieces, read, join⟩ := exists_pieces s.toList rest
  simp [readString, read, join]

theorem readsAs_string (s : String) (depth : Nat) :
    ReadsAs (readValue depth) (writeString s).toList (.string s) := by
  have text : (writeString s).toList = '"' :: (s.toList.flatMap writeChar ++ ['"']) := by
    simp [writeString]
  rw [text]
  exact readValue_string (readString_written s) depth

/-! ## Lists with commas -/

/-- Texts that are read as values make an array of the values. -/
theorem readsAs_array_intercalate {depth : Nat} {texts : List String} {values : List Json}
    (h : List.Forall₂ (fun text value => ReadsAs (readValue depth) text.toList value) texts values) :
    ReadsAs (readValue (depth + 1)) ("[" ++ ",".intercalate texts ++ "]").toList (.array values) := by
  cases h with
  | nil => exact readsAs_array_nil depth
  | @cons text value rest values first others =>
    have blank : ∀ cs, readValue depth ([] ++ cs) = readValue depth cs := fun _ => rfl
    rw [String.toList_append, String.toList_append, Text.toList_intercalate_cons]
    simpa [continued, List.flatMap_map] using readsAs_array blank first (List.forall₂_map_left_iff.mpr others)

/-! ## Objects -/

/-- The text of a member with the text of its value. -/
def memberText (name text : String) : String := writeString name ++ ":" ++ text

theorem readsAs_member {depth : Nat} {text : String} {value : Json}
    (h : ReadsAs (readValue depth) text.toList value) (name : String) :
    ReadsAs (readMember (readValue depth)) (memberText name text).toList (name, value) := by
  intro rest stops
  have split : (memberText name text).toList ++ rest =
      '"' :: (name.toList.flatMap writeChar ++ '"' :: ':' :: (text.toList ++ rest)) := by
    simp [memberText, writeString]
  rw [split, readMember]
  simp [skipBlanks, readString_written, h rest stops]

theorem exists_first_of_readMember {α : Type} {value : List Char → Option (α × List Char)}
    {cs : List Char} {read : (String × α) × List Char} (h : readMember value cs = some read) :
    ∃ c rest, skipBlanks cs = c :: rest ∧ c ≠ '\x7d' := by
  unfold readMember at h
  split at h
  next rest begins => exact ⟨'"', rest, begins, by decide⟩
  next => cases h

/-- Texts that are read as members make the object of the members. -/
theorem readsAs_object_intercalate {depth : Nat} {texts : List String}
    {members : List (String × Json)}
    (h : List.Forall₂ (fun text member => ReadsAs (readMember (readValue depth)) text.toList member)
      texts members) :
    ReadsAs (readValue (depth + 1)) ("\x7b" ++ ",".intercalate texts ++ "\x7d").toList
      (ofMembers members) := by
  intro rest _
  cases h with
  | nil =>
    rw [readValue]
    rfl
  | @cons text member others members first tail =>
    have blank : ∀ cs, readMember (readValue depth) ([] ++ cs) = readMember (readValue depth) cs :=
      fun _ => rfl
    have items := readBracketed_append blank (.inr rfl) exists_first_of_readMember first
      (List.forall₂_map_left_iff.mpr tail) rest
    simp only [continued, List.flatMap_map, List.nil_append] at items
    rw [String.toList_append, String.toList_append, Text.toList_intercalate_cons, readValue]
    simp [skipBlanks, items]

theorem writeMembers_eq_intercalate : ∀ members : List (String × Json), writeMembers members =
    ",".intercalate (members.map fun member => memberText member.1 member.2.write)
  | [] => by rw [writeMembers, List.map_nil, String.intercalate_nil]
  | [(name, value)] => by
    rw [writeMembers, List.map_singleton, String.intercalate_singleton, memberText]
  | (name, value) :: next :: rest => by
    rw [writeMembers, writeMembers_eq_intercalate (next :: rest), List.map_cons, List.map_cons,
      List.map_cons, String.intercalate_cons_cons]
    rfl

/-- An object with values that are read as they are written is read as the object of its members. -/
theorem readsAs_write_object {depth : Nat} {members : List (String × Json)}
    (h : ∀ member ∈ members, ReadsAs (readValue depth) member.2.write.toList member.2) :
    ReadsAs (readValue (depth + 1)) (Json.object members).write.toList (ofMembers members) := by
  rw [write, writeMembers_eq_intercalate]
  refine readsAs_object_intercalate (List.forall₂_map_left_iff.mpr ?_)
  exact List.forall₂_same.mpr fun member mem => readsAs_member (h member mem) member.1

/-! ## Members by name -/

theorem lookup_cons_eq_ite {α : Type} (name wanted : String) (value : α) (rest : List (String × α)) :
    ((name, value) :: rest).lookup wanted =
      if wanted = name then some value else rest.lookup wanted := by
  rw [List.lookup_cons]
  by_cases h : wanted = name
  · simp [h]
  · simp [h, beq_false_of_ne h]

theorem lookup_insertMember (name : String) (value : Json) (members : List (String × Json))
    (wanted : String) : (insertMember name value members).lookup wanted =
      if wanted = name then some value else members.lookup wanted := by
  fun_induction insertMember name value members with
  | case1 => rw [lookup_cons_eq_ite]
  | case2 old rest =>
    rw [lookup_cons_eq_ite, lookup_cons_eq_ite]
    by_cases h : wanted = name <;> simp [h]
  | case3 other old rest => rw [lookup_cons_eq_ite]
  | case4 other old rest differs _ ih =>
    rw [lookup_cons_eq_ite, lookup_cons_eq_ite, ih]
    by_cases h : wanted = name
    · rw [if_pos h, if_pos h, if_neg (h ▸ differs)]
    · rw [if_neg h, if_neg h]

theorem lookup_foldl_insertMember (members object : List (String × Json)) (name : String) :
    (members.foldl (fun object member => insertMember member.1 member.2 object) object).lookup name =
      (members.reverse.lookup name).or (object.lookup name) := by
  induction members generalizing object with
  | nil => rfl
  | cons member rest ih =>
    rw [List.foldl_cons, ih, lookup_insertMember, List.reverse_cons, List.lookup_append,
      Option.or_assoc, lookup_cons_eq_ite]
    by_cases h : name = member.1 <;> simp [h]

/-- Of members with one name the last counts. -/
theorem member?_ofMembers (members : List (String × Json)) (name : String) :
    (ofMembers members).member? name = members.reverse.lookup name := by
  rw [ofMembers, member?, lookup_foldl_insertMember]
  simp

end Traversal.Json
