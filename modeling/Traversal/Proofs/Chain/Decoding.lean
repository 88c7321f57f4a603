import Mathlib.Data.List.Basic
import Std.Data.String.ToInt
import Traversal.Proofs.Chain.Outline
import Traversal.Proofs.Text.Escaping

/-! # Texts are uniquely decodable

Where no text argument holds a backslash and no argument is a floating-point number, two queries are
written alike exactly if they have the same outline. Each part of the text shows by its first
character what it is and, before what may follow it, where it ends. -/

namespace Traversal

/-- A text without backslashes, or null or an integer. A floating-point number is written like a
text, so it is none of these. -/
def Atom.Plain : Atom → Prop
  | null => True
  | text s => '\\' ∉ s.toList
  | int _ => True
  | float _ => False

instance : DecidablePred Atom.Plain
  | .null | .int _ => inferInstanceAs (Decidable True)
  | .text s => inferInstanceAs (Decidable ('\\' ∉ s.toList))
  | .float _ => inferInstanceAs (Decidable False)

/-! ## Parts that end where another character comes -/

section Spans

variable {α : Type} {p : α → Bool} {word word' rest rest' : List α}

theorem takeWhile_append_eq (inside : ∀ a ∈ word, p a = true)
    (boundary : ∀ a ∈ rest.head?, p a = false) : (word ++ rest).takeWhile p = word := by
  rw [List.takeWhile_append_of_pos inside]
  cases rest with
  | nil => simp
  | cons a rest => simp [boundary a rfl]

/-- Two words of the same kind of letters are the same if they are followed by something else. -/
theorem word_append_inj (inside : ∀ a ∈ word, p a = true) (inside' : ∀ a ∈ word', p a = true)
    (boundary : ∀ a ∈ rest.head?, p a = false) (boundary' : ∀ a ∈ rest'.head?, p a = false)
    (h : word ++ rest = word' ++ rest') : word = word' ∧ rest = rest' := by
  have hword : word = word' := by
    rw [← takeWhile_append_eq inside boundary, h, takeWhile_append_eq inside' boundary']
  subst hword
  exact ⟨rfl, List.append_cancel_left h⟩

end Spans

/-! ## Integers and names -/

/-- The characters of an integer. -/
def isIntChar (c : Char) : Bool := c.isDigit || c == '-'

theorem isIntChar_of_mem_repr {n : Nat} {c : Char} (h : c ∈ n.repr.toList) :
    isIntChar c = true := by
  rw [Nat.repr_eq_ofList_toDigits, String.toList_ofList] at h
  simp [isIntChar, Nat.isDigit_of_mem_toDigits (by decide) (by decide) h]

theorem isIntChar_of_mem_toString {n : Int} {c : Char} (h : c ∈ (toString n).toList) :
    isIntChar c = true := by
  rw [Int.toString_eq_repr, Int.repr_eq_if] at h
  split at h
  · exact isIntChar_of_mem_repr h
  · rw [String.toList_append, List.mem_append] at h
    rcases h with h | h
    · obtain rfl : c = '-' := by simpa using h
      rfl
    · exact isIntChar_of_mem_repr h

theorem toList_toString_ne_nil (n : Int) : (toString n).toList ≠ [] := by
  rw [Int.toString_eq_repr, Int.repr_eq_if]
  split <;> simp

theorem StepKind.name_injective {kind kind' : StepKind} (h : kind.name = kind'.name) :
    kind = kind' := by
  have all : ∀ a ∈ every, ∀ b ∈ every, a.name = b.name → a = b := by decide +kernel
  exact all kind (mem_every kind) kind' (mem_every kind') h

theorem StepKind.open_not_mem_name (kind : StepKind) : '(' ∉ kind.name.toList := by
  cases kind <;> decide +kernel

/-! ## The first character -/

/-- What may follow an argument. -/
def Delimited (rest : List Char) : Prop :=
  ∀ c ∈ rest.head?, c = ',' ∨ c = ']' ∨ c = ')'

theorem delimited_nil : Delimited [] := by simp [Delimited]

theorem delimited_cons {c : Char} (h : c = ',' ∨ c = ']' ∨ c = ')') (rest : List Char) :
    Delimited (c :: rest) := by
  simpa [Delimited] using h

theorem delimited_more (items : List Outline) {close : Char} (hc : close = ']' ∨ close = ')')
    (rest : List Char) : Delimited (writtenMore items ++ close :: rest) := by
  cases items with
  | nil => exact delimited_cons (Or.inr hc) rest
  | cons item items => exact delimited_cons (Or.inl rfl) _

/-- What begins with this character. -/
def kindOfFirst (c : Char) : ParamKind :=
  if c = '"' then .string
  else if c = '[' then .sequence
  else if c = 'g' then .query
  else if isIntChar c then .integer
  else .null

def leadingKind (text : List Char) : ParamKind :=
  (text.head?.map kindOfFirst).getD .null

def Atom.kind : Atom → ParamKind
  | null => .null
  | text _ => .string
  | int _ => .integer
  | float _ => .float

def Outline.kind : Outline → ParamKind
  | atom a => a.kind
  | list .. => .sequence
  | query _ => .query

theorem kindOfFirst_of_isIntChar {c : Char} (h : isIntChar c = true) :
    kindOfFirst c = .integer := by
  have hne : ∀ d : Char, isIntChar d = false → c ≠ d := by
    rintro d hd rfl
    simp [h] at hd
  simp [kindOfFirst, hne '"' rfl, hne '[' rfl, hne 'g' rfl, h]

theorem Atom.leadingKind_written {a : Atom} (ha : a.Plain) {rest : List Char}
    (hrest : Delimited rest) : leadingKind (a.written ++ rest) = a.kind := by
  cases a with
  | null =>
    cases rest with
    | nil => rfl
    | cons c rest => rcases hrest c rfl with rfl | rfl | rfl <;> rfl
  | text s => simp [written, Text.toList_quoted, leadingKind, kindOfFirst, kind]
  | int n =>
    obtain ⟨c, tail, he⟩ := List.exists_cons_of_ne_nil (toList_toString_ne_nil n.toInt)
    have hc : isIntChar c = true := isIntChar_of_mem_toString (he ▸ List.mem_cons_self)
    rw [written, he]
    simp [leadingKind, kindOfFirst_of_isIntChar hc, kind]
  | float x => cases ha

theorem Outline.leadingKind_written {o : Outline} (ho : ∀ a ∈ o.atoms, a.Plain) {rest : List Char}
    (hrest : Delimited rest) : leadingKind (o.written ++ rest) = o.kind := by
  cases o with
  | atom a => exact Atom.leadingKind_written (ho a (List.mem_singleton.mpr rfl)) hrest
  | list first more => simp [written, leadingKind, kindOfFirst, kind]
  | query steps => simp [written, graphToken, leadingKind, kindOfFirst, kind]

/-- Arguments that are written alike before what may follow them are of the same kind. -/
theorem Outline.kind_eq_of_written {o o' : Outline} (ho : ∀ a ∈ o.atoms, a.Plain)
    (ho' : ∀ a ∈ o'.atoms, a.Plain) {rest rest' : List Char} (hrest : Delimited rest)
    (hrest' : Delimited rest') (h : o.written ++ rest = o'.written ++ rest') : o.kind = o'.kind := by
  rw [← leadingKind_written ho hrest, h, leadingKind_written ho' hrest']

/-! ## Decoding

An argument is compared with any other before any two rests, as what follows it is known only once
it has been told apart itself. Lists and chains decode if all their arguments do. -/

/-- The argument and what follows it can be told from the text. -/
def Outline.Decodes (o : Outline) : Prop :=
  ∀ {o' : Outline} {rest rest' : List Char}, (∀ a ∈ o'.atoms, a.Plain) → Delimited rest →
    Delimited rest' → o.written ++ rest = o'.written ++ rest' → o = o' ∧ rest = rest'

/-- Both literals are read as far as the quote that closes them. -/
theorem quoted_append_inj {s t : String} (hs : '\\' ∉ s.toList) (ht : '\\' ∉ t.toList)
    {rest rest' : List Char}
    (h : (Text.quoted s).toList ++ rest = (Text.quoted t).toList ++ rest') :
    s = t ∧ rest = rest' := by
  have read : some (Text.escapeQuotes s.toList, rest) = some (Text.escapeQuotes t.toList, rest') := by
    rw [← Text.closeLiteral_escapeQuotes (Text.wellEscaped_of_no_backslash hs),
      ← Text.closeLiteral_escapeQuotes (Text.wellEscaped_of_no_backslash ht)]
    congr 1
    simpa [Text.toList_quoted] using h
  obtain ⟨hesc, hrest⟩ := Prod.mk.inj (Option.some.inj read)
  have hlist : s.toList = t.toList := by
    rw [← Text.unescapeQuotes_of_no_backslash hs, Text.escapeQuotes_eq_iff.mp hesc,
      Text.unescapeQuotes_of_no_backslash ht]
  exact ⟨String.toList_injective hlist, hrest⟩

theorem Delimited.not_isIntChar {rest : List Char} (h : Delimited rest) :
    ∀ c ∈ rest.head?, isIntChar c = false := by
  intro c hc
  rcases h c hc with rfl | rfl | rfl <;> rfl

theorem int_append_inj {n m : Int64} {rest rest' : List Char} (hrest : Delimited rest)
    (hrest' : Delimited rest')
    (h : (toString n.toInt).toList ++ rest = (toString m.toInt).toList ++ rest') :
    n = m ∧ rest = rest' := by
  obtain ⟨hword, hrest⟩ := word_append_inj (fun _ hc => isIntChar_of_mem_toString hc)
    (fun _ hc => isIntChar_of_mem_toString hc) hrest.not_isIntChar hrest'.not_isIntChar h
  have hnum : n.toInt = m.toInt := Int.repr_injective (String.toList_injective hword)
  exact ⟨Int64.toInt_inj.mp hnum, hrest⟩

theorem Outline.atom_decodes {a : Atom} (ha : a.Plain) : (atom a).Decodes := by
  intro o' rest rest' ho' hrest hrest' h
  have hk : a.kind = o'.kind :=
    kind_eq_of_written (o := atom a) (by simpa [atoms] using ha) ho' hrest hrest' h
  cases o' with
  | atom b =>
    have hb : b.Plain := ho' b (List.mem_singleton.mpr rfl)
    rw [kind] at hk
    cases a with
    | null =>
      cases b with
      | null => exact ⟨rfl, h⟩
      | text | int | float => cases hk
    | text s =>
      cases b with
      | text t =>
        obtain ⟨rfl, hrest⟩ := quoted_append_inj ha hb h
        exact ⟨rfl, hrest⟩
      | null | int | float => cases hk
    | int n =>
      cases b with
      | int m =>
        obtain ⟨rfl, hrest⟩ := int_append_inj hrest hrest' h
        exact ⟨rfl, hrest⟩
      | null | text | float => cases hk
    | float => cases ha
  | list | query => cases a <;> cases hk

/-- The items of a list up to the character that closes it. -/
theorem more_append_inj {items items' : List Outline} (dec : ∀ o ∈ items, o.Decodes)
    (hp : ∀ a ∈ atomsOfAll items', a.Plain) {close : Char} (hc : close = ']' ∨ close = ')')
    {rest rest' : List Char}
    (h : writtenMore items ++ close :: rest = writtenMore items' ++ close :: rest') :
    items = items' ∧ rest = rest' := by
  have hne : close ≠ ',' := by rcases hc with rfl | rfl <;> decide
  induction items generalizing items' with
  | nil =>
    cases items' with
    | nil => exact ⟨rfl, (List.cons.inj h).2⟩
    | cons item' items' => exact absurd (List.cons.inj h).1 hne
  | cons item items ih =>
    cases items' with
    | nil => exact absurd (List.cons.inj h).1.symm hne
    | cons item' items' =>
      rw [List.forall_mem_cons] at dec
      rw [atomsOfAll, List.forall_mem_append] at hp
      simp only [writtenMore, List.cons_append, List.append_assoc, List.cons.injEq,
        true_and] at h
      obtain ⟨rfl, hmore⟩ :=
        dec.1 hp.1 (delimited_more items hc rest) (delimited_more items' hc rest') h
      obtain ⟨rfl, hrest⟩ := ih dec.2 hp.2 hmore
      exact ⟨rfl, hrest⟩

theorem items_append_inj {first first' : Outline} {more more' : List Outline}
    (dec : ∀ o ∈ first :: more, o.Decodes) (hp : ∀ a ∈ first'.atoms ++ atomsOfAll more', a.Plain)
    {close : Char} (hc : close = ']' ∨ close = ')') {rest rest' : List Char}
    (h : first.written ++ (writtenMore more ++ close :: rest) =
      first'.written ++ (writtenMore more' ++ close :: rest')) :
    first = first' ∧ more = more' ∧ rest = rest' := by
  rw [List.forall_mem_cons] at dec
  rw [List.forall_mem_append] at hp
  obtain ⟨hfirst, hmore⟩ :=
    dec.1 hp.1 (delimited_more more hc rest) (delimited_more more' hc rest') h
  exact ⟨hfirst, more_append_inj dec.2 hp.2 hc hmore⟩

theorem Outline.list_decodes {first : Outline} {more : List Outline}
    (hp : ∀ a ∈ (list first more).atoms, a.Plain) (dec : ∀ o ∈ first :: more, o.Decodes) :
    (list first more).Decodes := by
  intro o' rest rest' ho' hrest hrest' h
  have hk : kind (.list first more) = o'.kind := kind_eq_of_written hp ho' hrest hrest' h
  cases o' with
  | list first' more' =>
    rw [atoms] at ho'
    simp only [written, List.cons_append, List.append_assoc, List.nil_append, List.cons.injEq,
      true_and] at h
    obtain ⟨rfl, rfl, hrest⟩ := items_append_inj dec ho' (Or.inl rfl) h
    exact ⟨rfl, hrest⟩
  | atom b => cases b <;> cases hk
  | query => cases hk

def StepOutline.args : StepOutline → List Outline
  | mk _ first more => first :: more

/-- The steps of a chain up to what may follow it, which is no point. -/
theorem steps_append_inj {steps steps' : List StepOutline}
    (dec : ∀ step ∈ steps, ∀ o ∈ step.args, o.Decodes) (hp : ∀ a ∈ atomsOfSteps steps', a.Plain)
    {rest rest' : List Char} (hrest : Delimited rest) (hrest' : Delimited rest')
    (h : writtenSteps steps ++ rest = writtenSteps steps' ++ rest') :
    steps = steps' ∧ rest = rest' := by
  have point : ∀ {text tail : List Char}, Delimited text → text ≠ '.' :: tail := by
    rintro _ tail ht rfl
    exact absurd (ht '.' rfl) (by decide)
  induction steps generalizing steps' with
  | nil =>
    cases steps' with
    | nil => exact ⟨rfl, h⟩
    | cons step' steps' =>
      obtain ⟨kind', first', more'⟩ := step'
      exact absurd h (point hrest)
  | cons step steps ih =>
    obtain ⟨kind, first, more⟩ := step
    cases steps' with
    | nil => exact absurd h.symm (point hrest')
    | cons step' steps' =>
      obtain ⟨kind', first', more'⟩ := step'
      rw [List.forall_mem_cons] at dec
      rw [atomsOfSteps, StepOutline.atoms, List.forall_mem_append] at hp
      simp only [writtenSteps, StepOutline.written, List.cons_append, List.append_assoc,
        List.nil_append, List.cons.injEq, true_and] at h
      obtain ⟨hname, hargs⟩ := word_append_inj (p := (· != '('))
        (fun c hc => bne_iff_ne.mpr fun he => kind.open_not_mem_name (he ▸ hc))
        (fun c hc => bne_iff_ne.mpr fun he => kind'.open_not_mem_name (he ▸ hc))
        (by simp) (by simp) h
      obtain rfl := StepKind.name_injective (String.toList_injective hname)
      obtain ⟨rfl, rfl, hmore⟩ :=
        items_append_inj dec.1 hp.1 (Or.inr rfl) (List.cons.inj hargs).2
      obtain ⟨rfl, hrest⟩ := ih dec.2 hp.2 hmore
      exact ⟨rfl, hrest⟩

theorem Outline.query_decodes {steps : List StepOutline}
    (hp : ∀ a ∈ (query steps).atoms, a.Plain)
    (dec : ∀ step ∈ steps, ∀ o ∈ step.args, o.Decodes) : (query steps).Decodes := by
  intro o' rest rest' ho' hrest hrest' h
  have hk : kind (.query steps) = o'.kind := kind_eq_of_written hp ho' hrest hrest' h
  cases o' with
  | query steps' =>
    rw [atoms] at ho'
    simp only [written, List.append_assoc] at h
    obtain ⟨rfl, hrest⟩ := steps_append_inj dec ho' hrest hrest' (List.append_cancel_left h)
    exact ⟨rfl, hrest⟩
  | atom b => cases b <;> cases hk
  | list => cases hk

mutual

theorem Outline.decodes : ∀ o : Outline, (∀ a ∈ o.atoms, a.Plain) → o.Decodes
  | .atom a, h => Outline.atom_decodes (h a (List.mem_singleton.mpr rfl))
  | .list first more, h => by
    have hp := List.forall_mem_append.mp h
    exact Outline.list_decodes h
      (List.forall_mem_cons.mpr ⟨first.decodes hp.1, all_decode more hp.2⟩)
  | .query steps, h => Outline.query_decodes h (steps_decode steps h)

theorem all_decode : ∀ items : List Outline, (∀ a ∈ atomsOfAll items, a.Plain) →
    ∀ o ∈ items, o.Decodes
  | [], _ => by simp
  | item :: rest, h => by
    have hp := List.forall_mem_append.mp h
    exact List.forall_mem_cons.mpr ⟨item.decodes hp.1, all_decode rest hp.2⟩

theorem StepOutline.args_decode : ∀ step : StepOutline, (∀ a ∈ step.atoms, a.Plain) →
    ∀ o ∈ step.args, o.Decodes
  | .mk _ first more, h => by
    have hp := List.forall_mem_append.mp h
    exact List.forall_mem_cons.mpr ⟨first.decodes hp.1, all_decode more hp.2⟩

theorem steps_decode : ∀ steps : List StepOutline, (∀ a ∈ atomsOfSteps steps, a.Plain) →
    ∀ step ∈ steps, ∀ o ∈ step.args, o.Decodes
  | [], _ => by simp
  | step :: rest, h => by
    have hp := List.forall_mem_append.mp h
    exact List.forall_mem_cons.mpr ⟨step.args_decode hp.1, steps_decode rest hp.2⟩

end

namespace Chain

/-- Two chains of plain arguments, at any depth, are written alike exactly if their steps are, one
by one, the same with the same arguments. -/
theorem text_eq_text_iff {q r : Chain} (hq : ∀ a ∈ q.atoms, a.Plain)
    (hr : ∀ a ∈ r.atoms, a.Plain) : q.text = r.text ↔ q.outline = r.outline := by
  rw [← String.toList_inj, toList_text, toList_text]
  constructor
  · intro h
    refine (steps_append_inj (steps_decode _ hq) hr delimited_nil delimited_nil ?_).1
    rw [List.append_nil, List.append_nil]
    exact List.append_cancel_left h
  · intro h
    rw [h]

/-- A client operator, a null alone and the endpoint leave no trace; quotes and brackets inside a
text do no harm. -/
theorem text_eq_text_iff_quoted :
    let q : Chain := .step (.client (.vertex 0 []) .distinct) .outward [.text "a\", [\"b", .null]
    let r : Chain := .step (.vertex 1 [.null]) .outward [.text "a", .list [.text "b"]]
    (∀ a ∈ q.atoms, a.Plain) ∧ (∀ a ∈ r.atoms, a.Plain) ∧
      (q.text = r.text ↔ q.outline = r.outline) := by
  intro q r
  have hq : ∀ a ∈ q.atoms, a.Plain := by decide +kernel
  have hr : ∀ a ∈ r.atoms, a.Plain := by decide +kernel
  exact ⟨hq, hr, text_eq_text_iff hq hr⟩

end Chain

end Traversal
