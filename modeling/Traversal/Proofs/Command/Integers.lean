import Traversal.Proofs.Chain.Acceptance
import Traversal.Proofs.Command.Arguments
import Traversal.Proofs.Command.Build
import Traversal.Proofs.Command.Fold
import Traversal.Proofs.Json.Place

/-! # Integers typed on the command line

An integer in the arguments of a typed step stands in the text of the built query at the same place.
It stands there as it was meant exactly if it is one of 64 bits with a sign and not minus zero. Any
other integer that is read at all stands there as a literal of a floating-point number. -/

namespace Traversal

namespace Param

/-- Arguments that others follow. -/
def leading (args : List Param) : String := String.join (args.map fun p => p.render ++ ", ")

/-- Arguments that follow others. -/
def trailing (args : List Param) : String := String.join (args.map fun p => ", " ++ p.render)

/-- In the text of arguments with commas between them stands `shown` where the positions lead, between
`before` and `after`. -/
inductive ShownAt : List Param → List Nat → String → String → String → Prop
  | arg (front : List Param) (p : Param) (back : List Param) :
      ShownAt (front ++ p :: back) [front.length] (leading front) p.render (trailing back)
  | inside {items : List Param} {path : List Nat} {before shown after : String} (front : List Param)
      (item : ShownAt items path before shown after) (back : List Param) :
      ShownAt (front ++ .list items :: back) (front.length :: path) (leading front ++ "[" ++ before)
        shown (after ++ "]" ++ trailing back)

end Param

/-- The integer is typed in the arguments of a step, where the positions lead. -/
inductive StepArg.TypesAt (raw : String) (path : List Nat) (literal : Json.IntegerLiteral) : Prop
  | mk {name json found following : List Char} (whole : raw.toList = name ++ '=' :: json)
      (plain : '=' ∉ name) (place : Json.ValueAt Json.maxDepth json path found)
      (written : Json.skipBlanks found = literal.chars ++ following) (ends : Json.Stops following)

/-- The text of the chain that steps make; before the first step, that is the graph. -/
inductive Chain.TextOf (graph : GraphId) : List StepArg → String → Prop
  | none : TextOf graph [] graphToken
  | some {steps : List StepArg} {c : Chain} (built : build graph steps = .ok c) :
      TextOf graph steps c.text

/-- The text of a built query shows the given text in the step that comes after those in front, where
the positions lead. -/
inductive Chain.ShowsAt (graph : GraphId) (c : Chain) (front : List StepArg) (step : StepArg)
    (path : List Nat) (shown : String) : Prop
  | mk {lead before after tail : String} {args : List Param} {kind : StepKind}
      (earlier : TextOf graph front lead) (named : step.name ∈ kind.names)
      (converted : paramsOfJson step.args = .ok args)
      (place : Param.ShownAt args path before shown after)
      (text : c.text = lead ++ "." ++ kind.name ++ "(" ++ before ++ shown ++ after ++ ")" ++ tail)

/-! ## Places of arguments -/

namespace Param

theorem intercalate_renderAll (front : List Param) (p : Param) (back : List Param) :
    ", ".intercalate (renderAll (front ++ p :: back)) =
      leading front ++ p.render ++ trailing back := by
  rw [renderAll_eq_map, List.map_append, List.map_cons, Text.intercalate_append_cons, List.map_map,
    List.map_map]
  rfl

theorem ShownAt.text {args : List Param} {path : List Nat} {before shown after : String}
    (h : ShownAt args path before shown after) :
    ", ".intercalate (renderAll args) = before ++ shown ++ after := by
  induction h with
  | arg front p back => exact intercalate_renderAll front p back
  | inside front _ back ih =>
    rw [intercalate_renderAll, render, ih]
    simp only [String.append_assoc]

theorem exists_of_paramsOfJson_cons {item : Json} {rest : List Json} {params : List Param}
    (h : paramsOfJson (item :: rest) = .ok params) :
    ∃ p others, params = p :: others ∧ ofJson item = .ok p ∧ paramsOfJson rest = .ok others := by
  rw [paramsOfJson] at h
  cases hitem : ofJson item with
  | error cause => simp [hitem] at h
  | ok p =>
    cases hrest : paramsOfJson rest with
    | error cause => simp [hitem, hrest] at h
    | ok others =>
      simp only [hitem, hrest] at h
      exact ⟨p, others, (Except.ok.inj h).symm, rfl, rfl⟩

theorem exists_of_ofJson_array {items : List Json} {p : Param} (h : ofJson (.array items) = .ok p) :
    ∃ params, p = .list params ∧ paramsOfJson items = .ok params := by
  rw [ofJson] at h
  cases hitems : paramsOfJson items with
  | error cause => simp [hitems] at h
  | ok params =>
    simp only [hitems] at h
    exact ⟨params, (Except.ok.inj h).symm, rfl⟩

theorem exists_split_of_paramsOfJson {items : List Json} {params : List Param} {i : Nat} {item : Json}
    (h : paramsOfJson items = .ok params) (present : items[i]? = some item) :
    ∃ front p back, params = front ++ p :: back ∧ front.length = i ∧ ofJson item = .ok p := by
  induction items generalizing params i with
  | nil => simp at present
  | cons first rest ih =>
    obtain ⟨q, others, rfl, converted, tail⟩ := exists_of_paramsOfJson_cons h
    cases i with
    | zero =>
      obtain rfl : first = item := by simpa using present
      exact ⟨[], q, others, rfl, rfl, converted⟩
    | succ i =>
      obtain ⟨front, p, back, rfl, rfl, found⟩ := ih tail (by simpa using present)
      exact ⟨q :: front, p, back, rfl, rfl, found⟩

/-- Where a value stands in a list of values, its argument is shown in the list of arguments. -/
theorem exists_shownAt {items : List Json} {params : List Param} {i : Nat} {path : List Nat}
    {inner : Json} (h : paramsOfJson items = .ok params)
    (leads : (Json.array items).at? (i :: path) = some inner) :
    ∃ p before after, ofJson inner = .ok p ∧ ShownAt params (i :: path) before p.render after := by
  induction path generalizing items params i with
  | nil =>
    rw [Json.at?] at leads
    obtain ⟨item, present, leads⟩ := Option.bind_eq_some_iff.mp leads
    rw [Json.at?] at leads
    obtain rfl := Option.some.inj leads
    obtain ⟨front, p, back, rfl, rfl, converted⟩ := exists_split_of_paramsOfJson h present
    exact ⟨p, _, _, converted, .arg front p back⟩
  | cons j path ih =>
    rw [Json.at?] at leads
    obtain ⟨item, present, leads⟩ := Option.bind_eq_some_iff.mp leads
    obtain ⟨front, outer, back, rfl, rfl, converted⟩ := exists_split_of_paramsOfJson h present
    cases item with
    | array deeper =>
      obtain ⟨inside, rfl, deeperConverted⟩ := exists_of_ofJson_array converted
      obtain ⟨p, before, after, found, shown⟩ := ih deeperConverted leads
      exact ⟨p, _, _, found, .inside front shown back⟩
    | _ => cases leads

end Param

/-! ## Texts of steps -/

namespace Chain

theorem Adds.exists_text {c built : Chain} {args : List StepArg} (h : Adds c args built) :
    ∃ tail, built.text = c.text ++ tail := by
  induction h with
  | nil c => exact ⟨"", String.append_empty.symm⟩
  | cons _ added _ ih =>
    obtain ⟨kind, _, rfl⟩ := exists_of_addNamed added
    obtain ⟨tail, ih⟩ := ih
    rw [text] at ih
    exact ⟨_, ih.trans (String.append_assoc ..)⟩

theorem Adds.split {c built : Chain} {front rest : List StepArg} (h : Adds c (front ++ rest) built) :
    ∃ between, Adds c front between ∧ Adds between rest built := by
  induction front generalizing c with
  | nil => exact ⟨c, .nil c, h⟩
  | cons arg front ih =>
    cases h with
    | cons converted added others =>
      obtain ⟨between, before, after⟩ := ih others
      exact ⟨between, .cons converted added before, after⟩

/-- The text of a built query has a part for each of its steps. -/
theorem exists_stepText {graph : GraphId} {front rest : List StepArg} {step : StepArg} {c : Chain}
    (built : build graph (front ++ step :: rest) = .ok c) : ∃ lead args tail, ∃ kind : StepKind,
      TextOf graph front lead ∧ step.name ∈ kind.names ∧ paramsOfJson step.args = .ok args ∧
      c.text = lead ++ stepText kind (renderAll args) ++ tail := by
  obtain ⟨root, others, first, split, starts, adds⟩ := build_eq_ok_iff.mp built
  cases front with
  | nil =>
    obtain ⟨rfl, rfl⟩ := List.cons.inj split
    obtain ⟨tail, text_eq⟩ := adds.exists_text
    cases starts with
    | @vertex name args params called converted =>
      have named : name ∈ StepKind.vertex.names := by
        rcases called with rfl | rfl <;> decide
      exact ⟨_, params, tail, .vertex, .none, named, converted, text_eq⟩
    | @morphism name called =>
      have named : name ∈ StepKind.morphism.names := by
        rcases called with rfl | rfl <;> decide
      exact ⟨_, [], tail, .morphism, .none, named, rfl, text_eq⟩
  | cons root front =>
    obtain ⟨rfl, rfl⟩ := List.cons.inj split
    obtain ⟨earlier, before, after⟩ := adds.split
    have made := build_of_adds starts before
    cases after with
    | cons converted added others =>
      obtain ⟨kind, accepts, rfl⟩ := (reachable_of_build made).1.addNamed_eq_ok_iff.mp added
      obtain ⟨tail, text_eq⟩ := others.exists_text
      exact ⟨_, _, tail, kind, .some made, accepts.follows.1, converted, text_eq⟩

end Chain

/-! ## Integers -/

/-- What is converted where an integer is typed is a number that the integer makes. -/
theorem StepArg.TypesAt.exists_number {raw : String} {step : StepArg} {path : List Nat}
    {literal : Json.IntegerLiteral} (typed : TypesAt raw path literal)
    (parsed : parse raw = .ok step) : ∃ n, literal.numeral.value? = some n ∧
      (Json.array step.args).at? path = some (.number n) := by
  obtain @⟨name, json, found, following, whole, plain, place, written, ends⟩ := typed
  rw [parse, whole, splitAtEquals_append plain] at parsed
  simp only [Json.read, String.toList_ofList] at parsed
  split at parsed
  next => cases parsed
  next items read =>
    split at read
    next value rest reads =>
      split_ifs at read
      obtain rfl := Option.some.inj read
      obtain ⟨depth, inner, after, leads, reads⟩ := place.read reads
      obtain ⟨n, made, rfl⟩ := literal.read written ends reads
      unfold named at parsed
      split_ifs at parsed
      obtain rfl := Except.ok.inj parsed
      exact ⟨n, made, leads⟩
    next => cases read
  next => cases parsed

section Shown

variable (literal : Json.IntegerLiteral) {n : Json.Number} (made : literal.numeral.value? = some n)
include made

theorem Json.IntegerLiteral.render_of_fits (fits : literal.Fits) :
    n.param.render = toString literal.value := by
  obtain ⟨least, most, notMinusZero⟩ := fits
  have small : literal.value < UInt64.size := Int.lt_of_le_of_lt most (by decide)
  rw [literal.value?_eq, if_pos ⟨least, small, notMinusZero⟩] at made
  obtain rfl := Option.some.inj made
  rw [Number.param, if_pos ⟨least, most⟩, Param.render, Int64.toInt_ofInt_of_le]
  · rwa [Int64.toInt_minValue] at least
  · rw [Int64.toInt_maxValue] at most
    omega

/-- An integer without a sign that is too large for one with a sign becomes a floating-point number
only when it is converted. -/
theorem Json.IntegerLiteral.exists_float (other : ¬ literal.Fits) : ∃ x, n.param = .float x := by
  rw [literal.value?_eq] at made
  split_ifs at made with whole
  · obtain rfl := Option.some.inj made
    have large : ¬ (Int64.minValue.toInt ≤ literal.value ∧
        literal.value ≤ Int64.maxValue.toInt) :=
      fun h => other ⟨h.1, h.2, whole.2.2⟩
    exact ⟨.ofInt literal.value, by rw [Number.param, if_neg large]⟩
  · obtain ⟨x, -, rfl⟩ := Option.map_eq_some_iff.mp made
    exact ⟨x, rfl⟩

end Shown

theorem quoted_ne_toString (s : String) (n : Int) : "\"" ++ s ++ "\"" ≠ toString n := by
  intro same
  obtain ⟨c, tail, begins, isNumber⟩ := Json.exists_first_of_int n
  obtain rfl : '"' = c := by simpa [← same] using congrArg List.head? begins
  rcases isNumber with digit | minus
  · cases digit
  · cases minus

/-- An integer typed in the arguments of a step is shown at its place in the text of the built query.
What is shown is the integer exactly if it is one of 64 bits with a sign and not minus zero, and
otherwise the literal of a floating-point number. -/
theorem shows_integer_iff_fits {graph : GraphId} {front rest : List StepArg} {step : StepArg}
    {raw : String} {c : Chain} {i : Nat} {path : List Nat} {literal : Json.IntegerLiteral}
    (typed : StepArg.TypesAt raw (i :: path) literal) (parsed : StepArg.parse raw = .ok step)
    (built : Chain.build graph (front ++ step :: rest) = .ok c) :
    ∃ shown, c.ShowsAt graph front step (i :: path) shown ∧
      (shown = toString literal.value ↔ literal.Fits) ∧
      (¬ literal.Fits → ∃ x, shown = "\"" ++ Param.layout.write x ++ "\"") := by
  obtain ⟨n, made, leads⟩ := typed.exists_number parsed
  obtain ⟨lead, args, tail, kind, earlier, named, converted, text⟩ := Chain.exists_stepText built
  obtain ⟨p, before, after, found, shown⟩ := Param.exists_shownAt converted leads
  rw [Param.ofJson] at found
  obtain rfl := Except.ok.inj found
  have parts : c.text = lead ++ "." ++ kind.name ++ "(" ++ before ++ n.param.render ++ after ++ ")" ++
      tail := by
    rw [text, stepText, shown.text]
    simp only [String.append_assoc]
  refine ⟨n.param.render, ⟨earlier, named, converted, shown, parts⟩,
    ⟨fun same => ?_, literal.render_of_fits made⟩, fun other => ?_⟩
  · by_contra other
    obtain ⟨x, float⟩ := literal.exists_float made other
    rw [float, Param.render] at same
    exact quoted_ne_toString _ _ same
  · obtain ⟨x, float⟩ := literal.exists_float made other
    exact ⟨x, by rw [float, Param.render]⟩

theorem exists_built {raw text : String} {front : List StepArg}
    (h : ((StepArg.parse raw).toOption.bind fun step =>
      (Chain.build 0 (front ++ [step])).toOption.map Chain.text) = some text) :
    ∃ step c, StepArg.parse raw = .ok step ∧ Chain.build 0 (front ++ [step]) = .ok c ∧
      c.text = text := by
  cases parsed : StepArg.parse raw with
  | error cause => simp [parsed, Except.toOption] at h
  | ok step =>
    cases built : Chain.build 0 (front ++ [step]) with
    | error fault => simp [parsed, built, Except.toOption] at h
    | ok c => exact ⟨step, c, rfl, built, by simpa [parsed, built, Except.toOption] using h⟩

theorem Chain.ShowsAt.infix {graph : GraphId} {c : Chain} {front : List StepArg} {step : StepArg}
    {path : List Nat} {shown : String} (h : c.ShowsAt graph front step path shown) :
    shown.toList <:+: c.text.toList := by
  obtain @⟨lead, before, after, tail, args, kind, -, -, -, -, text⟩ := h
  refine ⟨(lead ++ "." ++ kind.name ++ "(" ++ before).toList, (after ++ ")" ++ tail).toList, ?_⟩
  simp [text]

/-- The least integer, in a list after a text with a comma and a bracket. -/
theorem shows_integer_iff_fits_nested :
    let raw := "Out=[\"a,[\", [null, -9223372036854775808 ]]"
    ∃ literal step c shown, StepArg.TypesAt raw [1, 1] literal ∧ StepArg.parse raw = .ok step ∧
      Chain.build 0 ([⟨"V", []⟩] ++ [step]) = .ok c ∧ literal.Fits ∧
      c.ShowsAt 0 [⟨"V", []⟩] step [1, 1] shown ∧ shown = toString literal.value := by
  let literal : Json.IntegerLiteral := .ofInt (-9223372036854775808)
  have typed : StepArg.TypesAt "Out=[\"a,[\", [null, -9223372036854775808 ]]" [1, 1] literal := by
    refine @StepArg.TypesAt.mk _ _ _ "Out".toList "[\"a,[\", [null, -9223372036854775808 ]]".toList
      " -9223372036854775808 ]]".toList " ]]".toList (by decide) (by decide) ?_ (by decide +kernel)
      (by simp [Json.Stops])
    have text : Json.readValue 126 "\"a,[\", [null, -9223372036854775808 ]]".toList =
        some (.string "a,[", ", [null, -9223372036854775808 ]]".toList) := by cbv
    have null : Json.readValue 125 "null, -9223372036854775808 ]]".toList =
        some (.null, ", -9223372036854775808 ]]".toList) := by cbv
    have second : Json.ItemAt 126 "\"a,[\", [null, -9223372036854775808 ]]".toList 1
        " [null, -9223372036854775808 ]]".toList := .next text (by decide) (.first _)
    have last : Json.ItemAt 125 "null, -9223372036854775808 ]]".toList 1
        " -9223372036854775808 ]]".toList := .next null (by decide) (.first _)
    exact .inside (by decide) (by decide) second (.inside (by decide) (by decide) last (.here _ _))
  have fits : literal.Fits := by decide +kernel
  obtain ⟨step, c, parsed, built, -⟩ := exists_built
    (by decide +kernel :
      ((StepArg.parse "Out=[\"a,[\", [null, -9223372036854775808 ]]").toOption.bind fun step =>
      (Chain.build 0 ([⟨"V", []⟩] ++ [step])).toOption.map Chain.text) =
        some "g.Vertex().Out(\"a,[\", [, -9223372036854775808])")
  obtain ⟨shown, shows, same, -⟩ := shows_integer_iff_fits typed parsed built
  exact ⟨literal, step, c, shown, typed, parsed, built, fits, shows, same.mpr fits⟩

/-- An integer that is too large for 64 bits with a sign is altered without an error. -/
theorem altered_integer :
    let raw := "V=[9223372036854775808]"
    ∃ literal step c, StepArg.TypesAt raw [0] literal ∧ literal.value = 9223372036854775808 ∧
      StepArg.parse raw = .ok step ∧ Chain.build 0 [step] = .ok c ∧
      c.text = "g.Vertex(\"9.223372036854776e18\")" ∧
      ¬ c.ShowsAt 0 [] step [0] "9223372036854775808" := by
  let literal : Json.IntegerLiteral := .ofInt 9223372036854775808
  have typed : StepArg.TypesAt "V=[9223372036854775808]" [0] literal := by
    refine @StepArg.TypesAt.mk _ _ _ "V".toList "[9223372036854775808]".toList
      "9223372036854775808]".toList "]".toList (by decide) (by decide) ?_ (by decide +kernel)
      (by simp [Json.Stops])
    exact .inside (by decide) (by decide) (.first _) (.here _ _)
  obtain ⟨step, c, parsed, built, text⟩ := exists_built
    (by decide +kernel :
      ((StepArg.parse "V=[9223372036854775808]").toOption.bind fun step =>
      (Chain.build 0 ([] ++ [step])).toOption.map Chain.text) =
        some "g.Vertex(\"9.223372036854776e18\")")
  refine ⟨literal, step, c, typed, by decide +kernel, parsed, built, text, fun shows => ?_⟩
  have inside := shows.infix
  rw [text] at inside
  revert inside
  decide +kernel

end Traversal
