import Traversal.Proofs.Command.Build
import Traversal.Proofs.Session.Adopt
import Traversal.Proofs.Session.Pipeline

/-! # What the options of a query mean

The options end a query and add client operators to it in a fixed order, dropping repeated records
before values are cleaned. Read together with what the server answers they mean something simpler:
the records in the language, with clean values, and repeated ones dropped last. -/

namespace Traversal

/-! ## Options as operators -/

namespace QueryOptions

/-- What the options add to the text of a query that is not terminal. -/
def ending (options : QueryOptions) : String :=
  match options.limit with
  | some count => ".GetLimit(" ++ toString count.toInt ++ ")"
  | none => ".All()"

/-- The client operators that the options add, in the order in which they are applied. -/
def operators (options : QueryOptions) : List ClientOp :=
  (match options.language with
    | some language => [.filter (.language language)]
    | none => []) ++
  (if options.distinct then [.distinct] else []) ++
  if options.clean then [.map (.cleanRdf (options.language.getD Rdf.defaultLanguage))] else []

/-- The record is in the language asked for. -/
def speaks (options : QueryOptions) (r : Record) : Bool :=
  options.language.all fun language => Rdf.matchesLanguage language r

/-- The record with clean values, if they are to be cleaned. -/
def cleaned (options : QueryOptions) (r : Record) : Record :=
  if options.clean then r.mapValues (Rdf.clean (options.language.getD "en")) else r

/-- What the options mean: of the records those in the language, then with clean values, then
without later equal ones. -/
def resultOf (options : QueryOptions) (records : List Record) : List Record :=
  let shown := (records.filter options.speaks).map options.cleaned
  if options.distinct then shown.eraseDups else shown

variable (options : QueryOptions)

theorem withOperators_eq (c : Chain) :
    c.withOperators options = options.operators.foldl .client c := by
  obtain ⟨distinct, clean, language, limit⟩ := options
  cases language <;> cases distinct <;> cases clean <;> rfl

/-- None of the operators breaks off. -/
theorem total_operators : ∀ op ∈ options.operators, op.Total := by
  have total : (∀ language, (ClientOp.filter (.language language)).Total) ∧
      ClientOp.distinct.Total ∧ ∀ language, (ClientOp.map (.cleanRdf language)).Total :=
    ⟨fun _ _ => ⟨_, rfl⟩, fun _ => ⟨_, rfl⟩, fun _ _ => ⟨_, rfl⟩⟩
  obtain ⟨distinct, clean, language, limit⟩ := options
  cases language <;> cases distinct <;> cases clean <;> simp [operators, total]

/-- What the operators make of one record alone. -/
theorem pass_operators (r : Record) : ClientOp.pass options.operators r =
    .ok (if options.speaks r then some (options.cleaned r) else none) := by
  obtain ⟨distinct, clean, language, limit⟩ := options
  cases language with
  | none => cases distinct <;> cases clean <;> rfl
  | some language =>
    cases hr : Rdf.matchesLanguage language r <;> cases distinct <;> cases clean <;>
      simp [operators, ClientOp.pass, ClientOp.single, Predicate.test, Transform.apply, speaks,
        cleaned, Rdf.cleanRecord, Except.map, hr]

theorem any_isDistinct_operators :
    options.operators.any ClientOp.isDistinct = options.distinct := by
  obtain ⟨distinct, clean, language, limit⟩ := options
  cases language <;> cases distinct <;> cases clean <;> rfl

/-- The operators drop repeated records before they clean values, and still leave none. -/
theorem applyAll_operators (records : List Record) :
    ClientOp.applyAll options.operators (.ofRecords records) =
      .ok ⟨options.resultOf records, options.distinct⟩ := by
  obtain ⟨f, hf, gathers⟩ := ClientOp.applyAll_gathered options.operators options.total_operators
  have hpass : f = fun r => if options.speaks r then some (options.cleaned r) else none :=
    funext fun r => Except.ok.inj ((hf r).symm.trans (options.pass_operators r))
  have shown : records.filterMap f = (records.filter options.speaks).map options.cleaned := by
    rw [← List.filterMap_eq_map, ← List.filterMap_eq_filter, List.filterMap_filterMap, hpass]
    congr 1
    funext r
    cases hr : options.speaks r <;> simp [Option.guard, hr]
  rw [ClientOp.ofRecords_eq_gathered, gathers, Bool.false_or, any_isDistinct_operators, shown,
    resultOf]
  cases options.distinct with
  | false => rw [ClientOp.gathered_false]; rfl
  | true => rw [ClientOp.gathered_true]; rfl

theorem nodup_resultOf (hd : options.distinct = true) (records : List Record) :
    (options.resultOf records).Nodup := by
  simp only [resultOf, hd, if_true]
  exact nodup_eraseDups _

-- two records that differ as the server sends them, and no more once they are clean
example : resultOf ⟨true, true, none, none⟩
    [⟨[("id", "m")]⟩, ⟨[("id", "http://rdf.freebase.com/ns/m")]⟩] = [⟨[("id", "m")]⟩] := by
  decide +kernel

end QueryOptions

/-! ## Finished chains -/

namespace Chain

/-- A chain that is not terminal admits the call that ends a query. -/
theorem refusal?_endCall {c : Chain} (h : c.isTerminal = false) (limit : Option Int64)
    (attempted : String) :
    c.refusal? (endCall limit).kind attempted (endCall limit).args = none := by
  rw [refusal?_eq_none_iff]
  cases limit with
  | none => exact ⟨rfl, h, rfl, rfl, rfl⟩
  | some count => exact ⟨rfl, h, rfl, rfl, rfl⟩

/-- What a chain is once it is ended. -/
structure EndedBy (c : Chain) (options : QueryOptions) (ended : Chain) : Prop where
  reachable : ended.Reachable
  terminal : ended.isTerminal = true
  clientOps : ended.clientOps = c.clientOps
  text : ended.text = if c.isTerminal then c.text else c.text ++ options.ending

/-- A chain cannot be ended if it is terminal and there is a limit to be set, and only then. -/
theorem ensureTerminal_cases {c : Chain} (h : c.Reachable) (options : QueryOptions) :
    ((c.isTerminal = true ∧ options.limit.isSome = true) ∧
      c.ensureTerminal options.limit = .error .limitOnTerminal) ∨
    (¬(c.isTerminal = true ∧ options.limit.isSome = true) ∧
      ∃ ended, c.ensureTerminal options.limit = .ok ended ∧ c.EndedBy options ended) := by
  rw [ensureTerminal]
  cases hterm : c.isTerminal with
  | true =>
    cases hlimit : options.limit with
    | some count => exact .inl ⟨⟨rfl, rfl⟩, rfl⟩
    | none => exact .inr ⟨by simp, c, rfl, h, hterm, rfl, by rw [hterm, if_pos rfl]⟩
  | false =>
    have fits := refusal?_endCall hterm options.limit (endCall options.limit).kind.name
    have hcall : c.call (endCall options.limit) =
        .ok (.step c (endCall options.limit).kind (endCall options.limit).args) :=
      extend_eq_ok.mpr ⟨fits, rfl⟩
    refine .inr ⟨by simp, _, by simp [hcall], .step h fits, ?_, rfl, ?_⟩
    · rw [isTerminal_step]
      cases options.limit <;> rfl
    · rw [text, hterm, QueryOptions.ending]
      cases options.limit <;> rfl

/-- With the operators of the options at its end, a chain makes of a reply what the options mean. -/
theorem settle_of_operators {c : Chain} {options : QueryOptions}
    (hops : c.clientOps = options.operators) {response : Response} {records : List Record}
    (hi : response.interpret c.tags = .ok (.ofRecords records)) :
    (Reply.answer response).settle c =
      .ok (.ok ⟨options.resultOf records, options.distinct⟩) := by
  simp only [Reply.settle, hi, hops, options.applyAll_operators]

/-- What a finished chain is, and what reading it gives after a reply that holds records. -/
structure Finished (c : Chain) (options : QueryOptions) (finished : Chain) : Prop where
  terminal : finished.isTerminal = true
  text : finished.text = if c.isTerminal then c.text else c.text ++ options.ending
  one_terminal : finished.steps.countP (·.rule.terminal) = 1
  /-- In a session of its own. -/
  execute : ∀ (transport : Transport) (response : Response) (records : List Record),
    transport [] finished.text = .answer response →
    response.interpret finished.tags = .ok (.ofRecords records) →
    (finished.execute transport).1 = .ok (.ok ⟨options.resultOf records, options.distinct⟩)
  /-- In any session, whatever was read before; what counts is the one reply to its terminal
  step. -/
  read : ∀ (net : Network) (actions : List Action) (q : Query),
    (Session.run net {} actions).Has q → q.chain = finished → ∃ reply,
      repliesTo (Session.exchanges net {} (actions ++ [.read q.id])) q.newestStep.id = [reply] ∧
      ∀ (response : Response) (records : List Record), reply = .answer response →
        response.interpret finished.tags = .ok (.ofRecords records) →
        ((Session.run net {} actions).act net (.read q.id)).1 =
          .attempt (.ok (.ok ⟨options.resultOf records, options.distinct⟩))
  nodup : options.distinct = true → ∀ records, (options.resultOf records).Nodup

theorem EndedBy.finished {c ended : Chain} {options : QueryOptions}
    (h : c.EndedBy options ended) (plain : c.clientOps = []) :
    c.Finished options (ended.withOperators options) := by
  rw [options.withOperators_eq]
  have reachable : (options.operators.foldl .client ended).Reachable := h.reachable.foldl_client _
  have terminal : (options.operators.foldl .client ended).isTerminal = true :=
    (foldl_client_eq _ isTerminal_client ended).trans h.terminal
  have hops : (options.operators.foldl .client ended).clientOps = options.operators := by
    rw [clientOps_foldl_client, h.clientOps, plain, List.nil_append]
  constructor
  case terminal => exact terminal
  case text =>
    rw [foldl_client_eq (f := Chain.text) _ (fun _ _ => by rw [Chain.text]) ended]
    exact h.text
  case one_terminal =>
    rw [reachable.countP_terminal, terminal]
    rfl
  case execute =>
    intro transport response records hr hi
    rw [execute_eq_settle reachable terminal, hr, settle_of_operators hops hi]
  case read =>
    intro net actions q hq hchain
    rw [← hchain] at terminal hops ⊢
    obtain ⟨reply, hone, hread⟩ := Session.read_eq_settle_of_total net actions q
      (hops ▸ options.total_operators) hq terminal
    refine ⟨reply, hone, fun response records hr hi => ?_⟩
    subst hr
    rw [hread (by simp), settle_of_operators hops hi]
  case nodup => exact options.nodup_resultOf

/-- Finishing a built chain fails if the chain is terminal and a limit is given. Otherwise the
finished chain is terminal by one step, which the text shows at its end, and reading it gives what
the options mean. -/
theorem finish_of_build {graph : GraphId} {steps : List StepArg} {c : Chain}
    (built : build graph steps = .ok c) (options : QueryOptions) :
    (c.isTerminal = true ∧ options.limit.isSome = true →
      c.finish options = .error .limitOnTerminal) ∧
    (¬(c.isTerminal = true ∧ options.limit.isSome = true) →
      ∃ finished, c.finish options = .ok finished ∧ c.Finished options finished) := by
  obtain ⟨reachable, plain⟩ := reachable_of_build built
  rcases ensureTerminal_cases reachable options with ⟨clash, he⟩ | ⟨free, ended, he, h⟩
  · exact ⟨fun _ => by rw [finish, he], fun free => absurd clash free⟩
  · exact ⟨fun clash => absurd clash free, fun _ => ⟨_, by rw [finish, he], h.finished plain⟩⟩

/-- All options at once. -/
theorem finish_of_build_all_options :
    let steps : List StepArg := [⟨"V", [.string "m"]⟩, ⟨"Out", [.string "name"]⟩]
    let options : QueryOptions := ⟨true, true, some "de", some 5⟩
    let c : Chain := .step (.vertex 0 [.text "m"]) .outward [.text "name"]
    build 0 steps = .ok c ∧ ¬(c.isTerminal = true ∧ options.limit.isSome = true) ∧
      ∃ finished, c.finish options = .ok finished ∧ c.Finished options finished := by
  intro steps options c
  have built : build 0 steps = .ok c := rfl
  have free : ¬(c.isTerminal = true ∧ options.limit.isSome = true) := by
    rintro ⟨hterm, _⟩
    cases hterm
  exact ⟨built, free, (finish_of_build built options).2 free⟩

end Chain

end Traversal
