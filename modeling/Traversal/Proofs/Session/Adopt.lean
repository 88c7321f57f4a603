import Traversal.Command.Run
import Traversal.Proofs.Chain.Reachable
import Traversal.Proofs.Session.Run

/-! # A chain in a session of its own

Taking a chain into a session adds links and does no more. So a chain that is executed in a session
of its own is sent once, and what its execution gives is what the reply comes to. -/

namespace Traversal

namespace Session

/-- The query stands for the chain in a session that has only been added to. -/
structure Adopts (s : Session) (c : Chain) (q : Query) (t : Session) : Prop where
  wellFormed : t.WellFormed
  has : t.Has q
  chain : q.chain = c
  log : t.log = s.log
  status : ∀ id, t.status id = s.status id

theorem Admits.adopts_push {s t : Session} {q : Query} (admits : t.Admits q) (wf : t.WellFormed)
    (log : t.log = s.log) (status : ∀ id, t.status id = s.status id) :
    Adopts s q.chain q (t.push q) where
  wellFormed := admits.wellFormed_push wf
  has := by
    unfold Has
    rw [queries_push, admits.id_eq, List.getElem?_concat_length]
  chain := rfl
  log := log
  status id := (status_push t q id).trans (status id)

/-- Taking in a chain that calls make does what the calls would do. -/
theorem adopt_adopts {s : Session} (wf : s.WellFormed) {c : Chain} (h : c.Reachable) :
    Adopts s c (s.adopt c).1 (s.adopt c).2 := by
  induction h with
  | vertex graph args =>
    rw [adopt, vertex, addLink_eq]
    exact (Admits.vertex graph args).adopts_push wf rfl fun _ => rfl
  | morphism graph =>
    rw [adopt, morphism, addLink_eq]
    exact (Admits.morphism graph).adopts_push wf rfl fun _ => rfl
  | @step pred kind attempted args _ fits ih =>
    simp only [adopt, addLink_eq]
    rw [← ih.chain] at fits
    have made := (Admits.step ih.has fits).adopts_push ih.wellFormed ih.log ih.status
    rwa [Query.chain, ih.chain] at made
  | @client pred op _ ih =>
    simp only [adopt, client, addLink_eq]
    have made := (Admits.client op ih.has).adopts_push ih.wellFormed ih.log ih.status
    rwa [Query.chain, ih.chain] at made

end Session

/-- Executing a terminal chain sends its text once, before any other, and settles the reply. -/
theorem Chain.execute_eq_settle {c : Chain} (h : c.Reachable) (hterm : c.isTerminal = true)
    (transport : Transport) : (c.execute transport).1 = (transport [] c.text).settle c := by
  have adopts := Session.adopt_adopts Session.wellFormed_empty h
  simp only [execute]
  generalize (Session.adopt {} c).1 = q at adopts ⊢
  generalize (Session.adopt {} c).2 = s at adopts ⊢
  have fresh : ∀ id, s.status id = .unexecuted := by
    intro id
    rw [adopts.status]
    exact Session.status_eq_unexecuted (Nat.zero_le id)
  have sent : Network.replyTo (fun _ => transport) s q.newestStep.chain = transport [] c.text := by
    rw [Network.replyTo, q.newestStep_text, adopts.chain, Session.textsTo, adopts.log]
    rfl
  rw [← adopts.chain] at hterm
  have course : Session.Fetches (fun _ => transport) q s _ _ := Session.read_course s hterm
  rw [course.eq_settle adopts.wellFormed adopts.has (fun _ => sent.symm)
    fun c _ executed => absurd (fresh c.id) executed, adopts.chain]

end Traversal
