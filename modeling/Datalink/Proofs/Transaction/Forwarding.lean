import Datalink.Proofs.Session.Keeping

/-!
# Operations on transactions

A transaction hands every operation on to what it runs over, provided that it is open.

Results: on an open transaction an operation is the operation on what the transaction runs
over, wait by wait and in every world that it is taken up again in, and the transaction
stays open.  On any other transaction it ends at once with a fault that names the phase,
and nothing has changed.  Through transactions that are all open it is the operation on
the session.
-/

namespace Datalink

open Routine (run)

namespace Handle

variable {α : Type} {w : World}

/-- An operation called through transactions that are all open is the operation itself. -/
theorem forward_of_isOpen
    {h : Handle} (hopen : h.IsOpen w) (m : Routine α) :
    h.forward m w = m w := by
  induction h with
  | session =>
      rfl
  | within id base ih =>
      rw [forward_of_started hopen.1, ih hopen.2]

/-- Called through transactions that are not all open it is refused. -/
theorem forward_of_not_isOpen
    {h : Handle} (hopen : ¬ h.IsOpen w) (m : Routine α) :
    ∃ phase, h.forward m w = .finished (.error (.notStarted phase)) w := by
  induction h with
  | session =>
      exact absurd trivial hopen
  | within id base ih =>
      by_cases hphase : w.phase id = .started
      · rw [forward_of_started hphase]
        exact ih fun hbase => hopen ⟨hphase, hbase⟩
      · exact ⟨w.phase id, forward_of_not_started hphase base m⟩

end Handle

namespace Operation

variable (s : Session) {w : World}

theorem perform_of_not_isOpen
    (o : Operation) {h : Handle} (hopen : ¬ h.IsOpen w) :
    ∃ phase, o.perform s h w = .finished (.error (.notStarted phase)) w := by
  rw [perform_eq_forward]
  exact Handle.forward_of_not_isOpen hopen _

theorem perform_of_isOpen
    (o : Operation) {h : Handle} (hopen : h.IsOpen w) :
    o.perform s h w = o.perform s .session w := by
  rw [perform_eq_forward]
  exact Handle.forward_of_isOpen hopen _

theorem perform_of_started
    (o : Operation) {t : Transaction} (hphase : w.phase t.id = .started) :
    o.perform s t.handle w = o.perform s t.base w := by
  rw [perform_eq_forward s t.base]
  rw [perform_eq_forward s t.handle]
  exact Handle.forward_of_started hphase t.base _

theorem perform_of_not_started
    (o : Operation) {t : Transaction} (hphase : w.phase t.id ≠ .started) :
    o.perform s t.handle w = .finished (.error (.notStarted (w.phase t.id))) w := by
  rw [perform_eq_forward]
  exact Handle.forward_of_not_started hphase t.base _

/-- An operation leaves all transactions in their phases. -/
theorem phases_perform
    (o : Operation) (h : Handle) (w : World) :
    (run (o.perform s h) w).2.phases = w.phases := by
  have hsteady := steady_phases w.phases fun _ => True
  have hkeeps := hsteady.perform s h o fun _ _ _ _ _ => trivial
  exact (hkeeps.world w ⟨rfl, fun _ _ => trivial⟩).1

/-- An operation called on an open transaction goes as far as on what the transaction runs
over, with the same result, and leaves it open.  On any other transaction it is refused, be
its arguments what they may, and the world is left as it was. -/
theorem forwarded_or_refused
    (t : Transaction) (o : Operation) (w : World) :
    if w.phase t.id = .started then
      o.perform s t.handle w = o.perform s t.base w ∧
        (run (o.perform s t.handle) w).2.phase t.id = .started
    else
      ∃ f : Fault, o.perform s t.handle w = .finished (.error f) w ∧
        f.kind = "TransactionError" ∧
        f.message = "Transaction is not open (state: " ++ (w.phase t.id).name ++ ")." := by
  split
  · rename_i hphase
    refine ⟨o.perform_of_started s hphase, ?_⟩
    rw [World.phase, o.phases_perform s t.handle w]
    exact hphase
  · rename_i hphase
    exact ⟨_, o.perform_of_not_started s hphase, rfl, rfl⟩

end Operation

end Datalink
