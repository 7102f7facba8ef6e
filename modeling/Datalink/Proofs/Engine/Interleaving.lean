import Datalink.Proofs.Engine.Measuring

/-!
# Routines among others

A routine that waits is taken up again in whatever world the others left.  Given are the
worlds in which it is taken up, one behind every wait; behind the last of them nobody keeps
it waiting.

Results: what becomes of a routine among others is described for every way of building
routines, as `run` describes what becomes of it alone.  Routines that go abreast wait for the
same in the same worlds and end in the same world, whatever the others do, so that they make
the same calls, write the same lines and leave the same ledger.
-/

namespace Datalink

variable {α β γ : Type}

namespace Progress

/-- The end of a routine that is taken up again in the given worlds, and those of the worlds
that are left over. -/
def settleAmong (p : Progress α) (ws : List World) : Except Fault α × World × List World :=
  match p, ws with
  | finished r w, ws => (r, w, ws)
  | waiting _ w resume, [] => (resume w).settleAmong []
  | waiting _ _ resume, w :: ws => (resume w).settleAmong ws

theorem settleAmong_bind
    (p : Progress α) (next : α → World → Progress β) (ws : List World) :
    (p.bind next).settleAmong ws =
      match p.settleAmong ws with
      | (.ok a, w, ws) => (next a w).settleAmong ws
      | (.error f, w, ws) => (.error f, w, ws) := by
  induction p generalizing ws with
  | finished r w =>
      cases r <;> simp [bind, settleAmong]
  | waiting on w resume ih =>
      cases ws with
      | nil =>
          simpa [bind, settleAmong] using ih w []
      | cons v ws =>
          simpa [bind, settleAmong] using ih v ws

theorem settleAmong_attempt
    (p : Progress α) (ws : List World) :
    p.attempt.settleAmong ws =
      (.ok (p.settleAmong ws).1, (p.settleAmong ws).2.1, (p.settleAmong ws).2.2) := by
  induction p generalizing ws with
  | finished r w =>
      simp [attempt, settleAmong]
  | waiting on w resume ih =>
      cases ws with
      | nil =>
          simpa [attempt, settleAmong] using ih w []
      | cons v ws =>
          simpa [attempt, settleAmong] using ih v ws

/-- Two routines go abreast: they wait for the same in the same worlds, wherever they are
taken up again, and end in the same world, both with the same fault or both with a result. -/
inductive Abreast : Progress α → Progress β → Prop
  | failed
      (f : Fault) (w : World) :
      Abreast (finished (.error f) w) (finished (.error f) w)
  | done
      (a : α) (b : β) (w : World) :
      Abreast (finished (.ok a) w) (finished (.ok b) w)
  | waiting
      (on : Wait) (w : World) {resume : World → Progress α} {resume' : World → Progress β}
      (h : ∀ w, Abreast (resume w) (resume' w)) :
      Abreast (waiting on w resume) (waiting on w resume')

/-- Routines that go abreast end in the same world, whatever the others do, and if one ends
with a fault then the other one ends with it too. -/
theorem Abreast.settleAmong
    {p : Progress α} {q : Progress β} (h : Abreast p q) (ws : List World) :
    (p.settleAmong ws).2 = (q.settleAmong ws).2 ∧
      ∀ f, (p.settleAmong ws).1 = .error f ↔ (q.settleAmong ws).1 = .error f := by
  induction h generalizing ws with
  | failed f w =>
      exact ⟨rfl, fun g => by simp [Progress.settleAmong]⟩
  | done a b w =>
      exact ⟨rfl, fun g => by simp [Progress.settleAmong]⟩
  | waiting on w _ ih =>
      cases ws with
      | nil =>
          exact ih w []
      | cons v ws =>
          exact ih v ws

/-- One routine goes abreast with itself, whatever is made of its result. -/
theorem abreast_bind
    (p : Progress γ) (f : γ → α) (g : γ → β) :
    Abreast (p.bind fun c w => finished (.ok (f c)) w)
      (p.bind fun c w => finished (.ok (g c)) w) := by
  induction p with
  | finished r w =>
      cases r with
      | error e =>
          exact .failed e w
      | ok c =>
          exact .done (f c) (g c) w
  | waiting on w resume ih =>
      exact .waiting on w ih

end Progress

namespace Routine

/-- What a routine does that is taken up again in the given worlds. -/
def runAmong (m : Routine α) (ws : List World) (w : World) :
    Except Fault α × World × List World :=
  (m w).settleAmong ws

theorem runAmong_bind
    (m : Routine α) (next : α → Routine β) (ws : List World) (w : World) :
    runAmong (m >>= next) ws w =
      match runAmong m ws w with
      | (.ok a, w, ws) => runAmong (next a) ws w
      | (.error f, w, ws) => (.error f, w, ws) :=
  Progress.settleAmong_bind (m w) next ws

theorem runAmong_attempt
    (m : Routine α) (ws : List World) (w : World) :
    runAmong m.attempt ws w =
      (.ok (runAmong m ws w).1, (runAmong m ws w).2.1, (runAmong m ws w).2.2) :=
  Progress.settleAmong_attempt (m w) ws

/-- Behind a wait the world is the one that the others left. -/
theorem runAmong_wait
    (on : Wait) (v : World) (ws : List World) (w : World) :
    runAmong (wait on) (v :: ws) w = (.ok (), v, ws) := by
  rfl

theorem runAmong_map
    (f : α → β) (m : Routine α) (ws : List World) (w : World) :
    runAmong (f <$> m) ws w =
      ((runAmong m ws w).1.map f, (runAmong m ws w).2.1, (runAmong m ws w).2.2) := by
  change runAmong (m >>= fun a => pure (f a)) ws w = _
  rw [runAmong_bind]
  rcases runAmong m ws w with ⟨r, w', ws'⟩
  cases r <;> rfl

/-! ## Routines that do not wait -/

/-- Whether a routine does not wait. -/
def Prompt (m : Routine α) : Prop := ∀ w, ∃ r w', m w = .finished r w'

/-- The others do not get at a routine that does not wait. -/
theorem Prompt.runAmong_eq
    {m : Routine α} (h : Prompt m) (ws : List World) (w : World) :
    runAmong m ws w = ((run m w).1, (run m w).2, ws) := by
  obtain ⟨r, w', hm⟩ := h w
  rw [runAmong, run, hm]
  cases ws <;> rfl

theorem prompt_ofExcept
    (r : Except Fault α) :
    Prompt (ofExcept r) :=
  fun w => ⟨r, w, rfl⟩

theorem prompt_step
    (f : World → α × World) :
    Prompt (step f) :=
  fun w => ⟨.ok (f w).1, (f w).2, rfl⟩

theorem prompt_fail
    (f : Fault) :
    Prompt (fail f : Routine α) :=
  fun w => ⟨.error f, w, rfl⟩

theorem prompt_pure
    (a : α) :
    Prompt (pure a : Routine α) :=
  fun w => ⟨.ok a, w, rfl⟩

theorem Prompt.bind
    {m : Routine α} {next : α → Routine β} (hm : Prompt m) (hnext : ∀ a, Prompt (next a)) :
    Prompt (m >>= next) := by
  intro w
  obtain ⟨r, w', hw⟩ := hm w
  change ∃ r w'', (m w).bind next = .finished r w''
  rw [hw]
  cases r with
  | error f =>
      exact ⟨.error f, w', rfl⟩
  | ok a =>
      exact hnext a w'

theorem Prompt.attempt
    {m : Routine α} (hm : Prompt m) :
    Prompt m.attempt := by
  intro w
  obtain ⟨r, w', hw⟩ := hm w
  refine ⟨.ok r, w', ?_⟩
  rw [Routine.attempt, hw]
  rfl

/-! ## Routines that deal with the end of another -/

/-- The end of a routine, gone to at once. -/
def goTo (r : Except Fault α) (w : World) : Routine α := fun _ => .finished r w

/-- What deals promptly with the end of a routine among others deals with that end alone. -/
theorem runAmong_attempt_bind
    {m : Routine α} {deal : Except Fault α → Routine β} (hdeal : ∀ r, Prompt (deal r))
    {ws ws' : List World} {w w' : World} {r : Except Fault α}
    (hm : runAmong m ws w = (r, w', ws')) :
    runAmong (m.attempt >>= deal) ws w =
      ((run ((goTo r w').attempt >>= deal) w).1, (run ((goTo r w').attempt >>= deal) w).2,
        ws') := by
  have hgo : run ((goTo r w').attempt >>= deal) w = run (deal r) w' := by
    rfl
  rw [runAmong_bind, runAmong_attempt, hm, hgo]
  exact (hdeal r).runAmong_eq ws' w'

end Routine

/-! ## The engine and the measure -/

namespace Engine

open Routine (Prompt)

theorem prompt_raise
    (i? : Option Incident) :
    Prompt (raise? i?) := by
  cases i? with
  | none =>
      exact Routine.prompt_pure ()
  | some i =>
      exact Routine.prompt_fail _

theorem prompt_checkEncodable
    (sql : Value) :
    Prompt (checkEncodable sql) := by
  unfold checkEncodable
  split
  · exact Routine.prompt_fail _
  · exact Routine.prompt_pure ()

theorem prompt_answer :
    Prompt answer :=
  (Routine.prompt_step _).bind fun _ => (prompt_raise _).bind fun _ => Routine.prompt_pure _

theorem prompt_closingCursor
    (cursor : Answer) {m : Routine α} (hm : Prompt m) :
    Prompt (closingCursor cursor m) := by
  have hclose : Prompt (closeCursor cursor) :=
    (Routine.prompt_step _).bind fun _ => prompt_raise _
  exact hm.attempt.bind fun r => hclose.bind fun _ => Routine.prompt_ofExcept r

end Engine

namespace Measure

open Routine (Prompt runAmong)

theorem prompt_note
    (logger : Logger) (level : Level) (text : Text) :
    Prompt (note logger level text) :=
  Routine.prompt_step _

theorem prompt_conclude
    (logger : Logger) (name sql params : Value) (start : Float) (failure : Option Fault) :
    Prompt (conclude logger name sql params start failure) := by
  have hpublish : ∀ o, Prompt (publish logger o) := by
    intro o
    refine (Routine.prompt_ofExcept _).bind fun line => ?_
    refine (prompt_note _ _ _).bind fun _ => (Routine.prompt_step _).bind fun r => ?_
    cases r with
    | ok _ =>
        exact Routine.prompt_pure ()
    | error f =>
        exact prompt_note _ _ _
  refine (Routine.prompt_step _).bind fun _ => (Routine.prompt_ofExcept _).bind fun _ => ?_
  exact (Routine.prompt_ofExcept _).bind hpublish

/-- An operation that comes to an end among others is measured as one that comes to it
alone. -/
theorem runAmong_measured
    (logger : Logger) (name sql params : Value) {m : Routine α} {ws ws' : List World}
    {w w' : World} {r : Except Fault α}
    (hm : runAmong m ws w.nextReading.2 = (r, w', ws')) :
    let a := Routine.run (run logger name sql params (Routine.goTo r w')) w
    runAmong (run logger name sql params m) ws w = (a.1, a.2, ws') := by
  intro a
  have hnow : runAmong now ws w = (.ok w.nextReading.1, w.nextReading.2, ws) :=
    (Routine.prompt_step _).runAmong_eq ws w
  unfold run
  rw [Routine.runAmong_bind, hnow]
  have hconclude : ∀ failure, Prompt (conclude logger name sql params w.nextReading.1 failure) :=
    prompt_conclude logger name sql params w.nextReading.1
  refine Routine.runAmong_attempt_bind (fun r => ?_) hm
  cases r with
  | ok a =>
      exact (hconclude none).bind fun _ => Routine.prompt_pure a
  | error f =>
      dsimp only
      split
      · exact Routine.prompt_fail f
      · exact (hconclude (some f)).bind fun _ => Routine.prompt_fail f

end Measure

end Datalink
