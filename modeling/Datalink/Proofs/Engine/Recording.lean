import Datalink.Proofs.Engine.Measuring

/-!
# What measuring leaves in the ledger

Input: an operation measured under a name that is a text, with any statement, and with
parameters that can be written.

Results: if the outcome is measurable and the statement can be written, it is the outcome of
the measured operation, and the ledger takes one observation of it.  Otherwise the measured
operation fails, and the ledger takes none.
-/

namespace Datalink
namespace Measure

variable {α : Type}

/-- What cannot be written about is not published. -/
theorem run_publish_of_no_line
    (logger : Logger) {o : Observation} {f : Fault} (hline : o.line = .error f) (w : World) :
    Routine.run (publish logger o) w = (.error f, w) := by
  simp [publish, hline]

section Conclusions

variable (logger : Logger) (name : Text) (sql : Value) {params : Value} {items : List Value}
variable (hitems : params.asItems = .ok items) (hparams : Value.allPrintable items = true)
variable (start : Float) {r : Except Fault α} {failure : Option Fault}
variable (hnone : failure.isNone = r.isOk) (hwords : failureText failure = .ok (errorOf r))
variable (w : World)
include hitems hparams hnone hwords

/-- A measured operation whose failure, if there is one, has words is concluded if and only if
its statement can be written. -/
theorem ledger_conclude :
    let a := Routine.run (conclude logger (.text name) sql params start failure) w
    (sql.displayable = true → a.1 = .ok () ∧ ∃ elapsed, a.2.ledger =
        w.ledger.map fun l => (l.record (sighting name sql items elapsed r) w.files).1) ∧
      (sql.displayable = false → a.1.isOk = false ∧ a.2.Holding w.ledger w.files) := by
  intro a
  let elapsed := (w.nextReading.1 - start) * 1000.0
  have hmake : Observation.make (.text name) sql params (.real elapsed) (.bool failure.isNone)
      (errorOf r) = .ok (sighting name sql items elapsed r) := by
    simp [Observation.make, hitems, hnone, sighting]
  have ha : a = Routine.run (publish logger (sighting name sql items elapsed r))
      w.nextReading.2 := by
    simp only [a, conclude, now, Routine.run_bind, Routine.run_step, Routine.run_ofExcept, hwords,
      hmake, elapsed]
  have hline := isOk_line_sighting name sql hparams elapsed r
  obtain ⟨c, hc⟩ := w.nextReading_eq
  rw [hc] at ha
  rw [ha]
  cases hl : (sighting name sql items elapsed r).line with
  | ok line =>
      rw [hl] at hline
      obtain ⟨w', hrun, hpublished⟩ := run_publish logger hl { w with clock := c }
      rw [hrun, ← hline]
      exact ⟨fun _ => ⟨rfl, elapsed, hpublished.ledger⟩, by rintro ⟨⟩⟩
  | error f =>
      rw [hl] at hline
      rw [run_publish_of_no_line logger hl, ← hline]
      exact ⟨by rintro ⟨⟩, fun _ => ⟨rfl, rfl, rfl⟩⟩

end Conclusions

variable (logger : Logger) (name : Text) (sql : Value) {params : Value} {items : List Value}
variable (hitems : params.asItems = .ok items) (hparams : Value.allPrintable items = true)
variable {m : Routine α} {w w' : World} {r : Except Fault α}
include hitems hparams

/-- The ledger takes one observation of a measurable outcome whose statement can be written,
and none of any other, which the operation fails with. -/
theorem ledger_run
    (hrun : Routine.run m w.nextReading.2 = (r, w')) :
    let a := Routine.run (run logger (.text name) sql params m) w
    (Measurable r ∧ sql.displayable = true → a.1 = r ∧ ∃ elapsed, a.2.ledger =
        w'.ledger.map fun l => (l.record (sighting name sql items elapsed r) w'.files).1) ∧
      (¬ (Measurable r ∧ sql.displayable = true) →
        a.1.isOk = false ∧ a.2.Holding w'.ledger w'.files) := by
  intro a
  by_cases hr : Measurable r
  · obtain ⟨failure, hnone, hwords, hmeasured⟩ :=
      run_eq_conclude logger (.text name) sql params hrun hr
    obtain ⟨hshown, hhidden⟩ :=
      ledger_conclude logger name sql hitems hparams w.nextReading.1 hnone hwords w'
    rcases hdone : Routine.run (conclude logger (.text name) sql params w.nextReading.1 failure) w'
      with ⟨r', w''⟩
    rw [hdone] at hshown hhidden
    have ha : a = (r' >>= fun _ => r, w'') := by
      simp only [a, hmeasured, Routine.run_bind, hdone]
      cases r' <;> rfl
    rw [ha]
    by_cases hsql : sql.displayable = true
    · obtain ⟨hok, hledger⟩ := hshown hsql
      cases hok
      exact ⟨fun _ => ⟨rfl, hledger⟩, fun h => absurd ⟨hr, hsql⟩ h⟩
    · obtain ⟨hfailed, hstill⟩ := hhidden (Bool.eq_false_iff.mpr hsql)
      refine ⟨fun h => absurd h.2 hsql, fun _ => ⟨?_, hstill⟩⟩
      cases r' with
      | ok _ =>
          cases hfailed
      | error f =>
          rfl
  · refine ⟨fun h => absurd h.1 hr, fun _ => ?_⟩
    obtain ⟨f, rfl, hstop | ⟨hgo, g, hwords⟩⟩ := error_of_not_measurable hr
    · have ha : a = (.error f, w') := by
        simp [a, run, now, hrun, hstop]
      rw [ha]
      exact ⟨rfl, rfl, rfl⟩
    · have ha : a = (.error g, w'.nextReading.2) := by
        simp [a, run, now, hrun, hgo, run_conclude_wordless _ _ _ _ _ hwords]
      obtain ⟨c, hc⟩ := w'.nextReading_eq
      rw [ha, hc]
      exact ⟨rfl, rfl, rfl⟩

end Measure
end Datalink
