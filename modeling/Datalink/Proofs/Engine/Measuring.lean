import Datalink.Engine.Measure
import Datalink.Parameter
import Datalink.Proofs.Engine.Keeping

/-!
# What measuring adds to an operation

A measured operation is run between two readings of the clock.  What it did is written
about in one line and handed to the ledger as one observation, and a ledger that fails
costs a further line.  The ledger, what it holds and its files are any.

Results: parameters that can be bound can be written, so that an observation of a named
statement with such parameters has its line.  The outcome of a measured operation is that
of the operation itself exactly when a failure, if there is one, has words or asks the
program to stop.
-/

namespace Datalink

/-- An integer that fits into 64 bits is short enough to be written. -/
theorem Parameter.writable_of_fits
    {n : Int} (h : fits n = true) :
    Numeral.writable n = true := by
  have hlimit : 0x8000000000000000 < Nat.pow 10 Numeral.digitLimit := by
    decide +kernel
  rw [fits_iff] at h
  unfold least greatest at h
  simp only [Numeral.writable, decide_eq_true_eq]
  omega

/-- A value that can be bound can be written. -/
theorem Parameter.printable_of_bind
    {v b : Value} (h : bind v = .ok b) :
    v.printable = true := by
  induction v using bind.induct generalizing b with
  | case6 n hfits =>
      exact writable_of_fits hfits
  | case7 n hfits =>
      simp [bind, hfits] at h
  | case13 enumeration name v ih =>
      exact ih h
  | case14 form enumeration name v hform a hbind ih =>
      exact ih hbind
  | case15 form enumeration name v hform f hbind ih =>
      cases form with
      | plain =>
          exact absurd rfl hform
      | integer =>
          simp [bind, hbind] at h
      | textual =>
          simp [bind, hbind] at h
  | case16 v =>
      cases v <;> simp_all [bind]
  | _ =>
      rfl

/-- A list of values that can be bound can be written. -/
theorem Parameter.allPrintable_of_bind
    {vs : List Value} (h : ∀ v ∈ vs, (bind v).isOk = true) :
    Value.allPrintable vs = true := by
  induction vs with
  | nil =>
      rfl
  | cons v vs ih =>
      have hv := h v List.mem_cons_self
      have hvs := ih fun u hu => h u (List.mem_cons_of_mem v hu)
      cases hb : bind v with
      | error f =>
          rw [hb] at hv
          cases hv
      | ok b =>
          simp [Value.allPrintable, printable_of_bind hb, hvs]

namespace Measure

variable {α : Type}

/-- The text of an outcome's failure, or nothing. -/
def errorOf : Except Fault α → Value
  | .ok _ => .null
  | .error f => .text f.message

/-- An observation of a named statement with its parameters, of the milliseconds that it
took, and of its outcome. -/
def observation (name sql : Text) (params : List Value) (elapsed : Float)
    (r : Except Fault α) : Observation :=
  ⟨.text name, .text sql, params, .real elapsed, .bool r.isOk, errorOf r⟩

/-- What the ledger of a world says to an observation. -/
def recorded (o : Observation) (w : World) : Except Fault Unit :=
  match w.ledger with
  | none => .ok ()
  | some l => (l.record o w.files).2.2

/-- The line about a ledger that failed, if it failed. -/
def ledgerLines (logger : Logger) (o : Observation) : Except Fault Unit → List LogLine
  | .ok () => []
  | .error f => [⟨logger, .error, ledgerFailure o.name f⟩]

/-- What is added to a world by an observation: its line, the line about the ledger if that
failed, and what the ledger made of it.  But for the clock all else stays. -/
structure Published (logger : Logger) (o : Observation) (w w' : World) : Prop where
  lines : ∃ line, o.line = .ok line ∧
    w'.lines = w.lines ++ ⟨logger, .debug, line⟩ :: ledgerLines logger o (recorded o w)
  ledger : w'.ledger = w.ledger.map fun l => (l.record o w.files).1
  files : w'.files = w.ledger.elim w.files fun l => (l.record o w.files).2.1
  calls : w'.calls = w.calls
  answers : w'.answers = w.answers
  connected : w'.connected = w.connected
  phases : w'.phases = w.phases

/-- An observation of a statement that need not be a text. -/
def sighting (name : Text) (sql : Value) (params : List Value) (elapsed : Float)
    (r : Except Fault α) : Observation :=
  ⟨.text name, sql, params, .real elapsed, .bool r.isOk, errorOf r⟩

/-- If its parameters can be written, it has a line if and only if the statement can. -/
theorem isOk_line_sighting
    (name : Text) (sql : Value) {params : List Value} (hparams : Value.allPrintable params = true)
    (elapsed : Float) (r : Except Fault α) :
    (sighting name sql params elapsed r).line.isOk = sql.displayable := by
  have hended : ∃ ended, outcomeText (.bool r.isOk) (errorOf r) = .ok ended := by
    cases r with
    | ok a =>
        exact ⟨_, rfl⟩
    | error f =>
        exact ⟨_, rfl⟩
  have hlist : (Value.list params).words = .ok (Value.list params).display := by
    have hdisplay : (Value.list params).displayable = true := hparams
    simp [Value.words, hdisplay]
  obtain ⟨ended, hended⟩ := hended
  simp only [sighting, Observation.line, operationLine, hended, hlist, Value.words_text]
  unfold Value.words
  cases sql.displayable <;> rfl

/-- An observation whose parameters can be written has a line. -/
theorem line_observation
    (name sql : Text) {params : List Value} (hparams : Value.allPrintable params = true)
    (elapsed : Float) (r : Except Fault α) :
    ∃ line, (observation name sql params elapsed r).line = .ok line := by
  have hline : (observation name sql params elapsed r).line.isOk = true :=
    isOk_line_sighting name (.text sql) hparams elapsed r
  cases hl : (observation name sql params elapsed r).line with
  | ok line =>
      exact ⟨line, rfl⟩
  | error f =>
      rw [hl] at hline
      cases hline

/-- The ledger takes an observation once. -/
theorem run_enter
    (o : Observation) (w : World) :
    Routine.run (enter o) w =
      (.ok (recorded o w),
        { w with
          ledger := w.ledger.map fun l => (l.record o w.files).1
          files := w.ledger.elim w.files fun l => (l.record o w.files).2.1 }) := by
  unfold enter recorded
  rw [Routine.run_step]
  unfold World.onLedger
  cases hledger : w.ledger with
  | none =>
      simp only [Option.map_none, Option.elim_none]
      rw [← hledger]
  | some l =>
      rfl

theorem run_publish
    (logger : Logger) {o : Observation} {line : Text} (hline : o.line = .ok line) (w : World) :
    ∃ w', Routine.run (publish logger o) w = (.ok (), w') ∧ Published logger o w w' := by
  unfold publish
  simp only [hline, Routine.run_bind, Routine.run_ofExcept, note, Routine.run_change, run_enter]
  have hrecorded : recorded o (w.addLine ⟨logger, .debug, line⟩) = recorded o w := rfl
  rw [hrecorded]
  cases hr : recorded o w with
  | ok _ =>
      refine ⟨_, rfl, ⟨line, hline, ?_⟩, rfl, rfl, rfl, rfl, rfl, rfl⟩
      simp [World.addLine, hr, ledgerLines]
  | error f =>
      refine ⟨_, rfl, ⟨line, hline, ?_⟩, rfl, rfl, rfl, rfl, rfl, rfl⟩
      simp [World.addLine, hr, ledgerLines]

/-- A measured operation whose failure, if there is one, has words is concluded with the
line about it and its observation. -/
theorem run_conclude
    (logger : Logger) (name sql : Text) {params : Value} {items : List Value}
    (hitems : params.asItems = .ok items) (hparams : Value.allPrintable items = true)
    (start : Float) (r : Except Fault α) (failure : Option Fault)
    (hnone : failure.isNone = r.isOk) (hwords : failureText failure = .ok (errorOf r))
    (w : World) :
    let o := observation name sql items ((w.nextReading.1 - start) * 1000.0) r
    ∃ w', Routine.run (conclude logger (.text name) (.text sql) params start failure) w =
        (.ok (), w') ∧ Published logger o w w' := by
  intro o
  obtain ⟨line, hline⟩ := line_observation name sql hparams
    ((w.nextReading.1 - start) * 1000.0) r
  obtain ⟨c, hc⟩ := w.nextReading_eq
  obtain ⟨w', hrun, hpublished⟩ := run_publish logger hline w.nextReading.2
  have hmake : Observation.make (.text name) (.text sql) params
      (.real ((w.nextReading.1 - start) * 1000.0)) (.bool failure.isNone) (errorOf r) =
        .ok o := by
    simp [Observation.make, hitems, hnone, o, observation]
  refine ⟨w', ?_, ?_⟩
  · simp only [conclude, now, Routine.run_bind, Routine.run_step, Routine.run_ofExcept, hwords,
      hmake]
    exact hrun
  · -- A reading of the clock changes nothing that an observation is added to.
    rw [hc] at hpublished
    exact { hpublished with }

/-- A failure without words cannot be concluded, and nothing is written about it. -/
theorem run_conclude_wordless
    (logger : Logger) (name sql params : Value) (start : Float) {f g : Fault}
    (hwords : f.words = .error g) (w : World) :
    Routine.run (conclude logger name sql params start (some f)) w =
      (.error g, w.nextReading.2) := by
  simp [conclude, now, failureText, hwords]

/-- The fault of a failure without words is another one, since it has words. -/
theorem ne_of_words_eq_error
    {f g : Fault} (hwords : f.words = .error g) :
    g ≠ f := by
  rintro rfl
  have hworded : g.words = .ok g.message := (Fault.internal_of_words_eq_error hwords).worded
  rw [hworded] at hwords
  cases hwords

/-- Whether an outcome is one to be measured: a result, or a failure with words that does
not ask the program to stop. -/
def Measurable : Except Fault α → Prop
  | .ok _ => True
  | .error f => f.isInterrupt = false ∧ f.words.isOk = true

/-- An outcome that is not to be measured is a failure that asks the program to stop, or one
without words. -/
theorem error_of_not_measurable
    {r : Except Fault α} (h : ¬ Measurable r) :
    ∃ f, r = .error f ∧
      (f.isInterrupt = true ∨ f.isInterrupt = false ∧ ∃ g, f.words = .error g) := by
  cases r with
  | ok a =>
      exact absurd trivial h
  | error f =>
      refine ⟨f, rfl, ?_⟩
      by_cases hstop : f.isInterrupt = true
      · exact .inl hstop
      · have hgo := Bool.eq_false_iff.mpr hstop
        cases hwords : f.words with
        | ok text =>
            exact absurd ⟨hgo, by rw [hwords]; rfl⟩ h
        | error g =>
            exact .inr ⟨hgo, g, rfl⟩

/-- A fault as it leaves a measured operation: without words it gives way to another one,
unless it asks the program to stop. -/
def leaving (f : Fault) : Fault :=
  if f.isInterrupt then f
  else
    match f.words with
    | .ok _ => f
    | .error g => g

theorem leaving_of_worded
    {f : Fault} (h : f.Worded) :
    leaving f = f := by
  have hwords : f.words = .ok f.message := h
  simp [leaving, hwords]

theorem mapError_leaving
    {r : Except Fault α} (h : Measurable r) :
    r.mapError leaving = r := by
  cases r with
  | ok a =>
      rfl
  | error f =>
      exact congrArg Except.error (leaving_of_worded (f.worded_iff.mpr h.2))

theorem logger_of_mem_ledgerLines
    {logger : Logger} {o : Observation} {r : Except Fault Unit} {l : LogLine}
    (h : l ∈ ledgerLines logger o r) :
    l.logger = logger := by
  cases r with
  | ok _ =>
      cases h
  | error f =>
      rw [List.mem_singleton.mp h]

/-- A measurable outcome is concluded, and then passed on. -/
theorem run_eq_conclude
    (logger : Logger) (name sql params : Value) {m : Routine α} {w w' : World}
    {r : Except Fault α} (hrun : Routine.run m w.nextReading.2 = (r, w')) (hr : Measurable r) :
    ∃ failure : Option Fault,
      failure.isNone = r.isOk ∧ failureText failure = .ok (errorOf r) ∧
        Routine.run (run logger name sql params m) w =
          Routine.run (conclude logger name sql params w.nextReading.1 failure >>= fun _ =>
            Routine.ofExcept r) w' := by
  cases r with
  | ok a =>
      exact ⟨none, rfl, rfl, by simp [run, now, hrun]⟩
  | error f =>
      obtain ⟨hgo, hok⟩ := hr
      refine ⟨some f, rfl, ?_, by simp [run, now, hrun, hgo]⟩
      cases hf : f.words with
      | ok text =>
          have hworded : f.words = .ok f.message := Fault.worded_of_words_eq_ok hf
          simp [failureText, hworded, errorOf]
      | error g =>
          rw [hf] at hok
          cases hok

section Outcomes

variable (logger : Logger) (name sql : Text) {params : Value} {items : List Value}
variable {m : Routine α} {w w' : World} {r : Except Fault α} {f g : Fault}

/-- A measurable outcome is passed on, and one observation of it is published. -/
theorem run_measurable
    (hitems : params.asItems = .ok items) (hparams : Value.allPrintable items = true)
    (hrun : Routine.run m w.nextReading.2 = (r, w')) (hr : Measurable r) :
    let o := observation name sql items ((w'.nextReading.1 - w.nextReading.1) * 1000.0) r
    ∃ w'', Routine.run (run logger (.text name) (.text sql) params m) w = (r, w'') ∧
      Published logger o w' w'' := by
  intro o
  obtain ⟨failure, hnone, hwords, hmeasured⟩ :=
    run_eq_conclude logger (.text name) (.text sql) params hrun hr
  obtain ⟨w'', hdone, hpublished⟩ :=
    run_conclude logger name sql hitems hparams w.nextReading.1 r failure hnone hwords w'
  refine ⟨w'', ?_, hpublished⟩
  rw [hmeasured, Routine.run_bind, hdone]
  rfl

/-- A request to stop the program is passed on, and nothing is added. -/
theorem run_interrupted
    (hrun : Routine.run m w.nextReading.2 = (.error f, w')) (hstop : f.isInterrupt = true) :
    Routine.run (run logger (.text name) (.text sql) params m) w = (.error f, w') := by
  simp [run, now, hrun, hstop]

/-- A failure without words gives way to another one, and nothing is added. -/
theorem run_wordless
    (hrun : Routine.run m w.nextReading.2 = (.error f, w')) (hgo : f.isInterrupt = false)
    (hwords : f.words = .error g) :
    Routine.run (run logger (.text name) (.text sql) params m) w =
      (.error g, w'.nextReading.2) := by
  simp [run, now, hrun, hgo, run_conclude_wordless _ _ _ _ _ hwords]

/-- A measured operation ends as it would have ended, but for the faults that give way to
others.  It adds lines to the log of measurements, and no calls. -/
theorem run_measured
    (hitems : params.asItems = .ok items) (hparams : Value.allPrintable items = true)
    (hrun : Routine.run m w.nextReading.2 = (r, w')) :
    ∃ w'' ls, Routine.run (run logger (.text name) (.text sql) params m) w =
        (r.mapError leaving, w'') ∧
      w''.calls = w'.calls ∧ w''.connected = w'.connected ∧ w''.lines = w'.lines ++ ls ∧
      ∀ l ∈ ls, l.logger = logger := by
  by_cases hr : Measurable r
  · obtain ⟨w'', hmeasured, hpublished⟩ :=
      run_measurable logger name sql hitems hparams hrun hr
    obtain ⟨line, -, hlines⟩ := hpublished.lines
    refine ⟨w'', _, ?_, hpublished.calls, hpublished.connected, hlines, ?_⟩
    · rw [hmeasured, mapError_leaving hr]
    · intro l hl
      rcases List.mem_cons.mp hl with rfl | hl
      · rfl
      · exact logger_of_mem_ledgerLines hl
  · obtain ⟨f, rfl, hstop | ⟨hgo, g, hwords⟩⟩ := error_of_not_measurable hr
    · have hleaving : leaving f = f := by
        simp [leaving, hstop]
      refine ⟨w', [], ?_, rfl, rfl, (List.append_nil _).symm, by simp⟩
      rw [run_interrupted logger name sql hrun hstop]
      change _ = (Except.error (leaving f), w')
      rw [hleaving]
    · have hleaving : leaving f = g := by
        simp [leaving, hgo, hwords]
      obtain ⟨c, hc⟩ := w'.nextReading_eq
      refine ⟨w'.nextReading.2, [], ?_, by rw [hc], by rw [hc], by simp [hc], by simp⟩
      rw [run_wordless logger name sql hrun hgo hwords]
      change _ = (Except.error (leaving f), _)
      rw [hleaving]

/-- The outcome of a measured operation is that of the operation itself if and only if a
failure, if there is one, has words or asks the program to stop.  A measurable outcome adds
one line, one observation to the ledger, if there is one, and a line more if and only if the
ledger fails; any other outcome adds nothing. -/
theorem measured_outcome_iff
    (hparams : params = .list items ∨ params = .tuple items)
    (hbound : ∀ p ∈ items, (Parameter.bind p).isOk = true) (m : Routine α) (w : World) :
    let b := Routine.run m w.nextReading.2
    let a := Routine.run (run logger (.text name) (.text sql) params m) w
    let o := observation name sql items
      ((b.2.nextReading.1 - w.nextReading.1) * 1000.0) b.1
    (a.1 = b.1 ↔ ∀ f, b.1 = .error f → f.isInterrupt = true ∨ f.words.isOk = true) ∧
      (Measurable b.1 → Published logger o b.2 a.2) ∧
      (¬ Measurable b.1 → a.2 = b.2 ∨ a.2 = b.2.nextReading.2) := by
  intro b a o
  have hitems : params.asItems = .ok items := by
    rcases hparams with rfl | rfl <;> rfl
  have hrun : Routine.run m w.nextReading.2 = (b.1, b.2) := rfl
  by_cases hb : Measurable b.1
  · obtain ⟨w', hmeasured, hpublished⟩ :=
      run_measurable logger name sql hitems (Parameter.allPrintable_of_bind hbound) hrun hb
    have ha : a = (b.1, w') := hmeasured
    rw [ha]
    refine ⟨⟨fun _ f hf => ?_, fun _ => rfl⟩, fun _ => hpublished, fun hno => absurd hb hno⟩
    rw [hf] at hb
    exact .inr hb.2
  · obtain ⟨f, hf, hstop | ⟨hgo, g, hwords⟩⟩ := error_of_not_measurable hb
    · rw [hf] at hrun
      have ha : a = (b.1, b.2) := by
        rw [hf]
        exact run_interrupted logger name sql hrun hstop
      rw [ha]
      refine ⟨⟨fun _ f' hf' => ?_, fun _ => rfl⟩, fun hgo => absurd hgo hb, fun _ => .inl rfl⟩
      obtain rfl : f = f' := Except.error.inj (hf.symm.trans hf')
      exact .inl hstop
    · rw [hf] at hrun
      have ha : a = (.error g, b.2.nextReading.2) :=
        run_wordless logger name sql hrun hgo hwords
      rw [ha, hf]
      refine ⟨⟨fun hsame => ?_, fun htold => ?_⟩, fun hyes => absurd (hf ▸ hyes) hb,
        fun _ => .inr rfl⟩
      · exact absurd (Except.error.inj hsame) (ne_of_words_eq_error hwords)
      · rcases htold f rfl with h | h
        · rw [hgo] at h
          cases h
        · rw [hwords] at h
          cases h

end Outcomes

/-- A world with a ledger that writes every observation out at once, to a place that is a
directory. -/
def blockedLedger : World :=
  let path : Path := ⟨["m.json"], false⟩
  { (default : World) with
    ledger := some (Ledger.empty 1 (some ⟨path, .append, .json⟩))
    files := (FileTree.empty ⟨"/root", 5, 1⟩).put path .directory }

/-- A failure of the engine. -/
def lockedFault : Fault := .incident ⟨"OperationalError", .text "database is locked"⟩

/-- A failure of the engine is passed on although the ledger fails as well, which costs a
line. -/
theorem locked_behind_blocked_ledger :
    let params : List Value := [.int 1, .text "x", .bytes .view [0]]
    let m : Routine Value := Routine.fail lockedFault
    let a := Routine.run (run .measure (.text "n") (.text "s") (.tuple params) m) blockedLedger
    (∀ p ∈ params, (Parameter.bind p).isOk = true) ∧ a.1 = .error lockedFault ∧
      a.2.lines.map LogLine.level = [.debug, .error] := by
  intro params m a
  have hbound : ∀ p ∈ params, (Parameter.bind p).isOk = true := by
    decide +kernel
  have hworded : lockedFault.words.isOk = true := by
    decide +kernel
  obtain ⟨hsame, hpublished, -⟩ := measured_outcome_iff .measure "n" "s" (.inr rfl) hbound
    m blockedLedger
  refine ⟨hbound, hsame.mpr ?_, ?_⟩
  · rintro f ⟨⟩
    exact .inr hworded
  · obtain ⟨line, -, hlines⟩ := (hpublished ⟨by decide +kernel, hworded⟩).lines
    rw [hlines, List.map_append, List.map_cons]
    change [] ++ Level.debug :: _ = _
    decide +kernel

/-- A failure that comes with a number too long to be written, which is a member of an
enumeration. -/
def wordlessFault : Fault :=
  .incident ⟨"RuntimeError", .member .integer "C" "M" (.int (Nat.pow 10 Numeral.digitLimit))⟩

/-- A failure without words is not passed on. -/
theorem wordless_not_passed_on :
    ¬ ∀ (logger : Logger) (name sql : Text) (items : List Value) (m : Routine Value)
        (w : World),
      (∀ p ∈ items, (Parameter.bind p).isOk = true) →
        (Routine.run (run logger (.text name) (.text sql) (.tuple items) m) w).1 =
          (Routine.run m w.nextReading.2).1 := by
  intro hclaim
  have hpassed := hclaim .measure "n" "s" [] (Routine.fail wordlessFault) default (by simp)
  have hwordless : wordlessFault.words.isOk = false := by
    decide +kernel
  cases hwords : wordlessFault.words with
  | ok text =>
      rw [hwords] at hwordless
      cases hwordless
  | error g =>
      have hgo : wordlessFault.isInterrupt = false := by
        decide +kernel
      rw [run_wordless .measure "n" "s" (Routine.run_fail _ _) hgo hwords] at hpassed
      exact ne_of_words_eq_error hwords (Except.error.inj hpassed)

end Measure

end Datalink
