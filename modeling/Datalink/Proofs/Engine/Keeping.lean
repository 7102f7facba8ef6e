import Datalink.Engine.Basic
import Datalink.Engine.Measure

/-!
# What routines keep

A routine keeps a property of worlds if it ends in a world with the property whenever
it starts in one.  Along with it go a property of its results and one of its failures.

A property is undisturbed if lines in logs, readings of the clock and what the ledger does
do not break it, and steady if some calls to the engine and its answers do not either.  Of
lines of information there may be some that break it.  In a setting the failures of the
engine and those of this library have a property as well.

Results: in a setting the calls to the engine keep the property, and measuring an operation
keeps what is undisturbed.  A measured operation that fails, and is not asked to stop,
fails with a fault that has words.
-/

namespace Datalink

namespace Fault

/-- Whether a fault is neither reported from outside nor about a text that has no
encoding, as those are that may come from the engine. -/
def Internal : Fault → Prop
  | incident _ => False
  | unencodable _ => False
  | _ => True

/-- Whether a fault has words. -/
def Worded (f : Fault) : Prop := f.words = .ok f.message

/-- Whether a fault has words unless it asks the program to stop.  The fault of a measured
operation is of this kind. -/
def Measured (f : Fault) : Prop := f.isInterrupt = false → f.Worded

theorem Internal.worded
    {f : Fault} (h : f.Internal) :
    f.Worded := by
  cases f with
  | incident i =>
      cases h
  | _ =>
      rfl

theorem Internal.not_interrupt
    {f : Fault} (h : f.Internal) :
    f.isInterrupt = false := by
  cases f with
  | incident i =>
      cases h
  | _ =>
      rfl

theorem Internal.not_engineFailure
    {f : Fault} (h : f.Internal) :
    f.isEngineFailure = false := by
  cases f with
  | incident i =>
      cases h
  | unencodable run =>
      cases h
  | _ =>
      rfl

/-- The words of a fault are its message. -/
theorem worded_of_words_eq_ok
    {f : Fault} {t : Text} (h : f.words = .ok t) :
    f.Worded := by
  unfold Worded
  cases f with
  | incident i =>
      by_cases hi : i.wordable = true
      · exact if_pos hi
      · have herror : (incident i).words = .error digitLimit := if_neg hi
        rw [herror] at h
        cases h
  | _ =>
      rfl

theorem worded_iff
    (f : Fault) :
    f.Worded ↔ f.words.isOk = true := by
  constructor
  · intro h
    have hwords : f.words = .ok f.message := h
    rw [hwords]
    rfl
  · intro h
    cases hwords : f.words with
    | ok t =>
        exact worded_of_words_eq_ok hwords
    | error g =>
        rw [hwords] at h
        cases h

instance : DecidablePred Worded := fun f => decidable_of_iff _ f.worded_iff.symm

/-- A fault without words gives way to the one about the number of digits. -/
theorem eq_digitLimit_of_words_eq_error
    {f g : Fault} (h : f.words = .error g) :
    g = .digitLimit := by
  cases f with
  | incident i =>
      by_cases hi : i.wordable = true
      · have hok : (incident i).words = .ok i.message := if_pos hi
        rw [hok] at h
        cases h
      · have herror : (incident i).words = .error digitLimit := if_neg hi
        rw [herror] at h
        cases h
        rfl
  | _ =>
      cases h

theorem internal_of_words_eq_error
    {f g : Fault} (h : f.words = .error g) :
    g.Internal := by
  rw [eq_digitLimit_of_words_eq_error h]
  trivial

end Fault

/-- A result that has a property, or a failure that has another. -/
def Outcome {α : Type} (R : α → Prop) (Q : Fault → Prop) : Except Fault α → Prop
  | .ok a => R a
  | .error f => Q f

namespace Routine

variable {α β : Type} {P : World → Prop} {R S : α → Prop} {T : β → Prop} {Q Q' : Fault → Prop}

/-- In worlds with a property a routine ends in such a world, with a result or a failure
that has a property of its own. -/
structure Keeps (P : World → Prop) (R : α → Prop) (Q : Fault → Prop) (m : Routine α) :
    Prop where
  world : ∀ w, P w → P (run m w).2
  outcome : ∀ w, P w → Outcome R Q (run m w).1

namespace Keeps

theorem result
    {a : α} (h : R a) :
    Keeps P R Q (.result a) where
  world _ hw := hw
  outcome _ _ := h

theorem pure
    {a : α} (h : R a) :
    Keeps P R Q (Pure.pure a) :=
  result h

theorem fail
    {f : Fault} (h : Q f) :
    Keeps P R Q (.fail f) where
  world _ hw := hw
  outcome _ _ := h

theorem ofExcept
    {r : Except Fault α} (h : Outcome R Q r) :
    Keeps P R Q (.ofExcept r) where
  world _ hw := hw
  outcome _ _ := h

theorem step
    {f : World → α × World} (hworld : ∀ w, P w → P (f w).2) (hresult : ∀ w, P w → R (f w).1) :
    Keeps P R Q (.step f) where
  world := hworld
  outcome := hresult

theorem change
    {f : World → World} (hworld : ∀ w, P w → P (f w)) :
    Keeps P (fun _ => True) Q (.change f) :=
  step hworld fun _ _ => trivial

theorem wait
    (on : Wait) :
    Keeps P (fun _ => True) Q (.wait on) where
  world _ hw := hw
  outcome _ _ := trivial

theorem of_run
    {m : Routine α} (h : ∀ w, P w → P (run m w).2 ∧ Outcome R Q (run m w).1) :
    Keeps P R Q m where
  world w hw := (h w hw).1
  outcome w hw := (h w hw).2

theorem bind
    {m : Routine α} {next : α → Routine β} (hm : Keeps P S Q m)
    (hnext : ∀ a, S a → Keeps P T Q (next a)) :
    Keeps P T Q (m >>= next) := by
  refine of_run fun w hw => ?_
  have hworld := hm.world w hw
  have houtcome := hm.outcome w hw
  rw [run_bind]
  rcases hrun : run m w with ⟨r, w'⟩
  rw [hrun] at hworld houtcome
  cases r with
  | ok a =>
      have hrest := hnext a houtcome
      exact ⟨hrest.world w' hworld, hrest.outcome w' hworld⟩
  | error f =>
      exact ⟨hworld, houtcome⟩

theorem attempt
    {m : Routine α} (hm : Keeps P R Q m) :
    Keeps P (Outcome R Q) Q' m.attempt where
  world w hw := by
    rw [run_attempt]
    exact hm.world w hw
  outcome w hw := by
    rw [run_attempt]
    exact hm.outcome w hw

/-- Weaker properties of results and failures. -/
theorem mono
    {m : Routine α} (hm : Keeps P R Q m) (hR : ∀ a, R a → S a) (hQ : ∀ f, Q f → Q' f) :
    Keeps P S Q' m where
  world := hm.world
  outcome w hw := by
    have h := hm.outcome w hw
    revert h
    cases (run m w).1 with
    | ok a =>
        exact hR a
    | error f =>
        exact hQ f

theorem followedBy
    {m : Routine α} {last : Routine Unit} (hm : Keeps P R Q m)
    (hlast : Keeps P (fun _ => True) Q last) :
    Keeps P R Q (m.followedBy last) :=
  hm.attempt.bind fun _ hr => hlast.bind fun _ _ => ofExcept hr

end Keeps

end Routine

/-- Whatever fails here fails on its own account, not on that of the engine. -/
def FailsInternally {α : Type} (r : Except Fault α) : Prop :=
  Outcome (fun _ => True) Fault.Internal r

namespace FailsInternally

variable {α β : Type}

theorem bind
    {r : Except Fault α} {next : α → Except Fault β} (hr : FailsInternally r)
    (hnext : ∀ a, FailsInternally (next a)) :
    FailsInternally (r >>= next) := by
  cases r with
  | ok a =>
      exact hnext a
  | error f =>
      exact hr

theorem error
    {r : Except Fault α} {f : Fault} (hr : FailsInternally r) (hf : r = .error f) :
    f.Internal := by
  rw [hf] at hr
  exact hr

theorem outcome
    {r : Except Fault α} (h : FailsInternally r) {Q : Fault → Prop}
    (hQ : ∀ f : Fault, f.Internal → Q f) :
    Outcome (fun _ => True) Q r := by
  cases r with
  | ok a =>
      trivial
  | error f =>
      exact hQ f h

end FailsInternally

theorem Fault.words_failsInternally
    (f : Fault) :
    FailsInternally f.words := by
  cases hf : f.words with
  | ok t =>
      trivial
  | error g =>
      exact Fault.internal_of_words_eq_error hf

theorem Value.words_failsInternally
    (v : Value) :
    FailsInternally v.words := by
  unfold words
  split
  · trivial
  · trivial

theorem Value.printed_failsInternally
    (v : Value) :
    FailsInternally v.printed := by
  unfold printed
  split
  · trivial
  · trivial

theorem Value.asItems_failsInternally
    (v : Value) :
    FailsInternally v.asItems := by
  unfold asItems
  split
  · rename_i f hf
    unfold lengthFault? at hf
    split at hf
    · cases hf
    · split at hf <;> cases hf <;> trivial
  · split
    · trivial
    · trivial

theorem Observation.make_failsInternally
    (name sql params elapsed success error : Value) :
    FailsInternally (make name sql params elapsed success error) := by
  have hparams := params.asItems_failsInternally
  unfold make
  cases hitems : params.asItems with
  | ok items =>
      trivial
  | error f =>
      exact hparams.error hitems

theorem millisecondsText_failsInternally
    (v : Value) :
    FailsInternally (millisecondsText v) := by
  unfold millisecondsText decimalMilliseconds
  repeat' split
  all_goals
    trivial

theorem Observation.line_failsInternally
    (o : Observation) :
    FailsInternally o.line := by
  have hended : FailsInternally (outcomeText o.success o.error) := by
    unfold outcomeText
    split
    · trivial
    · have herror := o.error.words_failsInternally
      cases hwords : o.error.words with
      | ok t =>
          trivial
      | error f =>
          exact herror.error hwords
  exact hended.bind fun _ => o.name.words_failsInternally.bind fun _ =>
    (millisecondsText_failsInternally _).bind fun _ =>
      o.sql.words_failsInternally.bind fun _ =>
        (Value.words_failsInternally _).bind fun _ => trivial

/-- A property of worlds that nothing breaks which an operation does beside its calls to
the engine, if its lines of information have texts of some kind. -/
structure UndisturbedBy (I : Text → Prop) (P : World → Prop) : Prop where
  addLine : ∀ w line, (line.level = .info → I line.text) → P w → P (w.addLine line)
  nextReading : ∀ w, P w → P w.nextReading.2
  onLedger : ∀ w f, P w → P (w.onLedger f).2

/-- A property of worlds that nothing breaks which an operation does beside its calls to
the engine. -/
structure Undisturbed (P : World → Prop) : Prop where
  addLine : ∀ w line, P w → P (w.addLine line)
  nextReading : ∀ w, P w → P w.nextReading.2
  onLedger : ∀ w f, P w → P (w.onLedger f).2

/-- A property of worlds that some calls to the engine do not break either. -/
structure Steady (A : EngineCall → Prop) (P : World → Prop) : Prop extends Undisturbed P where
  addCall : ∀ w c, A c → P w → P (w.addCall c)
  nextAnswer : ∀ w, P w → P w.nextAnswer.2

/-- What is only about the connection, the calls and the transactions is steady under the
calls that do not break it. -/
theorem Steady.of_core
    {A : EngineCall → Prop} {P : World → Prop}
    (hcore : ∀ w w' : World, w'.connected = w.connected → w'.calls = w.calls →
      w'.phases = w.phases → P w → P w')
    (hcall : ∀ w c, A c → P w → P (w.addCall c)) :
    Steady A P where
  addLine w line := hcore w (w.addLine line) rfl rfl rfl
  nextReading w := by
    obtain ⟨c, hc⟩ := w.nextReading_eq
    rw [hc]
    exact hcore w _ rfl rfl rfl
  onLedger w f := by
    obtain ⟨ledger, files, hledger⟩ := w.onLedger_eq f
    rw [hledger]
    exact hcore w _ rfl rfl rfl
  addCall := hcall
  nextAnswer w := by
    obtain ⟨answers, hanswers⟩ := w.nextAnswer_eq
    rw [hanswers]
    exact hcore w _ rfl rfl rfl

/-- An answer whose failures have a property when they leave the engine. -/
def Answered (Q : Fault → Prop) (a : Answer) : Prop :=
  ∀ i, a.failure = some i ∨ a.cursorFailures.onFetch = some i ∨
    a.cursorFailures.onClose = some i → Q (.ofIncident i)

/-- The failures of an answer, when it is given and when its cursor is used. -/
def Answer.incidents (a : Answer) : List Incident :=
  a.failure.toList ++ a.cursorFailures.onFetch.toList ++ a.cursorFailures.onClose.toList

theorem answered_iff
    {Q : Fault → Prop} {a : Answer} :
    Answered Q a ↔ ∀ i ∈ a.incidents, Q (.ofIncident i) := by
  simp only [Answered, Answer.incidents, List.mem_append, Option.mem_toList, or_assoc]

instance (Q : Fault → Prop) [DecidablePred Q] (a : Answer) : Decidable (Answered Q a) :=
  decidable_of_iff _ answered_iff.symm

/-- Whether every failure in an answer has words.  The engine makes its failures of texts of
its own, so that none of them comes with a number. -/
def Answer.Worded : Answer → Prop := Answered Fault.Worded

/-- Whether every failure that the engine has still to answer with has words. -/
def World.Worded (w : World) : Prop := ∀ a ∈ w.answers, a.Worded

instance (a : Answer) : Decidable a.Worded := inferInstanceAs (Decidable (Answered _ a))

instance (w : World) : Decidable w.Worded :=
  inferInstanceAs (Decidable (∀ a ∈ w.answers, a.Worded))

/-- A steady property of worlds, and a property of the faults that there may be. -/
structure Setting (A : EngineCall → Prop) (P : World → Prop) (Q : Fault → Prop) : Prop
    extends Steady A P where
  answered : ∀ w, P w → Answered Q w.nextAnswer.1
  unencodable : ∀ run, Q (.unencodable run)
  internal : ∀ f : Fault, f.Internal → Q f

/-- A property of worlds that some calls to the engine do not break, and a property of the
faults that there may be. -/
structure Calling (A : EngineCall → Prop) (P : World → Prop) (Q : Fault → Prop) : Prop where
  addCall : ∀ w c, A c → P w → P (w.addCall c)
  nextAnswer : ∀ w, P w → P w.nextAnswer.2
  answered : ∀ w, P w → Answered Q w.nextAnswer.1
  unencodable : ∀ run, Q (.unencodable run)
  internal : ∀ f : Fault, f.Internal → Q f

/-- A property of worlds that lines in logs do not break either.  What is sent to the engine,
before it is measured, needs no more. -/
structure Dealing (A : EngineCall → Prop) (P : World → Prop) (Q : Fault → Prop) : Prop
    extends Calling A P Q where
  addLine : ∀ w line, P w → P (w.addLine line)

theorem Setting.dealing
    {A : EngineCall → Prop} {P : World → Prop} {Q : Fault → Prop} (h : Setting A P Q) :
    Dealing A P Q :=
  { h with }

/-- Whether the ledger and its files are certain ones. -/
def World.Holding (ledger : Option Ledger) (files : FileTree) (w : World) : Prop :=
  w.ledger = ledger ∧ w.files = files

/-- Neither lines nor calls have anything to do with the ledger. -/
theorem dealing_holding
    (ledger : Option Ledger) (files : FileTree) :
    Dealing (fun _ => True) (World.Holding ledger files) fun _ => True where
  addLine _ _ h := h
  addCall _ _ _ h := h
  nextAnswer w h := by
    obtain ⟨answers, hanswers⟩ := w.nextAnswer_eq
    rw [hanswers]
    exact h
  answered _ _ _ _ := trivial
  unencodable _ := trivial
  internal _ _ := trivial

open Routine (Keeps)

theorem Routine.Keeps.note
    {P : World → Prop} {Q : Fault → Prop} (h : ∀ w line, P w → P (w.addLine line))
    (logger : Logger) (level : Level) (text : Text) :
    Keeps P (fun _ => True) Q (Measure.note logger level text) :=
  .change fun w => h w _

/-- A setting in which nothing is said about faults. -/
theorem Steady.setting
    {A : EngineCall → Prop} {P : World → Prop} (h : Steady A P) :
    Setting A P fun _ => True :=
  { h with
    answered := fun _ _ _ _ => trivial
    unencodable := fun _ => trivial
    internal := fun _ _ => trivial }

namespace UndisturbedBy

variable {I : Text → Prop} {P : World → Prop} {Q : Fault → Prop} (h : UndisturbedBy I P)
include h

theorem note
    (logger : Logger) (level : Level) (text : Text) (htext : level = .info → I text) :
    Keeps P (fun _ => True) Q (Measure.note logger level text) :=
  .change fun w => h.addLine w _ htext

theorem now :
    Keeps P (fun _ => True) Q Measure.now :=
  .step h.nextReading fun _ _ => trivial

/-- The line about an observation, and the observation in the ledger. -/
theorem publish
    (logger : Logger) (o : Observation) :
    Keeps P (fun _ => True) Fault.Internal (Measure.publish logger o) := by
  refine Keeps.bind (.ofExcept o.line_failsInternally) fun line _ => ?_
  refine (h.note logger .debug line nofun).bind fun _ _ => ?_
  have henter : Keeps P (fun _ => True) Fault.Internal (Measure.enter o) :=
    .step (fun w => h.onLedger w _) fun _ _ => trivial
  refine henter.bind fun r _ => ?_
  cases r with
  | ok _ =>
      exact .pure trivial
  | error f =>
      exact h.note logger .error _ nofun

/-- A measured operation cannot be concluded unless its failure has words. -/
theorem conclude
    (logger : Logger) (name sql params : Value) (start : Float) (failure : Option Fault) :
    Keeps P (fun _ => ∀ f, failure = some f → f.Worded) Fault.Internal
      (Measure.conclude logger name sql params start failure) := by
  have hwords : Outcome (fun _ => ∀ f, failure = some f → f.Worded) Fault.Internal
      (Measure.failureText failure) := by
    cases failure with
    | none =>
        rintro f ⟨⟩
    | some f =>
        rw [Measure.failureText]
        cases hf : f.words with
        | ok t =>
            rintro g ⟨⟩
            exact Fault.worded_of_words_eq_ok hf
        | error g =>
            exact Fault.internal_of_words_eq_error hf
  refine h.now.bind fun stop _ => ?_
  refine Keeps.bind (.ofExcept hwords) fun error herror => ?_
  refine Keeps.bind (.ofExcept (Observation.make_failsInternally ..)) fun o _ => ?_
  exact (h.publish logger o).mono (fun _ _ => herror) fun _ hf => hf

/-- A measured operation fails as it would have failed without being measured, or when
it is concluded.  Either way its failure has words, unless it asks the program to stop. -/
theorem measured
    {α : Type} {R : α → Prop} {m : Routine α} (hm : Keeps P R Q m)
    (hQ : ∀ f : Fault, f.Internal → Q f) (logger : Logger) (name sql params : Value) :
    Keeps P R (fun f => Q f ∧ f.Measured) (Measure.run logger name sql params m) := by
  have hinternal : ∀ f : Fault, f.Internal → Q f ∧ f.Measured :=
    fun f hf => ⟨hQ f hf, fun _ => hf.worded⟩
  refine h.now.bind fun start _ => hm.attempt.bind fun r hr => ?_
  cases r with
  | ok a =>
      have hconclude := h.conclude logger name sql params start none
      exact (hconclude.mono (fun _ _ => trivial) hinternal).bind
        fun _ (_ : True) => .pure hr
  | error f =>
      change Keeps P R _ (if f.isInterrupt then Routine.fail f else _)
      split
      · rename_i hstop
        refine .fail ⟨hr, fun hgo => ?_⟩
        rw [hstop] at hgo
        cases hgo
      · have hconclude := h.conclude logger name sql params start (some f)
        exact (hconclude.mono (fun _ hwords => hwords) hinternal).bind
          fun _ hwords => .fail ⟨hr, fun _ => hwords f rfl⟩

end UndisturbedBy

namespace Undisturbed

variable {P : World → Prop} {Q : Fault → Prop} (h : Undisturbed P)
include h

theorem undisturbedBy :
    UndisturbedBy (fun _ => True) P :=
  { h with addLine := fun w line _ => h.addLine w line }

theorem note
    (logger : Logger) (level : Level) (text : Text) :
    Keeps P (fun _ => True) Q (Measure.note logger level text) :=
  .note h.addLine ..

theorem conclude
    (logger : Logger) (name sql params : Value) (start : Float) (failure : Option Fault) :
    Keeps P (fun _ => ∀ f, failure = some f → f.Worded) Fault.Internal
      (Measure.conclude logger name sql params start failure) :=
  h.undisturbedBy.conclude logger name sql params start failure

theorem measured
    {α : Type} {R : α → Prop} {m : Routine α} (hm : Keeps P R Q m)
    (hQ : ∀ f : Fault, f.Internal → Q f) (logger : Logger) (name sql params : Value) :
    Keeps P R (fun f => Q f ∧ f.Measured) (Measure.run logger name sql params m) :=
  h.undisturbedBy.measured hm hQ logger name sql params

end Undisturbed

/-- A statement without an encoding is a text with a surrogate, or no text at all. -/
theorem Engine.unencodable_or_internal
    {sql : Value} {f : Fault} (h : encodingFault? sql = some f) :
    (∃ run, f = .unencodable run) ∨ f.Internal := by
  unfold encodingFault? Value.asEncodable at h
  cases hface : sql.face with
  | text t =>
      rw [hface] at h
      obtain ⟨run, -, rfl⟩ := Option.map_eq_some_iff.mp h
      exact .inl ⟨run, rfl⟩
  | _ =>
      rw [hface] at h
      cases h
      exact .inr trivial

namespace Calling

variable {α : Type} {A : EngineCall → Prop} {P : World → Prop} {R : α → Prop}
variable {Q : Fault → Prop}

theorem raise
    {i? : Option Incident} (hi : ∀ i, i? = some i → Q (.ofIncident i)) :
    Keeps P (fun _ => True) Q (Engine.raise? i?) := by
  cases i? with
  | none =>
      exact .result trivial
  | some i =>
      exact .fail (hi i rfl)

variable (h : Calling A P Q)
include h

theorem report
    {c : EngineCall} (hc : A c) :
    Keeps P (fun _ => True) Q (Engine.report c) :=
  .change fun w => h.addCall w c hc

theorem answer :
    Keeps P (Answered Q) Q Engine.answer := by
  refine Keeps.bind (.step h.nextAnswer h.answered) fun a ha => ?_
  have hraise : Keeps P _ Q (Engine.raise? a.failure) := raise fun i hi => ha i (.inl hi)
  exact hraise.bind fun _ _ => .pure ha

theorem checkEncodable
    (sql : Value) :
    Keeps P (fun _ => True) Q (Engine.checkEncodable sql) := by
  unfold Engine.checkEncodable
  cases hfault : Engine.encodingFault? sql with
  | none =>
      exact .result trivial
  | some f =>
      obtain ⟨run, rfl⟩ | hinternal := Engine.unencodable_or_internal hfault
      · exact .fail (h.unencodable run)
      · exact .fail (h.internal f hinternal)

theorem execute
    {sql : Value} {params : List Value} (hcall : A (.execute sql params)) :
    Keeps P (Answered Q) Q (Engine.execute sql params) :=
  (h.report hcall).bind fun _ _ => (Keeps.wait _).bind fun _ _ =>
    (h.checkEncodable sql).bind fun _ _ => h.answer

theorem fetch
    {cursor : Answer} (hcursor : Answered Q cursor) (hcall : A .fetch) :
    Keeps P (fun _ => True) Q (Engine.fetch cursor) :=
  (h.report hcall).bind fun _ _ => (Keeps.wait _).bind fun _ _ =>
    (raise fun i hi => hcursor i (.inr (.inl hi))).bind fun _ _ => .pure trivial

theorem closingCursor
    {cursor : Answer} (hcursor : Answered Q cursor) (hcall : A .closeCursor) {m : Routine α}
    (hm : Keeps P R Q m) :
    Keeps P R Q (Engine.closingCursor cursor m) :=
  hm.followedBy ((h.report hcall).bind fun _ _ => raise fun i hi => hcursor i (.inr (.inr hi)))

end Calling

end Datalink
