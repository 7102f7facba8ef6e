import Datalink.Proofs.Engine.Recording
import Datalink.Proofs.Ledger.Tallies
import Datalink.Proofs.Session.Breakdown
import Datalink.Proofs.Transaction.Lifecycle
import Datalink.Proofs.Transaction.Requests

/-!
# What a session leaves in its ledger

A run is a list of occasions.  On each a step is taken, with the answers that the engine
has for it and the files that the ledger finds, so that the engine and the journal fail as
they like.  The failures of the engine do not ask the program to stop and have words, and
the statements that are handed over can be written.

Results: a statement operation counts once under the name of its channel, and once as a
failure if it failed.  Nothing else counts, and there are tallies of no other names.
-/

namespace Datalink

open Routine (Keeps run)

instance Handle.decidableIsOpen (w : World) : (h : Handle) → Decidable (h.IsOpen w)
  | session => isTrue trivial
  | within id base =>
      have := decidableIsOpen w base
      inferInstanceAs (Decidable (w.phase id = .started ∧ base.IsOpen w))

/-- A statement operation that came as far as its channel, and whether it failed. -/
structure Dispatch where
  channel : Channel
  failed : Bool
deriving DecidableEq, Inhabited

/-- The dispatch of an operation.  It comes as far as its channel if it is called through
open transactions, and its statement can be made and its parameters bound. -/
def Operation.dispatch? (s : Session) (h : Handle) (o : Operation) (w : World) :
    Option Dispatch :=
  if h.IsOpen w ∧ o.prepare.isOk = true then
    some { channel := o.channel, failed := !(run (o.perform s h) w).1.isOk }
  else
    none

/-- Whether a ledger is another one with a dispatch counted. -/
structure Dispatch.Counts (d : Dispatch) (l l' : Ledger) : Prop where
  calls : ∀ name, l'.callsOf name = l.callsOf name + if name = d.channel.name then 1 else 0
  failures : ∀ name, l'.failuresOf name =
    l.failuresOf name + if name = d.channel.name ∧ d.failed = true then 1 else 0
  names : ∀ k ∈ l'.names, k ∈ l.names ∨ k = .text d.channel.name

theorem Dispatch.counts_record
    {d : Dispatch} (l : Ledger) {o : Observation} (hname : o.name = .text d.channel.name)
    (hsuccess : o.success = .bool !d.failed) (files : FileTree) :
    d.Counts l (l.record o files).1 where
  calls := l.callsOf_record (by rw [hname]; rfl) files
  failures name := by
    have htruthy : o.success.truthy = !d.failed := by
      rw [hsuccess]
      rfl
    rw [l.failuresOf_record (by rw [hname]; rfl) files, htruthy]
    cases d.failed <;> simp
  names _ h := by
    rw [← hname]
    exact l.mem_names_record (by rw [hname]; rfl) files h

/-- Whether a dispatch is counted between two worlds, if there is a ledger. -/
def Dispatch.CountedBetween (d : Dispatch) (w w' : World) : Prop :=
  ∃ count : Ledger → Ledger, w'.ledger = w.ledger.map count ∧ ∀ l, d.Counts l (count l)

/-- What comes of a statement that is sent is an outcome that the ledger takes, if the engine
fails with words and without asking the program to stop. -/
theorem Channel.measurable_send
    (s : Session) (c : Channel) (sql : Value) (values : List Value) {w : World}
    (hcalm : w.Calm) (hworded : w.Worded) :
    Measure.Measurable (run (c.send s sql values) w).1 := by
  let Usual (f : Fault) : Prop := f.isInterrupt = false ∧ f.Worded
  have hsetting := setting_answered (Q := Usual) w.phases (fun _ => ⟨rfl, rfl⟩) fun _ hf =>
    ⟨hf.not_interrupt, hf.worded⟩
  have hkeeps : Keeps _ (fun _ => True) Usual (c.send s sql values) :=
    hsetting.dealing.send s fun _ _ => trivial
  have houtcome := hkeeps.outcome w
    ⟨rfl, fun a ha i hi => ⟨hcalm a ha i hi, hworded a ha i hi⟩⟩
  cases hr : (run (c.send s sql values) w).1 with
  | ok back =>
      trivial
  | error f =>
      rw [hr] at houtcome
      exact ⟨houtcome.1, f.worded_iff.mp houtcome.2⟩

namespace Operation

variable {s : Session} {h : Handle} {o : Operation} {w : World}

/-- An operation that is not dispatched leaves the world as it was. -/
theorem perform_of_not_dispatched
    (hnone : o.dispatch? s h w = none) :
    (run (o.perform s h) w).2 = w := by
  by_cases hopen : h.IsOpen w
  · cases hprepare : o.prepare with
    | error f =>
        rw [run, perform_of_unprepared s hopen hprepare]
        rfl
    | ok st =>
        have hok : o.prepare.isOk = true := by
          rw [hprepare]
          rfl
        rw [dispatch?, if_pos ⟨hopen, hok⟩] at hnone
        cases hnone
  · obtain ⟨phase, hrefused⟩ := o.perform_of_not_isOpen s hopen
    rw [run, hrefused]
    rfl

theorem displayable_of_prepare
    (hwritten : o.written = true) {sql : Value} {values : List Value}
    (hprepare : o.prepare = .ok (sql, values)) :
    sql.displayable = true := by
  obtain ⟨params, hstatement, -⟩ := exists_of_prepare hprepare
  rw [written, hstatement] at hwritten
  exact hwritten

/-- A prepared operation is measured, and the ledger takes what measuring hands to it: one
observation of the statement with its parameters as they were bound, or none. -/
theorem ledger_of_prepared
    (hopen : h.IsOpen w) {sql : Value} {values : List Value}
    (hprepare : o.prepare = .ok (sql, values)) :
    let unmeasured := (run (o.channel.send s sql values) w.nextReading.2).1
    let a := run (o.perform s h) w
    (Measure.Measurable unmeasured ∧ sql.displayable = true →
        a.1.isOk = unmeasured.isOk ∧ ∃ elapsed, a.2.ledger = w.ledger.map fun l =>
          (l.record (Measure.sighting o.channel.name sql values elapsed unmeasured) w.files).1) ∧
      (¬ (Measure.Measurable unmeasured ∧ sql.displayable = true) →
        a.1.isOk = false ∧ a.2.Holding w.ledger w.files) := by
  intro unmeasured a
  obtain ⟨c, hc⟩ := w.nextReading_eq
  have hheld := o.channel.holding_send s sql values w.nextReading.2
  rcases hsent : run (o.channel.send s sql values) w.nextReading.2 with ⟨r, w'⟩
  rw [hsent, hc] at hheld
  have hr : unmeasured = r := congrArg Prod.fst hsent
  have hitems : (Value.tuple values).asItems = .ok values := rfl
  obtain ⟨hnoted, hunnoted⟩ := Measure.ledger_run .measure o.channel.name sql hitems
    (allPrintable_of_prepare hprepare) hsent
  rcases hmeasured : run (o.sendMeasured s sql values) w with ⟨back, w''⟩
  have ha : a = (back.map o.finish, w'') := run_perform_of_prepared s hopen hprepare hmeasured
  have hback : (back.map o.finish).isOk = back.isOk := by
    cases back <;> rfl
  change run (Measure.run .measure (.text o.channel.name) sql (.tuple values) _) w = _ at hmeasured
  rw [hmeasured, hheld.1, hheld.2] at hnoted hunnoted
  rw [ha, hr, hback]
  refine ⟨fun hyes => ?_, fun hno => hunnoted hno⟩
  obtain ⟨hsame, hledger⟩ := hnoted hyes
  exact ⟨congrArg Except.isOk hsame, hledger⟩

/-- Any other is counted by the observation of it. -/
theorem counted_of_dispatched
    (hcalm : w.Calm) (hworded : w.Worded) (hwritten : o.written = true) {d : Dispatch}
    (hsome : o.dispatch? s h w = some d) :
    d.CountedBetween w (run (o.perform s h) w).2 := by
  obtain ⟨⟨hopen, hok⟩, hd⟩ := Option.ite_none_right_eq_some.mp hsome
  cases hd
  cases hprepare : o.prepare with
  | error f =>
      rw [hprepare] at hok
      cases hok
  | ok st =>
      obtain ⟨sql, values⟩ := st
      obtain ⟨c, hc⟩ := w.nextReading_eq
      have hmeasurable : Measure.Measurable
          (run (o.channel.send s sql values) w.nextReading.2).1 := by
        rw [hc]
        exact o.channel.measurable_send s sql values hcalm hworded
      obtain ⟨hback, elapsed, hledger⟩ := (ledger_of_prepared (s := s) hopen hprepare).1
        ⟨hmeasurable, displayable_of_prepare hwritten hprepare⟩
      refine ⟨_, hledger, fun l => Dispatch.counts_record l rfl ?_ _⟩
      rw [hback, Bool.not_not]
      rfl

end Operation

namespace Session

/-- The dispatch of what a step asks for. -/
def Step.dispatch? (s : Session) (w : World) (st : Step) : Option Dispatch :=
  (st.request? w).bind fun r => r.operation.dispatch? s r.handle r.world

section Steps

variable {s : Session} {st : Step} {w : World}

/-- A step that is not dispatched leaves the ledger and its files alone. -/
theorem Step.holding_of_not_dispatched
    (hnone : st.dispatch? s w = none) :
    (run (st.perform s) w).2.Holding w.ledger w.files := by
  have hbehind := st.holding s w
  cases hrequest : st.request? w with
  | none =>
      rw [hrequest] at hbehind
      exact hbehind
  | some r =>
      rw [dispatch?, hrequest] at hnone
      have hworld : r.behind s = r.world := Operation.perform_of_not_dispatched hnone
      rw [hrequest] at hbehind
      change (run (st.perform s) w).2.Holding (r.behind s).ledger (r.behind s).files at hbehind
      obtain ⟨⟨phases, ls, hasked⟩, -⟩ := st.request_told hrequest
      rw [hworld, hasked] at hbehind
      exact hbehind

/-- Any other is counted. -/
theorem Step.counted_of_dispatched
    (hcalm : w.Calm) (hworded : w.Worded) (hwritten : st.written = true) {d : Dispatch}
    (hsome : st.dispatch? s w = some d) :
    d.CountedBetween w (run (st.perform s) w).2 := by
  obtain ⟨r, hrequest, hdispatch⟩ := Option.bind_eq_some_iff.mp hsome
  obtain ⟨⟨phases, ls, hasked⟩, hasks⟩ := Step.request_told hrequest
  have hbehind := st.holding s w
  rw [hrequest] at hbehind
  have hcalm' : r.world.Calm := hasked ▸ hcalm
  have hworded' : r.world.Worded := hasked ▸ hworded
  obtain ⟨count, hcounted, hcounts⟩ :=
    Operation.counted_of_dispatched hcalm' hworded' (hasks hwritten) hdispatch
  have hledger : r.world.ledger = w.ledger := by
    rw [hasked]
  rw [hledger] at hcounted
  exact ⟨count, hbehind.1.trans hcounted, hcounts⟩

end Steps

/-- A step with what it meets: the answers of the engine, and the files. -/
structure Occasion where
  step : Step
  answers : List Answer
  files : FileTree

/-- Whether the engine fails on an occasion as it should, without asking the program to stop
and with words, and a statement that is handed over can be written. -/
structure Occasion.Usual (o : Occasion) : Prop where
  calm : ∀ a ∈ o.answers, a.Calm
  worded : ∀ a ∈ o.answers, a.Worded
  written : o.step.written = true

instance (o : Occasion) : Decidable o.Usual :=
  decidable_of_iff ((∀ a ∈ o.answers, a.Calm) ∧ (∀ a ∈ o.answers, a.Worded) ∧
      o.step.written = true)
    ⟨fun h => ⟨h.1, h.2.1, h.2.2⟩, fun h => ⟨h.calm, h.worded, h.written⟩⟩

/-- The world in which an occasion finds a session. -/
def Occasion.scene (o : Occasion) (w : World) : World :=
  { w with answers := o.answers, files := o.files }

/-- A world with a ledger that has taken nothing. -/
def freshly (w : World) (capacity : Nat) (journal : Option Journal) : World :=
  { w with ledger := some (Ledger.empty capacity journal) }

/-- The world behind an occasion. -/
def Occasion.behind (s : Session) (o : Occasion) (w : World) : World :=
  (run (o.step.perform s) (o.scene w)).2

/-- The world behind a run of occasions. -/
def live (s : Session) : World → List Occasion → World
  | w, [] => w
  | w, o :: os => s.live (o.behind s w) os

/-- The dispatches of a run of occasions. -/
def dispatches (s : Session) : World → List Occasion → List Dispatch
  | _, [] => []
  | w, o :: os => (o.step.dispatch? s (o.scene w)).toList ++ s.dispatches (o.behind s w) os

end Session

/-- Whether a ledger has counted some dispatches, each under the name of its channel, and
nothing else. -/
structure Ledger.Tallied (l : Ledger) (ds : List Dispatch) : Prop where
  calls : ∀ c : Channel, l.callsOf c.name = ds.countP fun d => d.channel = c
  failures : ∀ c : Channel, l.failuresOf c.name =
    ds.countP fun d => d.channel = c ∧ d.failed = true
  names : ∀ k ∈ l.names, ∃ c : Channel, k = .text c.name

theorem Channel.name_eq_iff
    (c d : Channel) :
    c.name = d.name ↔ d = c := by
  cases c <;> cases d <;> decide

namespace Ledger

theorem tallied_empty
    (capacity : Nat) (journal : Option Journal) :
    (empty capacity journal).Tallied [] where
  calls _ := rfl
  failures _ := rfl
  names _ h := by cases h

theorem Tallied.counted
    {l l' : Ledger} {ds : List Dispatch} {d : Dispatch} (h : l.Tallied ds)
    (hcounts : d.Counts l l') :
    l'.Tallied (ds ++ [d]) where
  calls c := by
    rw [hcounts.calls, h.calls, List.countP_append, List.countP_singleton]
    simp [Channel.name_eq_iff]
  failures c := by
    rw [hcounts.failures, h.failures, List.countP_append, List.countP_singleton]
    simp [Channel.name_eq_iff]
  names k hk := by
    rcases hcounts.names k hk with hold | hnew
    · exact h.names k hold
    · exact ⟨d.channel, hnew⟩

end Ledger

namespace Session

/-- A step that is dispatched is counted, and any other leaves the ledger alone. -/
theorem Step.tallied
    {s : Session} {st : Step} {w : World} (hcalm : w.Calm) (hworded : w.Worded)
    (hwritten : st.written = true) {l : Ledger} {ds : List Dispatch}
    (hledger : w.ledger = some l) (h : l.Tallied ds) :
    ∃ l', (run (st.perform s) w).2.ledger = some l' ∧
      l'.Tallied (ds ++ (st.dispatch? s w).toList) := by
  cases hdispatch : st.dispatch? s w with
  | none =>
      refine ⟨l, (Step.holding_of_not_dispatched hdispatch).1.trans hledger, ?_⟩
      simpa using h
  | some d =>
      obtain ⟨count, hcounted, hcounts⟩ :=
        Step.counted_of_dispatched hcalm hworded hwritten hdispatch
      rw [hledger] at hcounted
      exact ⟨count l, hcounted, h.counted (hcounts l)⟩

theorem tallied_live
    (s : Session) {os : List Occasion} (husual : ∀ o ∈ os, o.Usual) {w : World} {l : Ledger}
    {ds : List Dispatch} (hledger : w.ledger = some l) (h : l.Tallied ds) :
    ∃ l', (s.live w os).ledger = some l' ∧ l'.Tallied (ds ++ s.dispatches w os) := by
  induction os generalizing w l ds with
  | nil =>
      refine ⟨l, hledger, ?_⟩
      simpa [dispatches] using h
  | cons o os ih =>
      obtain ⟨hcalm, hworded, hwritten⟩ := husual o List.mem_cons_self
      obtain ⟨l', hbehind, hstep⟩ :=
        Step.tallied (s := s) (w := o.scene w) hcalm hworded hwritten hledger h
      obtain ⟨l'', hend, hrest⟩ :=
        ih (fun o ho => husual o (List.mem_cons_of_mem _ ho)) hbehind hstep
      refine ⟨l'', hend, ?_⟩
      rw [List.append_assoc] at hrest
      exact hrest

/-- The ledger of a run that began with an empty one has counted the dispatches of the run, each
once under the name of its channel and once as a failure if it failed, and has tallies of no
other names.  What is not dispatched leaves the ledger and its files as they were. -/
theorem tallied_behind
    (s : Session) (w : World) (capacity : Nat) (journal : Option Journal) {os : List Occasion}
    (husual : ∀ o ∈ os, o.Usual) :
    let begun := freshly w capacity journal
    (∃ l, (s.live begun os).ledger = some l ∧ l.Tallied (s.dispatches begun os)) ∧
      ∀ (st : Step) (w' : World), st.dispatch? s w' = none →
        (run (st.perform s) w').2.Holding w'.ledger w'.files := by
  intro begun
  refine ⟨?_, fun st w' hnone => Step.holding_of_not_dispatched hnone⟩
  exact s.tallied_live husual (w := begun) rfl (Ledger.tallied_empty capacity journal)

/-- A transaction begun, a row refused to it, rows looked for when the journal cannot be
written, and rows looked for when the session is closed. -/
def closingRun : List Occasion :=
  let t : Transaction := ⟨0, .session, .session⟩
  let locked : Incident := ⟨"OperationalError", .text "database is locked"⟩
  let addition : Operation := .executeRaw (.text "INSERT INTO t VALUES (1)") .null
  [⟨.transaction none, [], default⟩, ⟨.move t .enter, [], default⟩,
    ⟨.move t (.forwarded addition), [{ Answer.silent with failure := some locked }], default⟩,
    ⟨.operation lookup, [], Measure.blockedLedger.files⟩, ⟨.close, [], default⟩,
    ⟨.operation lookup, [], default⟩]

/-- Each of the two channels counts two calls, one of which failed. -/
theorem tallied_behind_closingRun :
    let begun := freshly (answering .silent) 1 (some ⟨⟨["m.json"], false⟩, .append, .json⟩)
    (∀ o ∈ closingRun, o.Usual) ∧
      ∃ l, (live default begun closingRun).ledger = some l ∧
        ∀ c ∈ [Channel.reading, .changing], l.callsOf c.name = 2 ∧ l.failuresOf c.name = 1 := by
  intro begun
  have husual : ∀ o ∈ closingRun, o.Usual := by
    decide +kernel
  have hdispatches : dispatches default begun closingRun =
      [⟨.changing, false⟩, ⟨.changing, true⟩, ⟨.reading, false⟩, ⟨.reading, true⟩] := by
    decide +kernel
  obtain ⟨⟨l, hl, htallied⟩, -⟩ := tallied_behind default (answering .silent) 1
    (some ⟨⟨["m.json"], false⟩, .append, .json⟩) husual
  change l.Tallied (dispatches default begun closingRun) at htallied
  rw [hdispatches] at htallied
  refine ⟨husual, l, hl, fun c hc => ?_⟩
  rw [htallied.calls, htallied.failures]
  revert c
  decide

end Session

end Datalink
