import Datalink.Proofs.Engine.Exchange
import Datalink.Proofs.Session.Operation

/-!
# What operations keep

A statement that is sent over a channel makes the calls of that channel and no others.

Results: it keeps every property that is steady under these calls.  An operation, called on
a session or through transactions, keeps what is undisturbed if its statement does, so it
keeps what is steady under the calls of its channel.  The phases of the transactions are
steady.  A changing statement fails with a fault that has words, unless the engine asked
the program to stop.
-/

namespace Datalink

open Routine (Keeps)

theorem Session.statementText_failsInternally
    (sql : Value) (params : List Value) :
    FailsInternally (statementText sql params) :=
  sql.words_failsInternally.bind fun _ =>
    (Value.printed_failsInternally _).bind fun _ => trivial

theorem Value.equals_failsInternally
    (a b : Value) :
    FailsInternally (a.equals b) := by
  unfold equals
  split
  · trivial
  · trivial

theorem Value.compare_failsInternally
    (o : Value.Order) (a b : Value) :
    FailsInternally (Value.compare o a b) := by
  unfold Value.compare
  split
  · split
    · trivial
    · trivial
  · trivial

theorem Session.changedRows_failsInternally
    (count : Value) :
    FailsInternally (changedRows count) := by
  have hequals := count.equals_failsInternally (.int (-1))
  have hcompare := Value.compare_failsInternally .less count (.int 0)
  unfold changedRows
  cases he : count.equals (.int (-1)) with
  | error f =>
      exact hequals.error he
  | ok same =>
      cases same with
      | true =>
          trivial
      | false =>
          cases hc : count.compare .less (.int 0) with
          | error f =>
              exact hcompare.error hc
          | ok negative =>
              cases negative with
              | false =>
                  trivial
              | true =>
                  change Fault.Internal (refuseCount count)
                  unfold refuseCount
                  split <;> trivial

theorem Table.admitRows_failsInternally
    (columns : List Value) (rows : List (List Value)) :
    FailsInternally (admitRows columns rows) := by
  induction rows with
  | nil =>
      trivial
  | cons row rows ih =>
      by_cases hrow : row.length = columns.length
      · cases hrows : admitRows columns rows with
        | ok rest =>
            simp only [admitRows, admitRow, hrow, hrows, if_true]
            trivial
        | error f =>
            simp only [admitRows, admitRow, hrow, hrows, if_true]
            exact ih.error hrows
      · simp only [admitRows, admitRow, hrow, if_false]
        trivial

theorem Table.ofRows_failsInternally
    (columns : List Value) (rows : List (List Value)) :
    FailsInternally (ofRows columns rows) := by
  have hrows := admitRows_failsInternally columns rows
  unfold ofRows
  cases hadmitted : admitRows columns rows with
  | ok rows =>
      trivial
  | error f =>
      exact hrows.error hadmitted

mutual

theorem Value.keyFault?_internal
    (v : Value) {f : Fault} (h : v.keyFault? = some f) :
    f.Internal := by
  cases v with
  | tuple items =>
      exact keyFaultIn?_internal items h
  | bytes form data =>
      cases form <;> cases h
      trivial
  | decimal d =>
      cases d with
      | notANumber negative signaling payload =>
          cases signaling <;> cases h
          trivial
      | _ =>
          cases h
  | list items =>
      cases h
      trivial
  | set items =>
      cases h
      trivial
  | mapping entries =>
      cases h
      trivial
  | _ =>
      cases h

theorem Value.keyFaultIn?_internal
    (vs : List Value) {f : Fault} (h : Value.keyFaultIn? vs = some f) :
    f.Internal := by
  cases vs with
  | nil =>
      cases h
  | cons v vs =>
      unfold keyFaultIn? at h
      cases hv : v.keyFault? with
      | some g =>
          simp only [hv] at h
          cases h
          exact keyFault?_internal v hv
      | none =>
          simp only [hv] at h
          exact keyFaultIn?_internal vs h

end

theorem Value.checkKey_failsInternally
    (v : Value) :
    FailsInternally v.checkKey := by
  unfold checkKey
  cases hkey : v.keyFault? with
  | some f =>
      exact v.keyFault?_internal hkey
  | none =>
      trivial

theorem Value.isIn_failsInternally
    (v : Value) (members : List Value) :
    FailsInternally (v.isIn members) := by
  have hkey := v.checkKey_failsInternally
  unfold isIn
  split
  · trivial
  · cases hcheck : v.checkKey with
    | error f =>
        exact hkey.error hcheck
    | ok _ =>
        trivial

theorem Session.secondColumn_failsInternally
    (rows : List (List Value)) :
    FailsInternally (secondColumn rows) := by
  induction rows with
  | nil =>
      trivial
  | cons row rows ih =>
      match row with
      | [] => trivial
      | [_] => trivial
      | _ :: v :: _ =>
          have hkey := v.checkKey_failsInternally
          rw [secondColumn]
          cases hcheck : v.checkKey with
          | error f =>
              exact hkey.error hcheck
          | ok _ =>
              cases hrows : secondColumn rows with
              | error f =>
                  exact ih.error hrows
              | ok vs =>
                  trivial

theorem Routine.Keeps.phase
    {P : World → Prop} {Q : Fault → Prop} (id : Nat) :
    Keeps P (fun _ => True) Q (Handle.phase id) :=
  .step (fun _ hw => hw) fun _ _ => trivial

/-- An operation called through every transaction on the way, any of which may refuse it. -/
theorem Routine.Keeps.forward
    {α : Type} {P : World → Prop} {R : α → Prop} {Q : Fault → Prop} {m : Routine α}
    (hm : Keeps P R Q m) (hQ : ∀ f : Fault, f.Internal → Q f) (handle : Handle) :
    Keeps P R Q (handle.forward m) := by
  induction handle with
  | session =>
      exact hm
  | within id base ih =>
      have hstarted : Keeps P (fun _ => True) Q (Handle.ensureStarted id) := by
        refine (Keeps.phase id).bind fun phase _ => ?_
        split
        · exact .pure trivial
        · exact .fail (hQ _ trivial)
      exact hstarted.bind fun _ _ => ih

/-- The calls to the engine that attaching a database takes if the name is not attached yet
and nothing fails. -/
def Session.attachCalls (s : Session) (name : Value) : List EngineCall :=
  [.execute listStatement [], .fetch, .closeCursor,
    .execute attachStatement [s.settings.path, name], .execute (foreignKeyStatement true) []]

/-- Those of them that are made without a line about their statement. -/
def Session.unannouncedCalls : List EngineCall :=
  [.execute listStatement [], .fetch, .closeCursor, .execute (foreignKeyStatement true) []]

theorem Session.mem_attachCalls_of_unannounced
    (s : Session) (name : Value) {call : EngineCall} (h : call ∈ unannouncedCalls) :
    call ∈ s.attachCalls name := by
  simp only [unannouncedCalls, List.mem_cons, List.not_mem_nil, or_false] at h
  rcases h with rfl | rfl | rfl | rfl <;> simp [attachCalls]

namespace Calling

variable {α : Type} {A : EngineCall → Prop} {P : World → Prop} {R : α → Prop}
variable {Q : Fault → Prop} (h : Calling A P Q)
include h

theorem guarded
    (s : Session) {m : Routine α} (hm : Keeps P R Q m) :
    Keeps P R Q (s.guarded m) := by
  have hconnected : Keeps P (fun _ => True) Q Session.connected :=
    .step (fun _ hw => hw) fun _ _ => trivial
  refine (Keeps.wait _).bind fun _ _ => hconnected.bind fun connected _ => ?_
  cases connected with
  | true =>
      exact hm
  | false =>
      exact .fail (h.internal _ trivial)

section Lines

variable (s : Session) (hline : ∀ w text, P w → P (w.addLine ⟨s.logger, .error, text⟩))
include hline

theorem wrapping
    (sql : Value) {m : Routine α} (hm : Keeps P R Q m) :
    Keeps P R Q (s.wrapping sql m) := by
  refine hm.attempt.bind fun r hr => ?_
  cases r with
  | ok a =>
      exact .pure hr
  | error f =>
      change Keeps P R Q (if f.isEngineFailure then _ else Routine.fail f)
      split
      · refine Keeps.bind (.ofExcept (f.words_failsInternally.outcome h.internal))
          fun _ _ => ?_
        have hnote : ∀ text, Keeps P (fun _ => True) Q (Measure.note s.logger .error text) :=
          fun text => .change fun w => hline w text
        exact (hnote _).bind fun _ _ => .fail (h.internal _ trivial)
      · exact .fail hr

/-- Attaching a database keeps what the calls do not break that it may take, if the statement
that attaches, which is announced, keeps it. -/
theorem attach
    {name : Value}
    (hsent : Keeps P (fun _ => True) Q (do
      s.noteStatement Session.attachStatement [s.settings.path, name]
      s.wrapping Session.attachStatement
        (Engine.execute Session.attachStatement [s.settings.path, name])))
    (hcalls : ∀ call ∈ Session.unannouncedCalls, A call) :
    Keeps P (fun _ => True) Q (s.attach name) := by
  have hlist : A (.execute Session.listStatement []) :=
    hcalls _ (by simp [Session.unannouncedCalls])
  have hfetch : A .fetch := hcalls _ (by simp [Session.unannouncedCalls])
  have hclose : A .closeCursor := hcalls _ (by simp [Session.unannouncedCalls])
  have hkeys : A (.execute (Session.foreignKeyStatement true) []) :=
    hcalls _ (by simp [Session.unannouncedCalls])
  refine h.guarded s ?_
  have hattached : Keeps P (fun _ => True) Q (s.wrapping Session.listStatement do
      let cursor ← Engine.execute Session.listStatement []
      Engine.closingCursor cursor do
        let rows ← Engine.fetch cursor
        Routine.ofExcept (Session.secondColumn rows)) :=
    h.wrapping s hline _ <| (h.execute hlist).bind fun cursor hcursor =>
      h.closingCursor hcursor hclose <| (h.fetch hcursor hfetch).bind fun rows _ =>
        .ofExcept ((Session.secondColumn_failsInternally rows).outcome h.internal)
  refine hattached.bind fun attached _ => ?_
  have hisIn := (name.isIn_failsInternally attached).outcome h.internal
  refine (Keeps.ofExcept hisIn).bind fun known _ => ?_
  have hlast : Keeps P (fun _ => True) Q (do
      let _ ← s.wrapping (Session.foreignKeyStatement true)
        (Engine.execute (Session.foreignKeyStatement true) [])
      return ()) :=
    (h.wrapping s hline _ (h.execute hkeys)).bind fun _ _ => .pure trivial
  cases known with
  | true =>
      exact hlast
  | false =>
      have hboth := hsent.bind fun _ _ => hlast
      rw [bind_assoc] at hboth
      exact hboth

end Lines

/-- A statement sent over a channel keeps what the calls of that channel do not break, if its
announcement together with the call that it announces keeps it. -/
theorem send
    (s : Session) {sql : Value} {values : List Value} {c : Channel}
    (hsent : ∀ {β : Type} {S : β → Prop} {call : EngineCall} {params : List Value}
      {rest : Routine β}, call ∈ c.calls sql values → call.statement? = some (sql, params) →
        Keeps P S Q rest →
          Keeps P S Q (do
            s.noteStatement sql params
            s.wrapping sql do
              Engine.report call
              rest))
    (hcalls : ∀ call ∈ c.calls sql values, call.statement? = none → A call) :
    Keeps P (fun _ => True) Q (c.send s sql values) := by
  have hanswered : Keeps P (Answered Q) Q (do
      Routine.wait .engine
      Engine.checkEncodable sql
      Engine.answer) :=
    (Keeps.wait _).bind fun _ _ => (h.checkEncodable sql).bind fun _ _ => h.answer
  cases c with
  | reading =>
      have hexecute : .execute sql values ∈ Channel.reading.calls sql values := by
        simp [Channel.calls]
      have hfetch : A .fetch := hcalls _ (by simp [Channel.calls]) rfl
      have hclose : A .closeCursor := hcalls _ (by simp [Channel.calls]) rfl
      have hrows := h.guarded s <| hsent hexecute rfl <|
        hanswered.bind fun cursor hcursor =>
          h.closingCursor hcursor hclose <| (h.fetch hcursor hfetch).bind fun rows _ =>
            Keeps.pure (a := (cursor.columns.getD [], rows)) (R := fun _ => True) trivial
      exact hrows.bind fun _ _ => .ofExcept ((Table.ofRows_failsInternally ..).outcome h.internal)
  | changing =>
      have hexecute : .execute sql values ∈ Channel.changing.calls sql values := by
        simp [Channel.calls]
      have hclose : A .closeCursor := hcalls _ (by simp [Channel.calls]) rfl
      refine h.guarded s <| hsent hexecute rfl <|
        hanswered.bind fun cursor hcursor => h.closingCursor hcursor hclose ?_
      have hcount := Session.changedRows_failsInternally cursor.rowCount
      exact (Keeps.ofExcept (hcount.outcome h.internal)).bind fun _ _ => .pure trivial
  | script =>
      have hscript : EngineCall.script sql ∈ Channel.script.calls sql values := by
        simp [Channel.calls]
      exact h.guarded s <| hsent hscript rfl <|
        (Keeps.wait _).bind fun _ _ => (h.checkEncodable sql).bind fun _ _ =>
          h.answer.bind fun _ _ => .pure trivial

end Calling

namespace Dealing

variable {α : Type} {A : EngineCall → Prop} {P : World → Prop} {R : α → Prop}
variable {Q : Fault → Prop} (h : Dealing A P Q)
include h

theorem noteStatement
    (s : Session) (sql : Value) (params : List Value) :
    Keeps P (fun _ => True) Q (s.noteStatement sql params) := by
  unfold Session.noteStatement
  split
  · have htext := Session.statementText_failsInternally sql params
    exact (Keeps.ofExcept (htext.outcome h.internal)).bind fun _ _ => .note h.addLine ..
  · exact .result trivial

/-- What is sent is noted, and failures of the engine are wrapped. -/
theorem sent
    (s : Session) (sql : Value) (values : List Value) {m : Routine α} (hm : Keeps P R Q m) :
    Keeps P R Q (do
      s.noteStatement sql values
      s.wrapping sql m) :=
  (h.noteStatement s sql values).bind fun _ _ => h.wrapping s (fun w _ => h.addLine w _) sql hm

/-- A statement sent over a channel keeps what the calls of that channel do not break. -/
theorem send
    (s : Session) {sql : Value} {values : List Value} {c : Channel}
    (hcalls : ∀ call ∈ c.calls sql values, A call) :
    Keeps P (fun _ => True) Q (c.send s sql values) :=
  h.toCalling.send s
    (fun hcall _ hrest => h.sent s _ _ ((h.report (hcalls _ hcall)).bind fun _ _ => hrest))
    fun call hcall _ => hcalls call hcall

/-- Attaching a database keeps what none of the calls breaks that it may take. -/
theorem attach
    (s : Session) {name : Value} (hcalls : ∀ call ∈ s.attachCalls name, A call) :
    Keeps P (fun _ => True) Q (s.attach name) := by
  have hattach : A (.execute Session.attachStatement [s.settings.path, name]) :=
    hcalls _ (by simp [Session.attachCalls])
  refine h.toCalling.attach s (fun w _ => h.addLine w _) ?_ fun call hcall =>
    hcalls call (s.mem_attachCalls_of_unannounced name hcall)
  exact h.sent s _ _ ((h.execute hattach).mono (fun _ _ => trivial) fun _ hf => hf)

end Dealing

/-- An operation keeps what its statement keeps, once that is prepared. -/
theorem Operation.keeps_perform
    {P : World → Prop} {Q : Fault → Prop} (s : Session) (handle : Handle) (o : Operation)
    (hinternal : ∀ f : Fault, f.Internal → Q f)
    (hprepare : ∀ f, o.prepare = .error f → Q f)
    (hsend : ∀ sql values, o.prepare = .ok (sql, values) →
      Keeps P (fun _ => True) Q (o.sendMeasured s sql values)) :
    Keeps P (fun _ => True) Q (o.perform s handle) := by
  rw [perform_eq_forward, perform_session]
  refine Keeps.forward ?_ hinternal handle
  have hprepared : Keeps P (fun st => o.prepare = .ok st) Q (Routine.ofExcept o.prepare) := by
    refine .ofExcept ?_
    cases hst : o.prepare with
    | ok st =>
        rfl
    | error f =>
        exact hprepare f hst
  exact hprepared.bind fun st hst => (hsend st.1 st.2 hst).bind fun _ _ => .pure trivial

/-- A statement without parameters, sent through every transaction on the way. -/
theorem Setting.executeRawWithin
    {A : EngineCall → Prop} {P : World → Prop} {Q : Fault → Prop} (h : Setting A P Q)
    (s : Session) (sql : Value) (handle : Handle)
    (hcalls : ∀ call ∈ Channel.changing.calls sql [], A call) :
    Keeps P (fun _ => True) (fun f => Q f ∧ f.Measured) (handle.executeRaw s sql .null) := by
  refine (Operation.executeRaw sql .null).keeps_perform s handle
    (fun f hf => ⟨h.internal f hf, fun _ => hf.worded⟩) (by rintro f ⟨⟩) ?_
  rintro sql' values ⟨⟩
  exact h.measured (h.dealing.send s (c := .changing) hcalls) h.internal ..

/-- An operation keeps what is steady under the calls of its channel. -/
theorem Steady.perform
    {A : EngineCall → Prop} {P : World → Prop} (h : Steady A P) (s : Session)
    (handle : Handle) (o : Operation)
    (hcalls : ∀ sql values, o.prepare = .ok (sql, values) →
      ∀ call ∈ o.channel.calls sql values, A call) :
    Keeps P (fun _ => True) (fun _ => True) (o.perform s handle) := by
  refine o.keeps_perform s handle (fun _ _ => trivial) (fun _ _ => trivial)
    fun sql values hst => ?_
  have hsend := h.setting.dealing.send s (hcalls sql values hst)
  exact (h.measured hsend (fun _ _ => trivial) ..).mono (fun _ _ => trivial) fun _ _ => trivial

/-- A statement that is sent leaves the ledger to whoever measures it. -/
theorem Channel.holding_send
    (s : Session) (c : Channel) (sql : Value) (values : List Value) (w : World) :
    (Routine.run (c.send s sql values) w).2.Holding w.ledger w.files :=
  ((dealing_holding w.ledger w.files).send s fun _ _ => trivial).world w ⟨rfl, rfl⟩

/-- Attaching a database is not measured. -/
theorem Session.holding_attach
    (s : Session) (name : Value) (w : World) :
    (Routine.run (s.attach name) w).2.Holding w.ledger w.files :=
  ((dealing_holding w.ledger w.files).attach s fun _ _ => trivial).world w ⟨rfl, rfl⟩

/-- The phases of all transactions are steady, and so are the answers that the engine has
still to give if they all have a property. -/
theorem steady_phases
    (phases : List Phase) (A : Answer → Prop) :
    Steady (fun _ => True) fun w => w.phases = phases ∧ ∀ a ∈ w.answers, A a where
  addCall _ _ _ h := h
  addLine _ _ h := h
  nextAnswer w h := by
    unfold World.nextAnswer
    cases ha : w.answers with
    | nil =>
        rw [ha] at h
        exact ⟨h.1, by simp [ha]⟩
    | cons a rest =>
        exact ⟨h.1, fun b hb => h.2 b (by rw [ha]; exact List.mem_cons_of_mem a hb)⟩
  nextReading w h := by
    obtain ⟨c, hc⟩ := w.nextReading_eq
    rw [hc]
    exact h
  onLedger w f h := by
    obtain ⟨ledger, files, hledger⟩ := w.onLedger_eq f
    rw [hledger]
    exact h

/-- If the failures of all answers have a property, so have the faults that there may be. -/
theorem setting_answered
    {Q : Fault → Prop} (phases : List Phase) (hunencodable : ∀ run, Q (.unencodable run))
    (hinternal : ∀ f : Fault, f.Internal → Q f) :
    Setting (fun _ => True) (fun w => w.phases = phases ∧ ∀ a ∈ w.answers, Answered Q a) Q :=
  { steady_phases phases (Answered Q) with
    answered := by
      intro w hw
      unfold World.nextAnswer
      cases ha : w.answers with
      | nil =>
          rintro i (hi | hi | hi) <;> cases hi
      | cons a rest =>
          exact hw.2 a (by rw [ha]; exact List.mem_cons_self)
    unencodable := hunencodable
    internal := hinternal }

end Datalink
